import UserThreads.Proofs.Governing
import UserThreads.Proofs.Parking

/-!
Unlocks from the call to the answer, wherever they come in a run.
-/

namespace UserThreads

open OrderedQueue (ahead behind byAge)

variable {n k : Nat} {C ν : Type} {machine : Machine n k C ν} {home : Fin n} {mutex : Fin k}
  {scheduler : Scheduler (Context n k C ν) ν} {first : Block (Context n k C ν) ν}
  {others : List (Block (Context n k C ν) ν)} {past : List (Moment n k C ν)}

/-- A gate is passed without the timer: this is counted, and nothing else is changed. -/
theorem Gate.close_reopen {gate : Gate} (opened : gate.closed = false)
    (silent : gate.close.2 = false) (quiet : gate.afterOpening = 0) :
    gate.close.1.reopen.1 = { gate with
      beforeClosing := gate.beforeClosing - 1
      seen := gate.seen + 1
      tally := { gate.tally with
        closings := gate.tally.closings + 1
        openings := gate.tally.openings + 1 } } := by
  have unfired : (gate.installed && (gate.beforeClosing == 1 || gate.plan (gate.seen + 1))) =
      false := by
    simpa [close, opened] using silent
  simp [close, reopen, opened, quiet, unfired]

/-- Nobody holds the mutex. -/
structure Mutex.Unheld {κ : Type} (cells : Mutex κ ν) : Prop where
  unlocked : cells.locked = false
  unowned : cells.owner? = none

namespace Machine

/-- The machine once the running thread has released the mutex, on which nobody was parked. -/
def released (machine : Machine n k C ν) (mutex : Fin k) : Machine n k C ν :=
  machine.setMutex mutex { machine.cells mutex with
    locked := false
    ownerMark := Mutex.noOwner }

/-- The machine once the running thread has released the mutex and has woken `first`, behind
which `others` are still parked. -/
def handedOn (machine : Machine n k C ν) (home : Fin n) (mutex : Fin k)
    (scheduler : Scheduler (Context n k C ν) ν) (first : Block (Context n k C ν) ν)
    (others : List (Block (Context n k C ν) ν)) : Machine n k C ν :=
  ((machine.passed home).setMutex mutex { machine.cells mutex with
    locked := false
    ownerMark := Mutex.noOwner
    waiters := ⟨⟨others⟩, others.length⟩ }).setScheduler home (scheduler.makeReady first)

theorem unheld_released (machine : Machine n k C ν) (mutex : Fin k) :
    ((machine.released mutex).cells mutex).Unheld := by
  rw [released, cells_setMutex_self]
  exact ⟨rfl, rfl⟩

theorem unheld_handedOn (machine : Machine n k C ν) (home : Fin n) (mutex : Fin k)
    (scheduler : Scheduler (Context n k C ν) ν) (first : Block (Context n k C ν) ν)
    (others : List (Block (Context n k C ν) ν)) :
    ((machine.handedOn home mutex scheduler first others).cells mutex).Unheld := by
  have cells : (machine.handedOn home mutex scheduler first others).cells mutex =
      ⟨false, Mutex.noOwner, (machine.cells mutex).status, ⟨⟨others⟩, others.length⟩⟩ :=
    (machine.passed home).cells_setMutex_self mutex _
  rw [cells]
  exact ⟨rfl, rfl⟩

theorem unlock_alone (going : machine.outcome = none)
    (owned : (machine.cells mutex).isOwnedBy (machine.thread home) = true)
    (alone : (machine.cells mutex).waiters.isEmpty = true) :
    machine.play (Move.calling (.unlock home mutex) 2) =
      { machine.released mutex with answer := .done } := by
  have released : (machine.call (.unlock home mutex)).step =
      (machine.setMutex mutex (machine.cells mutex).release).withTodo
        (.reply .done :: machine.todo) := by
    refine (machine.step_withTodo going _ _).trans ((if_pos owned).trans (if_pos alone))
  change (machine.call (.unlock home mutex)).step.step = _
  rw [released]
  exact (machine.setMutex mutex _).step_withTodo going (.reply .done) machine.todo

/-- The first thread in line is taken off the queue of the mutex and made ready. -/
theorem handOn_eq (machine : Machine n k C ν) (line : machine.parkedOn mutex = first :: others)
    (present : (machine.runtime home).scheduler = some scheduler) :
    machine.handOn home mutex =
      (((machine.setMutex mutex { machine.cells mutex with
          waiters := ⟨⟨others⟩, others.length⟩ }).report (.threadWoken first.id)).setScheduler home
        (scheduler.makeReady first)).finishWith home .done := by
  have popped : (machine.cells mutex).waiters.pop =
      (some first, ⟨⟨others⟩, others.length⟩) := by
    have line : (machine.cells mutex).waiters.threads.elements = first :: others := line
    simp only [WaitQueue.pop, OrderedQueue.popFront?, line]
    rfl
  simp only [handOn, popWaiter, popped, wake, runtime_report, runtime_setMutex, present]

/-- A piece of work behind the gate, from the gate to the answer, when the timer does not come in
between: `done` is the machine when the work is done and the gate is still closed. -/
theorem step_gated (machine : Machine n k C ν) (action : Action n k C ν)
    (rest : List (Action n k C ν)) {answer : Reply ν} {done : Machine n k C ν}
    (going : machine.outcome = none)
    (silent : (machine.runtime home).gate.close.2 = false)
    (quiet : (machine.runtime home).gate.afterOpening = 0)
    (works : ((machine.withTodo rest).setGate home (machine.runtime home).gate.close.1).perform
      action = done.finishWith home answer)
    (goes : done.outcome = none)
    (shut : (done.runtime home).gate = (machine.runtime home).gate.close.1) :
    (machine.withTodo (.close home :: action :: rest)).step.step.step.step =
      { done.opened home with answer } := by
  let within := (machine.withTodo rest).setGate home (machine.runtime home).gate.close.1
  have closed : (machine.withTodo (.close home :: action :: rest)).step =
      within.withTodo (action :: rest) :=
    (machine.step_withTodo going _ _).trans (closeGate_silent _ silent)
  have worked : (within.withTodo (action :: rest)).step = done.finishWith home answer :=
    (within.step_withTodo going action rest).trans works
  rw [closed, worked]
  refine step_out goes rfl ?_
  change (done.runtime home).gate.afterOpening = 0
  rw [shut]
  exact (Gate.afterOpening_of_close rfl).trans quiet

theorem unlock_hands_on (going : machine.outcome = none)
    (owned : (machine.cells mutex).isOwnedBy (machine.thread home) = true)
    (exact : (machine.cells mutex).waiters.Exact)
    (line : machine.parkedOn mutex = first :: others)
    (present : (machine.runtime home).scheduler = some scheduler)
    (silent : (machine.runtime home).gate.close.2 = false)
    (quiet : (machine.runtime home).gate.afterOpening = 0) :
    machine.play (Move.calling (.unlock home mutex) 5) =
      { machine.handedOn home mutex scheduler first others with
        answer := .done
        log := .threadWoken first.id :: machine.log } := by
  have waiting : ¬(machine.cells mutex).waiters.isEmpty = true := by
    rw [WaitQueue.isEmpty_iff exact]
    exact fun empty => by cases line.symm.trans empty
  let released := machine.setMutex mutex (machine.cells mutex).release
  let shut := released.setGate home (machine.runtime home).gate.close.1
  let woken := ((shut.setMutex mutex
      { (machine.cells mutex).release with waiters := ⟨⟨others⟩, others.length⟩ }).report
    (.threadWoken first.id)).setScheduler home (scheduler.makeReady first)
  have asked : (machine.call (.unlock home mutex)).step =
      released.withTodo (.close home :: .handOn home mutex :: machine.todo) :=
    (machine.step_withTodo going _ _).trans ((if_pos owned).trans (if_neg waiting))
  have seen : shut.runtime home =
      { machine.runtime home with gate := (machine.runtime home).gate.close.1 } :=
    released.runtime_setGate_self home _
  have cells : shut.cells mutex = (machine.cells mutex).release :=
    machine.cells_setMutex_self mutex _
  have handed : shut.handOn home mutex = woken.finishWith home .done := by
    have line : shut.parkedOn mutex = first :: others := by
      rw [parkedOn, cells]
      exact line
    have present : (shut.runtime home).scheduler = some scheduler := by
      rw [seen]
      exact present
    have handed := shut.handOn_eq line present
    rwa [cells] at handed
  have closed : (woken.runtime home).gate = (machine.runtime home).gate.close.1 := by
    simp only [woken, runtime_setScheduler, runtime_report, runtime_setMutex, seen]
  change (machine.call (.unlock home mutex)).step.step.step.step.step = _
  rw [asked]
  refine (released.step_gated (.handOn home mutex) machine.todo going silent quiet handed going
    closed).trans ?_
  refine ext_places (funext fun other => ?_) (funext fun other => ?_) rfl
  · change (woken.opened home).runtime other =
      (machine.handedOn home mutex scheduler first others).runtime other
    simp only [runtime_opened, handedOn, passed, woken, setScheduler, setGate, runtime_setRuntime,
      runtime_report, runtime_setMutex, seen]
    split
    · rfl
    · rename_i apart
      exact (machine.runtime_setRuntime home other _).trans (if_neg apart)
  · change (shut.setMutex mutex _).cells other =
      ((machine.passed home).setMutex mutex _).cells other
    rw [cells_setMutex, cells_setMutex]
    split
    · rfl
    · rename_i apart
      exact (machine.cells_setMutex mutex other _).trans (if_neg apart)

theorem unlock_refused (going : machine.outcome = none)
    (foreign : ¬(machine.cells mutex).isOwnedBy (machine.thread home) = true)
    (silent : (machine.runtime home).gate.close.2 = false)
    (quiet : (machine.runtime home).gate.afterOpening = 0) :
    machine.play (Move.calling (.unlock home mutex) 5) = { machine.passed home with
      answer := .failed ⟨Failure.busy, .mutexNotOwned (machine.thread home)⟩
      log := .unlockRefused (machine.thread home) :: machine.log } := by
  let shut := machine.setGate home (machine.runtime home).gate.close.1
  have asked : (machine.call (.unlock home mutex)).step =
      machine.withTodo (.close home :: .refuseUnlock home (machine.thread home) :: machine.todo) :=
    (machine.step_withTodo going _ _).trans (if_neg foreign)
  have refused : shut.perform (.refuseUnlock home (machine.thread home)) =
      (shut.report (.unlockRefused (machine.thread home))).finishWith home
        (.failed ⟨Failure.busy, .mutexNotOwned (machine.thread home)⟩) := rfl
  have closed : (shut.runtime home).gate = (machine.runtime home).gate.close.1 :=
    congrArg Runtime.gate (machine.runtime_setGate_self home _)
  change (machine.call (.unlock home mutex)).step.step.step.step.step = _
  rw [asked]
  refine (machine.step_gated _ machine.todo going silent quiet refused going closed).trans ?_
  refine ext_places (funext fun other => ?_) rfl rfl
  change (shut.opened home).runtime other = (machine.passed home).runtime other
  rw [opened_setGate]
  rfl

end Machine

/-- What an unlock by the running thread comes to, from the call to the answer. -/
structure Unlocks (home : Fin n) (past : List (Moment n k C ν)) (machine : Machine n k C ν)
    (mutex : Fin k) : Prop where
  /-- Who is parked stands in line by age, and of the same age in the order of parking. -/
  line : machine.parkedOn mutex = byAge (parkings mutex past)
  releases : (machine.cells mutex).owner? = some (machine.thread home) →
    machine.parkedOn mutex = [] →
      machine.play (Move.calling (.unlock home mutex) 2) =
          { machine.released mutex with answer := .done } ∧
        ((machine.released mutex).cells mutex).Unheld
  handsOn : (machine.cells mutex).owner? = some (machine.thread home) →
    (machine.runtime home).gate.close.2 = false →
      ∀ first others, machine.parkedOn mutex = first :: others →
        ∃ scheduler, (machine.runtime home).scheduler = some scheduler ∧
          machine.play (Move.calling (.unlock home mutex) 5) =
            { machine.handedOn home mutex scheduler first others with
              answer := .done
              log := .threadWoken first.id :: machine.log } ∧
          ((machine.handedOn home mutex scheduler first others).cells mutex).Unheld
  /-- The place of a thread that is woken. -/
  placed : ∀ scheduler, (machine.runtime home).scheduler = some scheduler → ∀ block,
    scheduler.makeReady block = { scheduler with
      ready := ⟨ahead block.age scheduler.ready.elements ++
        { block with status := .ready } :: behind block.age scheduler.ready.elements⟩ }
  refused : (machine.cells mutex).owner? ≠ some (machine.thread home) →
    (machine.runtime home).gate.close.2 = false →
      machine.play (Move.calling (.unlock home mutex) 5) = { machine.passed home with
        answer := .failed ⟨Failure.busy, .mutexNotOwned (machine.thread home)⟩
        log := .unlockRefused (machine.thread home) :: machine.log }
  /-- That the gate was passed is counted, and nothing else. -/
  passed : (machine.runtime home).gate.close.2 = false →
    machine.passed home = machine.setGate home { (machine.runtime home).gate with
      beforeClosing := (machine.runtime home).gate.beforeClosing - 1
      seen := (machine.runtime home).gate.seen + 1
      tally := { (machine.runtime home).gate.tally with
        closings := (machine.runtime home).gate.tally.closings + 1
        openings := (machine.runtime home).gate.tally.openings + 1 } }

/-- Wherever a run has come to own code, this is what an unlock would do. -/
theorem Run.unlocks (run : Run home past machine) (going : machine.outcome = none)
    (own : machine.inOwnCode = true) (mutex : Fin k) : Unlocks home past machine mutex := by
  have sound := run.sound going
  have owned_iff : (machine.cells mutex).isOwnedBy (machine.thread home) = true ↔
      (machine.cells mutex).owner? = some (machine.thread home) := decide_eq_true_iff
  constructor
  case line => exact run.parked_byAge going mutex
  case releases =>
    intro owned alone
    refine ⟨?_, machine.unheld_released mutex⟩
    exact Machine.unlock_alone going (owned_iff.mpr owned)
      ((WaitQueue.isEmpty_iff (sound.exact mutex)).mpr alone)
  case handsOn =>
    intro owned silent first others line
    cases present : (machine.runtime home).scheduler with
    | none => cases ((sound.unpopulated present).parked mutex).symm.trans line
    | some scheduler =>
        refine ⟨scheduler, rfl, ?_, machine.unheld_handedOn home mutex scheduler first others⟩
        exact Machine.unlock_hands_on going (owned_iff.mpr owned) (sound.exact mutex) line present
          silent sound.opening
  case placed =>
    intro scheduler present block
    have sorted := run.ready_ascending going present
    exact congrArg (fun elements => { scheduler with ready := ⟨elements⟩ })
      (OrderedQueue.insertByAge_eq sorted)
  case refused =>
    intro foreign silent
    exact Machine.unlock_refused going (fun owned => foreign (owned_iff.mp owned)) silent
      sound.opening
  case passed =>
    intro silent
    obtain ⟨host, rest, todo⟩ := Machine.own_of_inOwnCode own
    have opened : (machine.runtime home).gate.closed = false := (sound.own_todo todo).1
    exact congrArg (machine.setGate home) (Gate.close_reopen opened silent sound.opening)

/-- Threads 1 and 2 park on the mutex that the context holds, and the context makes thread 3. -/
def queueing : List (Move 1 1 Unit Nat) :=
  Move.calling (.init sole) 2 ++ Move.calling (.create sole ()) 5 ++
    Move.calling (.create sole ()) 5 ++ Move.calling (.lock sole sole) 4 ++
    Move.calling (.yield sole) 5 ++ Move.calling (.lock sole sole) 8 ++
    Move.calling (.lock sole sole) 7 ++ Move.calling (.create sole ()) 5

theorem unlocks_queueing :
    ((((lone 0).play queueing).cells sole).owner? = some .main ∧
        (((lone 0).play queueing).parkedOn sole).map Block.id = [⟨1⟩, ⟨2⟩]) ∧
      Unlocks sole (trail [] (lone 0) queueing) ((lone 0).play queueing) sole := by
  have run := Run.play (.start rfl ()) queueing (by decide : (lone 0).allows sole queueing = true)
  exact ⟨⟨rfl, rfl⟩, run.unlocks rfl rfl sole⟩

end UserThreads
