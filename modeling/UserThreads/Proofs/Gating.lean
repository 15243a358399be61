import UserThreads.Proofs.Answers
import UserThreads.Proofs.Entries
import UserThreads.Proofs.Fixtures
import UserThreads.Proofs.Refit

/-!
The gate along a run. It is open in own code and wherever a call comes back, and closed
at every decision. Work done with it open neither looks at the threads in queues nor
moves them, so that the timer's entry cannot come between.
-/

namespace UserThreads

variable {n k : Nat} {C ν : Type}

namespace Gate

/-- How a gate stands: whether it is closed, and in how many closings an entry of the timer
was ordered. -/
def bearing (gate : Gate) : Bool × Nat := (gate.closed, gate.beforeClosing)

variable {gate after : Gate}

theorem bearing_arm {interval : Duration} (armed : gate.arm interval = .ok after) :
    after.bearing = gate.bearing := by
  unfold arm at armed
  split at armed
  · contradiction
  · cases armed
    rfl

theorem bearing_install (installed : gate.install = .ok after) :
    after.bearing = gate.bearing := by
  unfold install at installed
  split at installed
  · contradiction
  · cases installed
    rfl

end Gate

def Machine.bearing (machine : Machine n k C ν) (home : Fin n) : Bool × Nat :=
  (machine.runtime home).gate.bearing

namespace Machine

/-- The machine with other schedulers, and other threads parked in the same numbers. -/
def furnished (machine : Machine n k C ν)
    (schedulers : Fin n → Option (Scheduler (Context n k C ν) ν))
    (threads : Fin k → OrderedQueue (Block (Context n k C ν) ν)) : Machine n k C ν :=
  machine.refit (fun index runtime => { runtime with scheduler := schedulers index })
    (fun index _ => threads index) id

end Machine

/-- The move neither looks at a scheduler or the threads on a wait queue nor changes
them: whatever stands there, it comes to the same and leaves that as it is. -/
def Moment.Spares (moment : Moment n k C ν) : Prop :=
  ∀ schedulers threads, (moment.machine.furnished schedulers threads).make moment.move =
    moment.after.furnished schedulers threads

def Action.counts : Action n k C ν → Bool
  | .countReady _ | .countCompleted _ => true
  | _ => false

/-- How a piece of work leaves the gate, if it moves it. -/
def Action.leaves? : Action n k C ν → Option Bool
  | .close _ | .closed _ => some true
  | .reopen _ | .reopened _ => some false
  | _ => none

/-- How a move leaves the gate, if it moves it. -/
def Moment.leaves? (moment : Moment n k C ν) : Option Bool :=
  match moment.move with
  | .work => moment.machine.todo.head?.bind Action.leaves?
  | _ => none

variable {home : Fin n} {past : List (Moment n k C ν)} {machine : Machine n k C ν}
  {action : Action n k C ν} {rest : List (Action n k C ν)}
  {schedulers : Fin n → Option (Scheduler (Context n k C ν) ν)}
  {threads : Fin k → OrderedQueue (Block (Context n k C ν) ν)}

namespace Machine

section furnished

@[simp] theorem gate_furnished (index : Fin n) :
    ((machine.furnished schedulers threads).runtime index).gate =
      (machine.runtime index).gate := by
  simp [furnished]

@[simp] theorem current_furnished (index : Fin n) :
    ((machine.furnished schedulers threads).runtime index).current =
      (machine.runtime index).current := by
  simp [furnished]

theorem setGate_furnished (index : Fin n) (gate : Gate) :
    (machine.furnished schedulers threads).setGate index gate =
      (machine.setGate index gate).furnished schedulers threads := by
  refine setRuntime_refit index ?_
  rw [furnished, runtime_refit]

end furnished

/-- Work that neither moves threads nor counts them does not depend on them. -/
theorem perform_furnished (machine : Machine n k C ν) (keeps : action.keepsQueues = true)
    (blind : action.counts = false) :
    (machine.furnished schedulers threads).perform action =
      (machine.perform action).furnished schedulers threads := by
  cases action with
  | schedule | begin | enroll | issue | reap | tryReap | finish | claimAgain | handOn | wakeAll
  | dropMutex | dropRuntime | deactivate | discard => cases keeps
  | countReady | countCompleted => cases blind
  | reply => rfl
  | readCurrent index =>
      simp only [perform, current_furnished]
      rfl
  | close index =>
      simp only [perform, closeGate, gate_furnished]
      split
      · rw [setGate_furnished]
        rfl
      · rw [setGate_furnished]
  | reopen index =>
      simp only [perform, reopenGate, gate_furnished]
      split
      · rw [setGate_furnished]
        rfl
      · rw [setGate_furnished]
  | closed index | reopened index =>
      simp only [perform, settleGate, gate_furnished, setGate_furnished]
  | timer =>
      have same : (machine.furnished schedulers threads).active = machine.active := rfl
      simp only [perform, enterTimer, same]
      cases machine.active <;> rfl
  | _ => exact machine.perform_refit rfl fun _ _ => rfl

section bearing

theorem bearing_setRuntime (machine : Machine n k C ν) (home : Fin n) {index : Fin n}
    {runtime : Runtime n k C ν}
    (same : runtime.gate.bearing = (machine.runtime index).gate.bearing) :
    (machine.setRuntime index runtime).bearing home = machine.bearing home := by
  rw [bearing, runtime_setRuntime]
  split
  · rename_i equal
    rw [same, equal, bearing]
  · rfl

theorem bearing_setScheduler (machine : Machine n k C ν) (home index : Fin n)
    (scheduler : Scheduler (Context n k C ν) ν) :
    (machine.setScheduler index scheduler).bearing home = machine.bearing home :=
  machine.bearing_setRuntime home rfl

theorem bearing_activate (machine : Machine n k C ν) (home index : Fin n) :
    (machine.activate index).bearing home = machine.bearing home := by
  simp only [activate]
  split
  · rfl
  · rename_i gate installed
    split
    · rfl
    · rename_i started armed
      have same : started.bearing = (machine.runtime index).gate.bearing :=
        (Gate.bearing_arm armed).trans (Gate.bearing_install installed)
      exact (machine.reportAll gate.installationLog).bearing_setRuntime home same

theorem bearing_schedule (machine : Machine n k C ν) (home index : Fin n)
    (parking : Option (Fin k)) :
    (machine.schedule index parking).bearing home = machine.bearing home := by
  have parked (waiting : Option (WaitQueue (Context n k C ν) ν)) :
      (machine.setWaiters parking waiting).runtime = machine.runtime :=
    (machine.setWaiters_frame parking waiting).1
  have kept (waiting : Option (WaitQueue (Context n k C ν) ν)) {runtime : Runtime n k C ν}
      (same : runtime.gate.bearing = (machine.runtime index).gate.bearing) :
      ((machine.setWaiters parking waiting).setRuntime index runtime).bearing home =
        machine.bearing home := by
    rw [bearing_setRuntime, bearing, parked, bearing]
    rw [same, parked]
  simp only [schedule]
  split
  · rfl
  · split
    · rfl
    · split
      · refine (bearing_setScheduler _ home index _).trans ?_
        exact congrArg (fun runtimes => (runtimes home).gate.bearing) (parked _)
      · split
        · exact congrArg (fun runtimes => (runtimes home).gate.bearing) (parked _)
        · rename_i armed
          split <;> exact kept _ (Gate.bearing_arm armed)

/-- Only a gate's own moves change how it stands. -/
theorem perform_bearing (machine : Machine n k C ν) (home : Fin n)
    (quiet : action.movesGate = false) :
    (machine.perform action).bearing home = machine.bearing home := by
  have untended (same : (machine.runtime home).Reseats ((machine.perform action).runtime home)) :
      (machine.perform action).bearing home = machine.bearing home := by
    obtain ⟨disarms, scheduler, same⟩ := same
    rw [bearing, same]
    rfl
  cases action with
  | close | closed | reopen | reopened | timer => cases quiet
  | schedule index parking => exact machine.bearing_schedule home index parking
  | enroll index entry =>
      simp only [perform, enroll]
      split
      · rfl
      · split
        · rfl
        · exact machine.bearing_activate home index
  | discard index =>
      simp only [perform, discard]
      split <;> exact bearing_setRuntime _ home rfl
  | _ => exact untended (machine.perform_reseats home rfl)

theorem perform_shut (machine : Machine n k C ν) (home : Fin n) (quiet : action.movesGate = false) :
    (machine.perform action).shut home = machine.shut home :=
  congrArg Prod.fst (machine.perform_bearing home quiet)

end bearing

end Machine

section stages

variable {me : ThreadId} {errand : Option (Move n k C ν)} {closed : Bool}

/-- Work done with the gate open keeps away from the threads in queues, but for that of
giving a mutex up. -/
theorem stage_open (stage : Stage home me errand false (action :: rest))
    (stays : ∀ mutex, action ≠ .dropMutex mutex) :
    action.keepsQueues = true ∧ action.counts = false := by
  generalize shape : action :: rest = todo at stage
  cases stage with
  | initial | own | enter => cases shape; exact ⟨rfl, rfl⟩
  | guarded asked doing way => cases way; cases shape; exact ⟨rfl, rfl⟩
  | piece asked doing =>
      cases doing <;> cases shape
      case piece.dropMutex => exact absurd rfl (stays _)
      all_goals exact ⟨rfl, rfl⟩

/-- A closing finds the gate open, but for the one by which the timer enters. -/
theorem stage_closes {index : Fin n}
    (stage : Stage home me errand closed (.close index :: rest)) :
    index = home ∧ (closed = false ∨
      ∃ behind, rest = .schedule home none :: .closed home :: behind) := by
  generalize shape : Action.close index :: rest = todo at stage
  cases stage with
  | initial | own | begin | beginning | enter => cases shape
  | guarded asked doing way =>
      cases way with
      | close => cases shape; exact ⟨rfl, .inl rfl⟩
      | timerCloses => cases shape; exact ⟨rfl, .inr ⟨_, rfl⟩⟩
      | timer | timerSchedules | closed => cases shape
      | through => cases doing <;> cases shape
  | piece asked doing => cases doing <;> cases shape

theorem stage_moves (stage : Stage home me errand closed (action :: rest))
    (gate : action.movesGate = true) :
    action = .close home ∨ action = .closed home ∨ action = .reopen home ∨ action = .timer := by
  generalize shape : action :: rest = todo at stage
  cases stage with
  | initial | own | begin | enter => cases shape; cases gate
  | beginning => cases shape; simp
  | guarded asked doing way =>
      cases way with
      | through =>
          cases doing <;> cases shape <;> first | exact .inr (.inr (.inl rfl)) | cases gate
      | timerSchedules => cases shape; cases gate
      | _ => cases shape; simp
  | piece asked doing =>
      cases doing <;> cases shape <;> first | exact .inr (.inr (.inl rfl)) | cases gate

end stages

/-- Nothing but the gate's own moves changes whether it is closed, and each of them does
what its name says. -/
theorem Sound.moves_gate {move : Move n k C ν} (sound : Sound home past machine)
    (going : machine.outcome = none) :
    (machine.make move).shut home =
      (Moment.leaves? ⟨machine, move⟩).getD (machine.shut home) := by
  cases move with
  | think | ask => rfl
  | leave => simp only [Machine.make, Machine.leave]; split <;> rfl
  | panic => simp only [Machine.make, Machine.panic]; split <;> rfl
  | work =>
      cases todo : machine.todo with
      | nil => exact absurd todo (stage_ne_nil sound.stage)
      | cons action rest =>
          have left : Moment.leaves? ⟨machine, .work⟩ = action.leaves? := by
            simp [Moment.leaves?, todo]
          rw [Machine.make, Machine.step_eq going todo, left]
          cases gate : action.movesGate with
          | false =>
              have quiet : action.leaves? = none := by cases action <;> first | rfl | cases gate
              rw [quiet]
              exact Machine.perform_shut _ home gate
          | true =>
              rcases stage_moves (todo ▸ sound.stage) gate with rfl | rfl | rfl | rfl
              · exact (Machine.closeGate_cases _ home).1
              · exact Machine.shut_setGate ..
              · exact (Machine.reopenGate_eq (machine.withTodo rest) sound.opening).1
              · simp only [Machine.perform, Machine.enterTimer]
                split <;> rfl

theorem Sound.spares {move : Move n k C ν} (sound : Sound home past machine)
    (going : machine.outcome = none) (opened : machine.shut home = false)
    (stays : ∀ mutex rest, machine.todo ≠ .dropMutex mutex :: rest) :
    Moment.Spares ⟨machine, move⟩ := by
  intro schedulers threads
  have left : (machine.furnished schedulers threads).todo = machine.todo := rfl
  cases move with
  | think | ask => rfl
  | leave =>
      simp only [Moment.after, Machine.make, Machine.leave, left]
      split <;> rfl
  | panic =>
      simp only [Moment.after, Machine.make, Machine.panic, left, Machine.current_furnished]
      split <;> rfl
  | work =>
      cases todo : machine.todo with
      | nil => exact absurd todo (stage_ne_nil sound.stage)
      | cons action rest =>
          have stage := todo ▸ sound.stage
          rw [opened] at stage
          obtain ⟨keeps, blind⟩ := stage_open stage fun mutex same => stays mutex rest (same ▸ todo)
          have done : ((machine.withTodo rest).furnished schedulers threads).perform action =
              ((machine.withTodo rest).perform action).furnished schedulers threads :=
            (machine.withTodo rest).perform_furnished keeps blind
          change (machine.furnished schedulers threads).step = machine.step.furnished _ _
          rw [Machine.step_eq going todo, ← done]
          exact Machine.step_eq going todo

end UserThreads
