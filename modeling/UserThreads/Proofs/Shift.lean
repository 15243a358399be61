import UserThreads.Proofs.Handling

/-!
What a piece of work other than a decision does to the blocks of a runtime's
threads and of the parked ones, to its settings and to the thread that runs.
-/

namespace UserThreads

variable {n k : Nat} {C ν : Type}

/-- A piece of work other than a decision leads from one machine to another. -/
inductive Shift (home : Fin n) (machine after : Machine n k C ν) : Action n k C ν → Prop
  | keeps {action : Action n k C ν}
      (same : (after.runtime home).scheduler = (machine.runtime home).scheduler)
      (parked : ∀ mutex, after.parkedOn mutex = machine.parkedOn mutex) :
      Shift home machine after action
  | activates {entry : C} {context : Context n k C ν}
      (absent : (machine.runtime home).scheduler = none)
      (present : (after.runtime home).scheduler = some (.start (.main context)))
      (parked : ∀ mutex, after.parkedOn mutex = machine.parkedOn mutex) :
      Shift home machine after (.enroll home entry)
  | issues {entry : C} {scheduler : Scheduler (Context n k C ν) ν} {nextId : UInt32}
      (present : (machine.runtime home).scheduler = some scheduler)
      (seated : (after.runtime home).scheduler =
        some (Scheduler.makeReady { scheduler with nextId }
          { Block.new (machine.runtime home).config.stackSize ⟨[.begin], entry⟩ with
            id := ⟨scheduler.nextId⟩ }))
      (next : nextId.toNat = scheduler.nextId.toNat + 1)
      (parked : ∀ mutex, after.parkedOn mutex = machine.parkedOn mutex) :
      Shift home machine after (.issue home entry)
  | begins {scheduler : Scheduler (Context n k C ν) ν}
      (present : (machine.runtime home).scheduler = some scheduler)
      (seated : (after.runtime home).scheduler =
        some { scheduler with current := scheduler.current.takeEntry.2 })
      (parked : ∀ mutex, after.parkedOn mutex = machine.parkedOn mutex) :
      Shift home machine after .begin
  | blocks {mutex : Fin k} {me : ThreadId} {scheduler : Scheduler (Context n k C ν) ν}
      (present : (machine.runtime home).scheduler = some scheduler)
      (seated : (after.runtime home).scheduler =
        some { scheduler with current := { scheduler.current with status := .blocked } })
      (parked : ∀ mutex, after.parkedOn mutex = machine.parkedOn mutex) :
      Shift home machine after (.claimAgain home mutex me)
  | completes {value : ν} {scheduler : Scheduler (Context n k C ν) ν}
      (present : (machine.runtime home).scheduler = some scheduler)
      (seated : (after.runtime home).scheduler = some { scheduler with
        current := { scheduler.current with status := .completed, value := some value } })
      (parked : ∀ mutex, after.parkedOn mutex = machine.parkedOn mutex) :
      Shift home machine after (.finish home value)
  | reaps {action : Action n k C ν} {scheduler : Scheduler (Context n k C ν) ν}
      {block : Block (Context n k C ν) ν} {completed : OrderedQueue (Block (Context n k C ν) ν)}
      (present : (machine.runtime home).scheduler = some scheduler)
      (seated : (after.runtime home).scheduler = some { scheduler with completed })
      (taken : scheduler.completed.elements.Perm (block :: completed.elements))
      (parked : ∀ mutex, after.parkedOn mutex = machine.parkedOn mutex) :
      Shift home machine after action
  | wakes {action : Action n k C ν} {mutex : Fin k} {scheduler : Scheduler (Context n k C ν) ν}
      {waiter : Block (Context n k C ν) ν}
      (present : (machine.runtime home).scheduler = some scheduler)
      (seated : (after.runtime home).scheduler = some (scheduler.makeReady waiter))
      (first : machine.parkedOn mutex = waiter :: after.parkedOn mutex)
      (elsewhere : ∀ other, other ≠ mutex → after.parkedOn other = machine.parkedOn other) :
      Shift home machine after action
  | drops {mutex : Fin k}
      (same : (after.runtime home).scheduler = (machine.runtime home).scheduler)
      (unparked : after.parkedOn mutex = [])
      (elsewhere : ∀ other, other ≠ mutex → after.parkedOn other = machine.parkedOn other) :
      Shift home machine after (.dropMutex mutex)

/-- Work of a program that has the runtime `home` alone and does not give it up. -/
def Action.KeepsTo (home : Fin n) : Action n k C ν → Prop
  | .enroll index _ | .issue index _ | .reap index _ | .tryReap index _ | .finish index _
  | .claimAgain index _ _ | .handOn index _ | .wakeAll index _ => index = home
  | .dropRuntime _ | .deactivate _ | .discard _ => False
  | _ => True

/-- The pieces of work by which a runtime is given up. -/
def Action.surrenders : Action n k C ν → Bool
  | .dropRuntime _ | .deactivate _ | .discard _ => true
  | _ => false

/-- The runtime on whose threads a piece of work is done; the active one is given. -/
def Action.host? (active : Option (Fin n)) : Action n k C ν → Option (Fin n)
  | .begin => active
  | .enroll index _ | .issue index _ | .reap index _ | .tryReap index _ | .finish index _
  | .claimAgain index _ _ | .handOn index _ | .wakeAll index _ => some index
  | _ => none

/-- What a piece of work does to all the runtimes of a machine, unless it is a decision or
gives a runtime up. -/
inductive Effect (before after : Machine n k C ν) : Action n k C ν → Prop
  | keeps {action : Action n k C ν}
      (schedulers : ∀ index, (after.runtime index).scheduler = (before.runtime index).scheduler)
      (currents : ∀ index, (after.runtime index).current = (before.runtime index).current)
      (active : after.active = before.active)
      (parked : ∀ mutex, after.parkedOn mutex = before.parkedOn mutex) :
      Effect before after action
  | shifts {action : Action n k C ν} {index : Fin n} (shift : Shift index before after action)
      (host : action.host? before.active = some index)
      (present : (before.runtime index).scheduler.isSome = true)
      (others : ∀ other, other ≠ index → after.runtime other = before.runtime other)
      (current : (after.runtime index).current = (before.runtime index).current)
      (active : after.active = before.active) : Effect before after action
  | activates {index : Fin n} {entry : C} {context : Context n k C ν}
      (absent : (before.runtime index).scheduler = none) (idle : before.active = none)
      (present : (after.runtime index).scheduler = some (.start (.main context)))
      (current : (after.runtime index).current = .main)
      (others : ∀ other, other ≠ index → after.runtime other = before.runtime other)
      (active : after.active = some index)
      (parked : ∀ mutex, after.parkedOn mutex = before.parkedOn mutex) :
      Effect before after (.enroll index entry)
  | drops {mutex : Fin k} (runtimes : after.runtime = before.runtime)
      (active : after.active = before.active) (unparked : after.parkedOn mutex = [])
      (elsewhere : ∀ other, other ≠ mutex → after.parkedOn other = before.parkedOn other) :
      Effect before after (.dropMutex mutex)

variable {home : Fin n} {past : List (Moment n k C ν)} {machine after : Machine n k C ν}
  {action : Action n k C ν} {rest : List (Action n k C ν)} {mutex : Fin k}

theorem stage_keepsTo {me : ThreadId} {errand : Option (Move n k C ν)} {closed : Bool}
    (stage : Stage home me errand closed (action :: rest)) : action.KeepsTo home := by
  generalize shape : action :: rest = todo at stage
  cases stage with
  | initial | own | begin | beginning | enter => cases shape; trivial
  | guarded asked doing way =>
      cases way with
      | close | timer | timerCloses | timerSchedules | closed => cases shape; trivial
      | through => cases doing <;> cases shape <;> trivial
  | piece asked doing => cases doing <;> cases shape <;> trivial

namespace Action.KeepsTo

theorem keeping (keepsTo : action.KeepsTo home) : action.surrenders = false := by
  cases action <;> first | rfl | exact keepsTo.elim

theorem host {active : Option (Fin n)} {index : Fin n} (keepsTo : action.KeepsTo home)
    (alone : ∀ driver, active = some driver → driver = home)
    (host : action.host? active = some index) : index = home := by
  cases action with
  | begin => exact alone index host
  | enroll | issue | reap | tryReap | finish | claimAgain | handOn | wakeAll =>
      cases host
      exact keepsTo
  | _ => cases host

end Action.KeepsTo

theorem Shift.of_withTodo {todo : List (Action n k C ν)}
    (shift : Shift home (machine.withTodo todo) after action) :
    Shift home machine after action := by
  cases shift with
  | keeps same parked => exact .keeps same parked
  | activates absent present parked => exact .activates absent present parked
  | issues present seated next parked => exact .issues present seated next parked
  | begins present seated parked => exact .begins present seated parked
  | blocks present seated parked => exact .blocks present seated parked
  | completes present seated parked => exact .completes present seated parked
  | reaps present seated taken parked => exact .reaps present seated taken parked
  | wakes present seated first elsewhere => exact .wakes present seated first elsewhere
  | drops same unparked elsewhere => exact .drops same unparked elsewhere

namespace Machine

theorem parkedOn_setMutex (machine : Machine n k C ν) (mutex other : Fin k)
    (cells : Mutex (Context n k C ν) ν) :
    (machine.setMutex mutex cells).parkedOn other =
      if mutex = other then cells.waiters.threads.elements else machine.parkedOn other := by
  rw [parkedOn, waiters_setMutex, apply_ite (fun waiters : WaitQueue _ ν =>
    waiters.threads.elements)]
  rfl

/-- A waiter taken off the queue of a mutex is made ready. -/
theorem shift_of_wake {before after : Machine n k C ν} {waiter : Block (Context n k C ν) ν}
    {remaining : WaitQueue (Context n k C ν) ν}
    (popped : (before.cells mutex).waiters.pop = (some waiter, remaining))
    (goes : ((before.setMutex mutex { before.cells mutex with waiters := remaining }).wake home
      waiter).outcome = none)
    (runtimes : after.runtime = ((before.setMutex mutex
      { before.cells mutex with waiters := remaining }).wake home waiter).runtime)
    (mutexes : after.cells =
      (before.setMutex mutex { before.cells mutex with waiters := remaining }).cells) :
    Shift home before after action := by
  obtain ⟨scheduler, present, woken⟩ := wake_eq goes
  have front : before.parkedOn mutex = waiter :: remaining.threads.elements :=
    WaitQueue.elements_of_pop popped
  have parked (other : Fin k) : after.parkedOn other =
      if mutex = other then remaining.threads.elements else before.parkedOn other := by
    rw [parkedOn, mutexes, ← parkedOn, parkedOn_setMutex]
  have present : (before.runtime home).scheduler = some scheduler := present
  have seated : (after.runtime home).scheduler = some (scheduler.makeReady waiter) := by
    rw [runtimes, woken]
    simp
  have first : before.parkedOn mutex = waiter :: after.parkedOn mutex := by
    rw [parked, if_pos rfl, front]
  exact .wakes present seated first fun other apart => by rw [parked, if_neg apart.symm]

theorem runtime_setScheduler_other (machine : Machine n k C ν) {index other : Fin n}
    (apart : other ≠ index) (scheduler : Scheduler (Context n k C ν) ν) :
    (machine.setScheduler index scheduler).runtime other = machine.runtime other := by
  rw [setScheduler, runtime_setRuntime, if_neg apart.symm]

theorem activate_others (before : Machine n k C ν) (index other : Fin n) (apart : other ≠ index) :
    (before.activate index).runtime other = before.runtime other := by
  simp only [activate]
  split
  · rfl
  · split
    · rfl
    · change (setRuntime _ index _).runtime other = _
      rw [runtime_setRuntime, if_neg apart.symm]
      rfl

theorem parkedOn_claimed (before : Machine n k C ν) {mutex : Fin k}
    {cells : Mutex (Context n k C ν) ν} (same : cells.waiters.threads =
      (before.cells mutex).waiters.threads) (other : Fin k) :
    (before.setMutex mutex cells).parkedOn other = before.parkedOn other := by
  rw [parkedOn_setMutex]
  split
  · rename_i here
    rw [same, ← here, parkedOn]
  · rfl

/-- Work that keeps the queues of threads keeps them on a machine without runtimes too. -/
theorem perform_keeps_parked (before : Machine n k C ν) (queues : action.keepsQueues = true) :
    (before.perform action).active = before.active ∧
      ∀ mutex, (before.perform action).parkedOn mutex = before.parkedOn mutex := by
  match n with
  | _ + 1 =>
      have keeps := before.perform_keepsQueues 0 queues
      refine ⟨keeps.active, fun mutex => ?_⟩
      rw [parkedOn, keeps.waiters, parkedOn]
  | 0 =>
      cases action with
      | own | reply | resumed => exact ⟨rfl, fun _ => rfl⟩
      | timer =>
          simp only [perform, enterTimer]
          split
          · exact ⟨rfl, fun _ => rfl⟩
          · rename_i index _
            exact index.elim0
      | initMutex =>
          simp only [perform, initMutex]
          split
          · exact ⟨rfl, fun _ => rfl⟩
          · obtain ⟨-, rfl⟩ := Mutex.init_eq ‹_›
            exact ⟨rfl, before.parkedOn_claimed rfl⟩
      | acquire => exact ⟨rfl, before.parkedOn_claimed rfl⟩
      | begin | dropMutex => cases queues
      | _ => exact Fin.elim0 ‹Fin 0›

theorem perform_effect (before : Machine n k C ν)
    (apart : ∀ index parking, action ≠ .schedule index parking)
    (keeping : action.surrenders = false) (goes : (before.perform action).outcome = none) :
    Effect before (before.perform action) action := by
  have same (index : Fin n) {scheduler : Scheduler (Context n k C ν) ν} {other : Fin n}
      (apart : other ≠ index) :
      (before.setScheduler index scheduler).runtime other = before.runtime other :=
    before.runtime_setScheduler_other apart scheduler
  cases queues : action.keepsQueues with
  | true =>
      have keeps (home : Fin n) := before.perform_keepsQueues home queues
      obtain ⟨active, parked⟩ := before.perform_keeps_parked queues
      exact .keeps (fun home => (keeps home).scheduler) (fun home => (keeps home).current) active
        parked
  | false =>
  cases action with
  | schedule index parking => exact absurd rfl (apart index parking)
  | dropRuntime | deactivate | discard => cases keeping
  | begin =>
      simp only [perform, begin] at goes ⊢
      cases driven : before.active with
      | none => simp [driven, abort] at goes
      | some index =>
          simp only [driven] at goes ⊢
          cases present : (before.runtime index).scheduler with
          | none => simp [present, abort] at goes
          | some scheduler =>
              exact .shifts (.begins present (by simp) fun _ => rfl) driven (by simp [present])
                (fun _ => same index) (by simp) rfl
  | enroll index entry =>
      simp only [perform, enroll] at goes ⊢
      cases present : (before.runtime index).scheduler with
      | some scheduler =>
          exact .keeps (fun _ => rfl) (fun _ => rfl) rfl fun _ => rfl
      | none =>
          cases driven : before.active with
          | some driver => exact .keeps (fun _ => rfl) (fun _ => rfl) rfl fun _ => rfl
          | none =>
              simp only [present, driven, Option.isSome_none, Bool.false_eq_true,
                if_false] at goes ⊢
              have activated := before.activate_spec goes
              refine .activates present driven activated.scheduler activated.thread
                (before.activate_others index) activated.active fun mutex => ?_
              exact congrArg (fun cells => (cells mutex).waiters.threads.elements)
                activated.mutexes
  | issue index entry =>
      simp only [perform, issue] at goes ⊢
      cases present : (before.runtime index).scheduler with
      | none => simp [present, abort] at goes
      | some scheduler =>
          simp only
          cases issued : scheduler.issueId
              (.new (before.runtime index).config.stackSize ⟨[.begin], entry⟩)
              (before.runtime index).config.maxThreads with
          | error cause => exact .keeps (fun _ => rfl) (fun _ => rfl) rfl fun _ => rfl
          | ok made =>
              obtain ⟨block, scheduler'⟩ := made
              obtain ⟨rfl, nextId, rfl, next⟩ := Scheduler.issueId_eq issued
              exact .shifts (.issues present (by simp [finishWith]) next fun _ => rfl) rfl
                (by simp [present]) (fun _ => same index) (by simp [finishWith]) rfl
  | reap index thread | tryReap index thread =>
      simp only [perform, tryReaping, reapOnce] at goes ⊢
      cases found : before.reap? index thread with
      | none => exact .keeps (fun _ => rfl) (fun _ => rfl) rfl fun _ => rfl
      | some taking =>
          obtain ⟨block, after⟩ := taking
          obtain ⟨scheduler, completed, present, rfl, taken, -⟩ := reap_eq found
          simp only [found] at goes ⊢
          cases value : block.value with
          | none => simp [value, abort] at goes
          | some value =>
              exact .shifts (.reaps present (by simp [finishWith]) taken fun _ => rfl) rfl
                (by simp [present]) (fun _ => same index) (by simp [finishWith]) rfl
  | finish index value =>
      simp only [perform, finish] at goes ⊢
      cases present : (before.runtime index).scheduler with
      | none => simp [present, exitProcess] at goes
      | some scheduler =>
          simp only [present, Block.complete?] at goes ⊢
          cases unset : scheduler.current.value with
          | some value => simp [unset, abort] at goes
          | none =>
              simp only [unset] at goes ⊢
              split
              · exact .shifts (.completes present (by simp) fun _ => rfl) rfl (by simp [present])
                  (fun _ => same index) (by simp) rfl
              · rename_i idle
                simp [idle, exitProcess] at goes
  | claimAgain index mutex me =>
      simp only [perform, claimAgain] at goes ⊢
      split <;> rename_i claimed
      · obtain ⟨-, rfl⟩ := Mutex.claim_free claimed
        exact .keeps (fun _ => rfl) (fun _ => rfl) rfl (before.parkedOn_claimed rfl)
      · obtain ⟨-, rfl⟩ := Mutex.claim_taken claimed
        simp only [claimed, blockCurrent] at goes ⊢
        simp only [runtime_report, runtime_setMutex] at goes ⊢
        cases present : (before.runtime index).scheduler with
        | none =>
            rw [present] at goes
            cases goes
        | some scheduler =>
            exact .shifts (.blocks present (by simp) (before.parkedOn_claimed rfl)) rfl
              (by simp [present]) (fun _ => same index) (by simp) rfl
  | handOn index mutex | wakeAll index mutex =>
      simp only [perform, handOn, wakeAll, popWaiter] at goes ⊢
      cases popped : (before.cells mutex).waiters.pop with
      | mk first remaining =>
          simp only [popped] at goes ⊢
          cases first with
          | none =>
              have threads := WaitQueue.threads_of_pop_none popped
              exact .keeps (fun _ => rfl) (fun _ => rfl) rfl (before.parkedOn_claimed threads)
          | some waiter =>
              obtain ⟨_, present, woken⟩ := wake_eq goes
              refine .shifts (shift_of_wake popped goes rfl (by simp only [woken]; rfl)) rfl
                (by exact Option.isSome_iff_exists.mpr ⟨_, present⟩) ?others ?current ?active
              all_goals simp only [woken]
              case others => exact fun _ => same index
              case active => rfl
              case current =>
                change ((before.setScheduler index _).runtime index).current = _
                rw [runtime_setScheduler]
  | dropMutex mutex =>
      obtain ⟨log, cells, emptied, dropped⟩ := before.dropMutex_eq mutex
      simp only [perform, dropped]
      have parked (other : Fin k) :
          ((setMutex { before with log } mutex cells).push [.reply .done]).parkedOn other =
            if mutex = other then [] else before.parkedOn other := by
        change (setMutex { before with log } mutex cells).parkedOn other = _
        rw [parkedOn_setMutex, emptied]
        rfl
      refine .drops rfl rfl ((parked mutex).trans (if_pos rfl)) fun other apart => ?_
      exact (parked other).trans (if_neg apart.symm)
  | _ => cases queues

/-- Neither the settings of `home` nor the running thread's own code has changed. -/
structure Constant (home : Fin n) (before after : Machine n k C ν) : Prop where
  config : (after.runtime home).config = (before.runtime home).config
  code : after.code = before.code

namespace Constant

variable {before after : Machine n k C ν}

theorem refl (home : Fin n) (before : Machine n k C ν) : Constant home before before := ⟨rfl, rfl⟩

theorem push (same : Constant home before after) (actions : List (Action n k C ν)) :
    Constant home before (after.push actions) := ⟨same.config, same.code⟩

theorem report (same : Constant home before after) (event : LogEvent) :
    Constant home before (after.report event) := ⟨same.config, same.code⟩

theorem abort (same : Constant home before after) (fault : Fault) :
    Constant home before (after.abort fault) := ⟨same.config, same.code⟩

theorem setMutex (same : Constant home before after) (index : Fin k)
    (cells : Mutex (Context n k C ν) ν) : Constant home before (after.setMutex index cells) :=
  ⟨same.config, same.code⟩

theorem setRuntime (same : Constant home before after) {index : Fin n}
    {runtime : Runtime n k C ν} (config : runtime.config = (after.runtime index).config) :
    Constant home before (after.setRuntime index runtime) := by
  refine ⟨?_, same.code⟩
  rw [runtime_setRuntime]
  split
  · rename_i here
    exact config.trans (here ▸ same.config)
  · exact same.config

theorem setGate (same : Constant home before after) (index : Fin n) (gate : Gate) :
    Constant home before (after.setGate index gate) := same.setRuntime rfl

theorem setScheduler (same : Constant home before after) (index : Fin n)
    (scheduler : Scheduler (Context n k C ν) ν) :
    Constant home before (after.setScheduler index scheduler) := same.setRuntime rfl

theorem wake (same : Constant home before after) (index : Fin n)
    (block : Block (Context n k C ν) ν) : Constant home before (after.wake index block) := by
  simp only [Machine.wake]
  split
  · exact (same.report _).abort _
  · exact (same.report _).setScheduler _ _

theorem exitProcess (same : Constant home before after) (index : Fin n) :
    Constant home before (after.exitProcess index) :=
  ⟨((same.report _).setGate index (after.runtime index).gate.disarm).config, same.code⟩

theorem activate (same : Constant home before after) (index : Fin n) :
    Constant home before (after.activate index) := by
  simp only [Machine.activate]
  split
  · exact same.abort _
  · split
    · exact ⟨same.config, same.code⟩
    · have reported (events : List LogEvent) : Constant home before (after.reportAll events) :=
        ⟨same.config, same.code⟩
      exact ⟨((reported _).setRuntime (by rfl)).config, same.code⟩

end Constant

/-- Only decisions turn to the code of another thread, and no work changes the settings. -/
theorem perform_constant (before : Machine n k C ν)
    (apart : ∀ index parking, action ≠ .schedule index parking) :
    Constant home before (before.perform action) := by
  have same := Constant.refl home before
  cases action with
  | schedule index parking => exact absurd rfl (apart index parking)
  | own | countReady | countCompleted => exact same.push _
  | reply | readCurrent => exact ⟨rfl, rfl⟩
  | closed | reopened => exact same.setGate _ _
  | close index =>
      simp only [perform, closeGate]
      split
      · exact (same.setGate _ _).push _
      · exact same.setGate _ _
  | reopen index =>
      simp only [perform, reopenGate]
      split
      · exact (same.setGate _ _).push _
      · exact same.setGate _ _
  | timer =>
      simp only [perform, enterTimer]
      split
      · exact same
      · exact same.push _
  | begin =>
      simp only [perform, begin]
      split
      · exact same.abort _
      · split
        · exact same.abort _
        · exact (same.setScheduler _ _).push _
  | enter host unstarted =>
      simp only [perform, enter]
      split
      · exact same.push _
      · exact same.abort _
  | enroll index entry =>
      simp only [perform, enroll]
      split
      · exact same.push _
      · split
        · exact (same.report _).push _
        · exact (same.activate index).push _
  | issue index entry =>
      simp only [perform, issue]
      split
      · exact same.abort _
      · split
        · exact (same.report _).push _
        · exact ((same.setScheduler _ _).report _).push _
  | reap index thread =>
      simp only [perform, tryReaping]
      split
      · exact same.push _
      · rename_i found
        obtain ⟨_, _, _, rfl, _, _⟩ := reap_eq found
        split
        · exact (same.setScheduler _ _).abort _
        · exact ((same.setScheduler _ _).report _).push _
  | tryReap index thread =>
      simp only [perform, reapOnce]
      split
      · exact same.push _
      · rename_i found
        obtain ⟨_, _, _, rfl, _, _⟩ := reap_eq found
        split
        · exact ((same.setScheduler _ _).report _).abort _
        · exact ((same.setScheduler _ _).report _).push _
  | finish index value =>
      simp only [perform, finish]
      split
      · exact same.exitProcess index
      · split
        · exact same.abort _
        · split
          · exact ((same.setScheduler _ _).report _).push _
          · exact (same.setScheduler _ _).exitProcess index
  | resumed => exact same.abort _
  | dropRuntime index =>
      simp only [perform, dropRuntime]
      split <;> exact same.push _
  | deactivate index => exact ⟨(same.setGate index _).config, rfl⟩
  | discard index =>
      simp only [perform, discard]
      split
      · exact (same.setRuntime (by rfl)).push _
      · exact ((same.report _).setRuntime (by rfl)).push _
  | refuseUnlock | refuse => exact (same.report _).push _
  | initMutex mutex =>
      simp only [perform, initMutex]
      split
      · exact same.push _
      · exact (same.setMutex _ _).push _
  | lock index mutex =>
      simp only [perform, lock, refuseUse]
      split
      · split <;> exact same.push _
      · exact same.push _
  | claim index mutex me =>
      simp only [perform, claim]
      split <;> exact (same.setMutex _ _).push _
  | claimAgain index mutex me =>
      simp only [perform, claimAgain, blockCurrent]
      split
      · exact (same.setMutex _ _).push _
      · refine Constant.push ?_ _
        split
        · exact ((same.setMutex _ _).report _).abort _
        · exact ((same.setMutex _ _).report _).setScheduler _ _
  | woken index mutex me =>
      simp only [perform, woken, refuseUse]
      split <;> exact same.push _
  | acquire mutex me => exact (same.setMutex _ _).push _
  | unlock index mutex =>
      simp only [perform, unlock]
      split
      · split <;> exact (same.setMutex _ _).push _
      · exact same.push _
  | handOn index mutex =>
      simp only [perform, handOn, popWaiter]
      split <;> rename_i popped <;> obtain ⟨-, rfl⟩ := Prod.mk.inj popped
      · exact (same.setMutex _ _).push _
      · exact ((same.setMutex _ _).wake _ _).push _
  | destroy index mutex =>
      simp only [perform, destroy, refuseUse]
      split
      · split <;> exact (same.setMutex _ _).push _
      · exact same.push _
  | drain index mutex =>
      simp only [perform, drain]
      split <;> exact (same.setMutex _ _).push _
  | releaseDestroyed index mutex => exact (same.setMutex _ _).push _
  | wakeAll index mutex =>
      simp only [perform, wakeAll, popWaiter]
      split <;> rename_i popped <;> obtain ⟨-, rfl⟩ := Prod.mk.inj popped
      · exact ((same.setMutex _ _).wake _ _).push _
      · exact ((same.setMutex _ _).report _).push _
  | dropMutex mutex =>
      simp only [perform, dropMutex]
      split
      · exact (same.setMutex _ _).push _
      · exact ((same.report _).setMutex _ _).push _

theorem schedule_config (before : Machine n k C ν) (index : Fin n) (parking : Option (Fin k)) :
    ((before.schedule index parking).runtime home).config = (before.runtime home).config := by
  have same := Constant.refl home before
  have parked (waiting : Option (WaitQueue (Context n k C ν) ν)) :
      Constant home before (before.setWaiters parking waiting) := by
    unfold setWaiters
    split
    · exact same.setMutex _ _
    · exact same
  simp only [schedule]
  split
  · rfl
  · split
    · rfl
    · split
      · exact ((parked _).setScheduler index _).config
      · split
        · exact (parked _).config
        · have config (waiting : Option (WaitQueue (Context n k C ν) ν)) :
              ((before.setWaiters parking waiting).runtime index).config =
                (before.runtime index).config :=
            congrArg (fun runtimes => (runtimes index).config)
              (before.setWaiters_frame parking waiting).1
          split <;> exact ((parked _).setRuntime (by exact (config _).symm)).config

end Machine

/-- Everything that a piece of work other than a decision does to a run's threads. -/
theorem Sound.shift (sound : Sound home past machine) (going : machine.outcome = none)
    (todo : machine.todo = action :: rest) (apart : ∀ parking, action ≠ .schedule home parking)
    (goes : machine.step.outcome = none) : Shift home machine machine.step action := by
  have stage := todo ▸ sound.stage
  rw [Machine.step_eq going todo] at goes ⊢
  cases keeps : action.keepsQueues with
  | true =>
      have queues := ((machine.withTodo rest).perform_keepsQueues home keeps).of_withTodo
      exact .keeps queues.scheduler fun mutex =>
        congrArg (fun waiters : WaitQueue _ ν => waiters.threads.elements) (queues.waiters mutex)
  | false =>
      have nowhere (index : Fin n) (parking : Option (Fin k)) :
          action ≠ .schedule index parking := by
        rintro rfl
        obtain rfl := stage_host stage
        exact apart parking rfl
      have active (index : Fin n) (driven : machine.active = some index) : index = home := by
        cases present : (machine.runtime home).scheduler with
        | none => simp [(sound.unpopulated present).active] at driven
        | some scheduler =>
            rw [(sound.populated scheduler present).active] at driven
            exact (Option.some.inj driven).symm
      have keepsTo := stage_keepsTo stage
      cases (machine.withTodo rest).perform_effect nowhere keepsTo.keeping goes with
      | keeps schedulers _ _ parked => exact .keeps (schedulers home) parked
      | drops runtimes _ unparked elsewhere =>
          exact .drops (congrArg (fun runtimes => (runtimes home).scheduler) runtimes) unparked
            elsewhere
      | activates absent _ present _ _ _ parked =>
          cases keepsTo
          exact .activates absent present parked
      | shifts shift host =>
          obtain rfl := keepsTo.host active host
          exact shift.of_withTodo

/-- Own code touches neither runtimes nor mutexes. -/
theorem Machine.make_own (machine : Machine n k C ν) {move : Move n k C ν} (own : move ≠ .work) :
    (machine.make move).runtime = machine.runtime ∧ (machine.make move).cells = machine.cells ∧
      (machine.make move).active = machine.active := by
  cases move with
  | work => exact absurd rfl own
  | think | ask => exact ⟨rfl, rfl, rfl⟩
  | leave value =>
      simp only [Machine.make, Machine.leave]
      split <;> exact ⟨rfl, rfl, rfl⟩
  | panic =>
      simp only [Machine.make, Machine.panic]
      split <;> exact ⟨rfl, rfl, rfl⟩

end UserThreads
