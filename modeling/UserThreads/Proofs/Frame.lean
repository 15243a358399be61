import UserThreads.Proofs.Run

/-!
What the machine's operations leave alone.
-/

namespace UserThreads

variable {n k : Nat} {C ν : Type}

namespace Mutex

variable {κ : Type} {cells after : Mutex κ ν}

theorem claim_free (claimed : cells.claim = (true, after)) :
    cells.locked = false ∧ after = { cells with locked := true } := by
  cases locked : cells.locked <;> simp [claim, locked] at claimed
  exact ⟨rfl, claimed.symm⟩

theorem claim_taken (claimed : cells.claim = (false, after)) :
    cells.locked = true ∧ after = cells := by
  cases locked : cells.locked <;> simp [claim, locked] at claimed
  refine ⟨rfl, claimed.symm.trans ?_⟩
  rw [← locked]

theorem init_eq (done : cells.init = .ok after) :
    cells.waiters.isEmpty = true ∧ after = { cells.release with status := .initialized } := by
  unfold init at done
  split at done
  · rename_i empty
    cases done
    exact ⟨empty, rfl⟩
  · contradiction

theorem init_refused {cause : Cause} (done : cells.init = .error cause) :
    cells.waiters.isEmpty = false := by
  unfold init at done
  split at done
  · contradiction
  · rename_i parked
    exact eq_false_of_ne_true parked

end Mutex

namespace Gate

variable {gate after : Gate} {fired : Bool}

theorem closed_of_close (closing : gate.close = (after, fired)) : after.closed = true := by
  unfold close at closing
  split at closing <;> cases closing
  · assumption
  · rfl

theorem open_of_fired (closing : gate.close = (after, true)) : gate.closed = false := by
  unfold close at closing
  split at closing
  · cases closing
  · rename_i open_
    exact eq_false_of_ne_true open_

theorem afterOpening_of_close (closing : gate.close = (after, fired)) :
    after.afterOpening = gate.afterOpening := by
  unfold close at closing
  split at closing <;> cases closing <;> rfl

theorem reopen_quietly (opening : gate.afterOpening = 0)
    (reopening : gate.reopen = (after, fired)) : fired = false ∧ after.closed = false := by
  simp only [reopen, opening, Prod.mk.injEq] at reopening
  obtain ⟨rfl, rfl⟩ := reopening
  simp

theorem afterOpening_of_reopen (opening : gate.afterOpening = 0)
    (reopening : gate.reopen = (after, fired)) : after.afterOpening = 0 := by
  simp only [reopen, opening, Prod.mk.injEq] at reopening
  obtain ⟨rfl, -⟩ := reopening
  rfl

theorem arm_eq {interval : Duration} (armed : gate.arm interval = .ok after) :
    after.closed = gate.closed ∧ after.afterOpening = gate.afterOpening := by
  unfold arm at armed
  split at armed
  · contradiction
  · cases armed
    exact ⟨rfl, rfl⟩

theorem install_eq (installed : gate.install = .ok after) :
    after.closed = gate.closed ∧ after.afterOpening = gate.afterOpening := by
  unfold install at installed
  split at installed
  · contradiction
  · cases installed
    exact ⟨rfl, rfl⟩

end Gate

/-- The pieces of work that leave every queue of threads as it is. -/
def Action.keepsQueues : Action n k C ν → Bool
  | .schedule .. | .begin | .enroll .. | .issue .. | .reap .. | .tryReap .. | .finish ..
  | .claimAgain .. | .handOn .. | .wakeAll .. | .dropMutex _
  | .dropRuntime _ | .deactivate _ | .discard _ => false
  | _ => true

namespace Machine

/-- The threads of `home` and those parked on mutexes are the same. -/
structure KeepsQueues (home : Fin n) (machine after : Machine n k C ν) : Prop where
  scheduler : (after.runtime home).scheduler = (machine.runtime home).scheduler
  current : (after.runtime home).current = (machine.runtime home).current
  active : after.active = machine.active
  waiters : ∀ mutex : Fin k, (after.cells mutex).waiters = (machine.cells mutex).waiters
  quiet : (machine.runtime home).gate.afterOpening = 0 →
    (after.runtime home).gate.afterOpening = 0

variable {home : Fin n} {machine : Machine n k C ν}

/-- The machine with other work left for the running thread. -/
def withTodo (machine : Machine n k C ν) (todo : List (Action n k C ν)) : Machine n k C ν :=
  { machine with todo }

theorem runtime_setRuntime (machine : Machine n k C ν) (index home : Fin n)
    (runtime : Runtime n k C ν) :
    (machine.setRuntime index runtime).runtime home =
      if index = home then runtime else machine.runtime home := by
  change (machine.runtimes.set index runtime index.isLt)[home.val] = _
  simp only [Vector.getElem_set, Fin.val_inj]
  rfl

theorem cells_setMutex (machine : Machine n k C ν) (index mutex : Fin k)
    (cells : Mutex (Context n k C ν) ν) :
    (machine.setMutex index cells).cells mutex =
      if index = mutex then cells else machine.cells mutex := by
  change (machine.mutexes.set index cells index.isLt)[mutex.val] = _
  simp only [Vector.getElem_set, Fin.val_inj]
  rfl

@[simp] theorem runtime_start (runtimes : Vector (Runtime n k C ν) n) (code : C) (home : Fin n) :
    (start runtimes code : Machine n k C ν).runtime home = runtimes.get home := rfl

@[simp] theorem cells_start (runtimes : Vector (Runtime n k C ν) n) (code : C) (mutex : Fin k) :
    (start runtimes code).cells mutex = .new := by
  change (Vector.replicate k (.new : Mutex (Context n k C ν) ν))[mutex.val] = _
  exact Vector.getElem_replicate mutex.isLt

/-- Whether the gate of a runtime is closed. -/
def shut (machine : Machine n k C ν) (home : Fin n) : Bool :=
  (machine.runtime home).gate.closed

theorem step_eq {action : Action n k C ν} {rest : List (Action n k C ν)}
    (going : machine.outcome = none) (todo : machine.todo = action :: rest) :
    machine.step = (machine.withTodo rest).perform action := by
  simp [step, going, todo, withTodo]

theorem own_of_inOwnCode (inside : machine.inOwnCode = true) :
    ∃ host rest, machine.todo = .own host :: rest := by
  unfold inOwnCode at inside
  split at inside
  · contradiction
  · rename_i action rest todo
    cases action <;> try contradiction
    exact ⟨_, _, todo⟩

section views

variable (machine : Machine n k C ν) (home : Fin n)

@[simp] theorem runtime_setRuntime_self (runtime : Runtime n k C ν) :
    (machine.setRuntime home runtime).runtime home = runtime := by
  rw [runtime_setRuntime, if_pos rfl]

@[simp] theorem cells_setMutex_self (mutex : Fin k) (cells : Mutex (Context n k C ν) ν) :
    (machine.setMutex mutex cells).cells mutex = cells := by
  rw [cells_setMutex, if_pos rfl]

@[simp] theorem runtime_withTodo (todo : List (Action n k C ν)) :
    (machine.withTodo todo).runtime home = machine.runtime home := rfl

@[simp] theorem cells_withTodo (todo : List (Action n k C ν)) (mutex : Fin k) :
    (machine.withTodo todo).cells mutex = machine.cells mutex := rfl

@[simp] theorem active_withTodo (todo : List (Action n k C ν)) :
    (machine.withTodo todo).active = machine.active := rfl

@[simp] theorem runtime_push (actions : List (Action n k C ν)) :
    (machine.push actions).runtime home = machine.runtime home := rfl

@[simp] theorem runtime_report (event : LogEvent) :
    (machine.report event).runtime home = machine.runtime home := rfl

@[simp] theorem runtime_reportAll (events : List LogEvent) :
    (machine.reportAll events).runtime home = machine.runtime home := rfl

@[simp] theorem runtime_resume (scheduler : Scheduler (Context n k C ν) ν) :
    (machine.resume scheduler).runtime home = machine.runtime home := rfl

@[simp] theorem runtime_setScheduler (scheduler : Scheduler (Context n k C ν) ν) :
    (machine.setScheduler home scheduler).runtime home =
      { machine.runtime home with scheduler := some scheduler } :=
  runtime_setRuntime_self ..

@[simp] theorem cells_setRuntime (runtime : Runtime n k C ν) (mutex : Fin k) :
    (machine.setRuntime home runtime).cells mutex = machine.cells mutex := rfl

@[simp] theorem runtime_setMutex (mutex : Fin k) (cells : Mutex (Context n k C ν) ν) :
    (machine.setMutex mutex cells).runtime home = machine.runtime home := rfl

@[simp] theorem todo_withTodo (todo : List (Action n k C ν)) :
    (machine.withTodo todo).todo = todo := rfl

@[simp] theorem todo_push (actions : List (Action n k C ν)) :
    (machine.push actions).todo = actions ++ machine.todo := rfl

@[simp] theorem shut_push (actions : List (Action n k C ν)) :
    (machine.push actions).shut home = machine.shut home := rfl

@[simp] theorem shut_setGate (gate : Gate) :
    (machine.setGate home gate).shut home = gate.closed := by
  simp [shut, setGate]

end views

/-- The timer comes in at a closing only if the gate was open. -/
theorem closeGate_cases (machine : Machine n k C ν) (home : Fin n) :
    (machine.closeGate home).shut home = true ∧
      ((machine.closeGate home).todo = machine.todo ∨
        machine.shut home = false ∧
          (machine.closeGate home).todo = .timer :: .closed home :: machine.todo) := by
  unfold closeGate
  split <;> rename_i gate closing <;> have closed := Gate.closed_of_close closing
  · exact ⟨by simp [closed], .inr ⟨Gate.open_of_fired closing, rfl⟩⟩
  · exact ⟨by simp [closed], .inl rfl⟩

/-- No timer comes in at an opening that none was ordered for. -/
theorem reopenGate_eq (machine : Machine n k C ν) {home : Fin n}
    (opening : (machine.runtime home).gate.afterOpening = 0) :
    (machine.reopenGate home).shut home = false ∧
      (machine.reopenGate home).todo = machine.todo := by
  unfold reopenGate
  split <;> rename_i gate reopening <;>
    obtain ⟨quiet, closed⟩ := Gate.reopen_quietly opening reopening
  · contradiction
  · exact ⟨by simp [closed], rfl⟩

theorem setGate_keepsQueues (home : Fin n) {index : Fin n} {gate : Gate}
    (quiet : (machine.runtime index).gate.afterOpening = 0 → gate.afterOpening = 0) :
    KeepsQueues home machine (machine.setGate index gate) := by
  by_cases same : index = home
  · subst same
    constructor <;> simp [setGate]
    · rfl
    · exact quiet
  · constructor <;> simp [setGate, runtime_setRuntime, same]
    rfl

theorem setMutex_keepsQueues (home : Fin n) {index : Fin k}
    {cells : Mutex (Context n k C ν) ν}
    (same : cells.waiters = (machine.cells index).waiters) :
    KeepsQueues home machine (machine.setMutex index cells) := by
  refine ⟨rfl, rfl, rfl, fun mutex => ?_, id⟩
  by_cases equal : index = mutex
  · subst equal
    rwa [cells_setMutex_self]
  · rw [cells_setMutex, if_neg equal]

theorem KeepsQueues.refl (home : Fin n) (machine : Machine n k C ν) :
    KeepsQueues home machine machine := ⟨rfl, rfl, rfl, fun _ => rfl, id⟩

theorem KeepsQueues.of_withTodo {after : Machine n k C ν} {todo : List (Action n k C ν)}
    (keeps : KeepsQueues home (machine.withTodo todo) after) : KeepsQueues home machine after :=
  ⟨keeps.scheduler, keeps.current, keeps.active, keeps.waiters, keeps.quiet⟩

theorem KeepsQueues.push {after : Machine n k C ν} (keeps : KeepsQueues home machine after)
    (actions : List (Action n k C ν)) : KeepsQueues home machine (after.push actions) :=
  ⟨keeps.scheduler, keeps.current, keeps.active, keeps.waiters, keeps.quiet⟩

theorem KeepsQueues.report {after : Machine n k C ν} (keeps : KeepsQueues home machine after)
    (event : LogEvent) : KeepsQueues home machine (after.report event) :=
  ⟨keeps.scheduler, keeps.current, keeps.active, keeps.waiters, keeps.quiet⟩

theorem abort_keepsQueues (machine : Machine n k C ν) (home : Fin n) (fault : Fault) :
    KeepsQueues home machine (machine.abort fault) := ⟨rfl, rfl, rfl, fun _ => rfl, id⟩

theorem perform_keepsQueues (machine : Machine n k C ν) (home : Fin n)
    {action : Action n k C ν} (keeps : action.keepsQueues = true) :
    KeepsQueues home machine (machine.perform action) := by
  have same := KeepsQueues.refl home machine
  have set {index : Fin k} {cells : Mutex (Context n k C ν) ν}
      (waiters : cells.waiters = (machine.cells index).waiters)
      (actions : List (Action n k C ν)) :
      KeepsQueues home machine ((machine.setMutex index cells).push actions) :=
    (setMutex_keepsQueues home waiters).push actions
  cases action with
  | schedule | begin | enroll | issue | reap | tryReap | finish | claimAgain | handOn | wakeAll
  | dropMutex | dropRuntime | deactivate | discard => simp [Action.keepsQueues] at keeps
  | own | countReady | countCompleted => exact same.push _
  | reply | readCurrent => exact ⟨rfl, rfl, rfl, fun _ => rfl, id⟩
  | closed | reopened => exact setGate_keepsQueues home id
  | close =>
      simp only [perform, closeGate]
      split <;> rename_i closing
      · exact (setGate_keepsQueues home (Gate.afterOpening_of_close closing).trans).push _
      · exact setGate_keepsQueues home (Gate.afterOpening_of_close closing).trans
  | reopen =>
      simp only [perform, reopenGate]
      split <;> rename_i reopening
      · exact (setGate_keepsQueues home (Gate.afterOpening_of_reopen · reopening)).push _
      · exact setGate_keepsQueues home (Gate.afterOpening_of_reopen · reopening)
  | timer =>
      simp only [perform, enterTimer]
      split
      · exact same
      · exact same.push _
  | enter =>
      simp only [perform, enter]
      split
      · exact same.push _
      · exact abort_keepsQueues ..
  | resumed => exact abort_keepsQueues ..
  | initMutex =>
      simp only [perform, initMutex]
      split
      · exact same.push _
      · rename_i cells done
        obtain ⟨-, rfl⟩ := Mutex.init_eq done
        exact set (by rfl) _
  | lock =>
      simp only [perform, lock, refuseUse]
      split
      · split <;> exact same.push _
      · exact same.push _
  | claim =>
      simp only [perform, claim]
      split <;> rename_i claimed
      · obtain ⟨-, rfl⟩ := Mutex.claim_free claimed
        exact set (by rfl) _
      · obtain ⟨-, rfl⟩ := Mutex.claim_taken claimed
        exact set (by rfl) _
  | woken =>
      simp only [perform, woken, refuseUse]
      split <;> exact same.push _
  | acquire => exact set (by rfl) _
  | unlock =>
      simp only [perform, unlock]
      split
      · split <;> exact set (by rfl) _
      · exact same.push _
  | refuseUnlock | refuse => exact (same.report _).push _
  | destroy =>
      simp only [perform, destroy, refuseUse]
      split
      · split <;> exact set (by rfl) _
      · exact same.push _
  | drain =>
      simp only [perform, drain]
      split <;> rename_i claimed
      · obtain ⟨-, rfl⟩ := Mutex.claim_free claimed
        exact set (by rfl) _
      · obtain ⟨-, rfl⟩ := Mutex.claim_taken claimed
        exact set (by rfl) _
  | releaseDestroyed => exact set (by rfl) _

end Machine
end UserThreads
