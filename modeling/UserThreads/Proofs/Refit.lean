import UserThreads.Proofs.Frame

/-!
Machines with other contents: the runtimes and the queues of parked threads put through
functions. Work that does not look at what is exchanged gives the same again.
-/

namespace UserThreads

variable {n k : Nat} {C ν : Type}

namespace Mutex

variable {κ : Type} (cells : Mutex κ ν)
  (exchange : OrderedQueue (Block κ ν) → OrderedQueue (Block κ ν))

/-- The mutex with other threads parked in the same number. -/
def rethread : Mutex κ ν :=
  { cells with waiters := ⟨exchange cells.waiters.threads, cells.waiters.length⟩ }

theorem init_rethread :
    (cells.rethread exchange).init = cells.init.map fun cells => cells.rethread exchange := by
  change (if cells.waiters.isEmpty then _ else _) =
    Except.map _ (if cells.waiters.isEmpty then _ else _)
  split <;> rfl

theorem claim_rethread :
    (cells.rethread exchange).claim = (cells.claim.1, cells.claim.2.rethread exchange) := rfl

end Mutex

/-- The pieces of work that have to do with no gate and with no threads in queues, and that
answer nothing. -/
def Action.plain : Action n k C ν → Bool
  | .own _ | .enter .. | .resumed | .initMutex _ | .lock .. | .claim .. | .woken .. | .acquire ..
  | .unlock .. | .refuseUnlock .. | .destroy .. | .drain .. | .releaseDestroyed .. | .refuse .. =>
      true
  | _ => false

namespace Machine

/-- The machine with its runtimes put through `alter`, the queues of threads parked on
mutexes through `exchange`, and its answer through `respond`. -/
def refit (machine : Machine n k C ν) (alter : Fin n → Runtime n k C ν → Runtime n k C ν)
    (exchange : Fin k → OrderedQueue (Block (Context n k C ν) ν) →
      OrderedQueue (Block (Context n k C ν) ν))
    (respond : Reply ν → Reply ν) : Machine n k C ν :=
  { machine with
    runtimes := .ofFn fun index => alter index (machine.runtime index)
    mutexes := .ofFn fun index => (machine.cells index).rethread (exchange index)
    answer := respond machine.answer }

variable {machine other : Machine n k C ν} {action : Action n k C ν}
  {alter : Fin n → Runtime n k C ν → Runtime n k C ν}
  {exchange : Fin k → OrderedQueue (Block (Context n k C ν) ν) →
    OrderedQueue (Block (Context n k C ν) ν)}
  {respond : Reply ν → Reply ν}

@[simp] theorem runtime_refit (index : Fin n) :
    (machine.refit alter exchange respond).runtime index = alter index (machine.runtime index) := by
  change (Vector.ofFn fun index => alter index (machine.runtime index))[index.val] = _
  simp

@[simp] theorem cells_refit (index : Fin k) :
    (machine.refit alter exchange respond).cells index =
      (machine.cells index).rethread (exchange index) := by
  change (Vector.ofFn fun index => (machine.cells index).rethread (exchange index))[index.val] = _
  simp

/-- Machines are equal if their runtimes, their mutexes and all else are. -/
theorem ext_places (runtimes : machine.runtime = other.runtime)
    (mutexes : machine.cells = other.cells)
    (rest : { machine with runtimes := other.runtimes, mutexes := other.mutexes } = other) :
    machine = other := by
  have runtimes : machine.runtimes = other.runtimes :=
    Vector.ext fun index bound => congrFun runtimes ⟨index, bound⟩
  have mutexes : machine.mutexes = other.mutexes :=
    Vector.ext fun index bound => congrFun mutexes ⟨index, bound⟩
  rw [← runtimes, ← mutexes] at rest
  exact rest

theorem setRuntime_refit (index : Fin n) {runtime altered : Runtime n k C ν}
    (same : altered = alter index runtime) :
    (machine.refit alter exchange respond).setRuntime index altered =
      (machine.setRuntime index runtime).refit alter exchange respond := by
  subst same
  refine ext_places (funext fun other => ?_) (funext fun mutex => ?_) rfl
  · rw [runtime_setRuntime, runtime_refit, runtime_refit, runtime_setRuntime]
    split
    · rename_i equal
      rw [equal]
    · rfl
  · rw [cells_setRuntime, cells_refit, cells_refit, cells_setRuntime]

theorem setMutex_refit (index : Fin k) {cells exchanged : Mutex (Context n k C ν) ν}
    (same : exchanged = cells.rethread (exchange index)) :
    (machine.refit alter exchange respond).setMutex index exchanged =
      (machine.setMutex index cells).refit alter exchange respond := by
  subst same
  refine ext_places (funext fun other => ?_) (funext fun mutex => ?_) rfl
  · rw [runtime_setMutex, runtime_refit, runtime_refit, runtime_setMutex]
  · rw [cells_setMutex, cells_refit, cells_refit, cells_setMutex]
    split
    · rename_i equal
      rw [equal]
    · rfl

/-- Plain work comes to the same whatever there is in gates and queues. -/
theorem perform_refit (machine : Machine n k C ν) (plain : action.plain = true)
    (same : ∀ index runtime, (alter index runtime).current = runtime.current) :
    (machine.refit alter exchange respond).perform action =
      (machine.perform action).refit alter exchange respond := by
  have set (index : Fin k) (cells : Mutex (Context n k C ν) ν)
      (actions : List (Action n k C ν)) :
      ((machine.refit alter exchange respond).setMutex index
        (cells.rethread (exchange index))).push actions =
        ((machine.setMutex index cells).push actions).refit alter exchange respond :=
    congrArg (push · actions) (setMutex_refit index rfl)
  cases action with
  | own | refuseUnlock | refuse | resumed => rfl
  | enter host unstarted => cases unstarted <;> rfl
  | initMutex mutex =>
      simp only [perform, initMutex, cells_refit, Mutex.init_rethread]
      cases (machine.cells mutex).init with
      | error => rfl
      | ok cells => exact set mutex cells _
  | lock index mutex =>
      simp only [perform, lock, cells_refit, runtime_refit, same]
      change (if (machine.cells mutex).status = .initialized then
        if (machine.cells mutex).isOwnedBy _ then _ else _ else _) = _
      split
      · split <;> rfl
      · rfl
  | claim index mutex me =>
      simp only [perform, claim, cells_refit, Mutex.claim_rethread]
      obtain ⟨open_, cells⟩ := (machine.cells mutex).claim
      cases open_ <;> exact set mutex cells _
  | woken index mutex me =>
      simp only [perform, woken, cells_refit]
      change (if (machine.cells mutex).status = .initialized then _ else _) = _
      split <;> rfl
  | acquire mutex me =>
      simp only [perform, acquire, cells_refit]
      exact set mutex ((machine.cells mutex).setOwner me) _
  | unlock index mutex =>
      simp only [perform, unlock, cells_refit, runtime_refit, same]
      change (if (machine.cells mutex).isOwnedBy _ then
        if (machine.cells mutex).waiters.isEmpty then _ else _ else _) = _
      split
      · split <;> exact set mutex (machine.cells mutex).release _
      · rfl
  | destroy index mutex =>
      simp only [perform, destroy, runtime_setMutex, cells_refit, runtime_refit, same]
      change (if (machine.cells mutex).status = .initialized then
        if (machine.cells mutex).isOwnedBy _ then _ else _ else _) = _
      have destroyed := set mutex { machine.cells mutex with status := .destroyed }
      split
      · split <;> rename_i owned
        · exact (destroyed _).trans (congrArg (refit · _ _ _) (if_pos owned).symm)
        · exact (destroyed _).trans (congrArg (refit · _ _ _) (if_neg owned).symm)
      · rfl
  | drain index mutex =>
      simp only [perform, drain, cells_refit, Mutex.claim_rethread]
      obtain ⟨open_, cells⟩ := (machine.cells mutex).claim
      cases open_ <;> exact set mutex cells _
  | releaseDestroyed index mutex =>
      simp only [perform, releaseDestroyed, cells_refit]
      exact set mutex (machine.cells mutex).release _
  | _ => cases plain

end Machine

end UserThreads
