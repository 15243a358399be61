import UserThreads.Proofs.Waking

/-!
What threads still have to do to a mutex, and what each piece of it does.
-/

namespace UserThreads

variable {n k : Nat} {C ν : Type}

/-- Whether a piece of work is done on a mutex. -/
def Action.concerns (mutex : Fin k) : Action n k C ν → Bool
  | .schedule _ parking => parking == some mutex
  | .initMutex index | .lock _ index | .claim _ index _ | .claimAgain _ index _
  | .woken _ index _ | .acquire index _ | .unlock _ index | .handOn _ index | .destroy _ index
  | .drain _ index | .releaseDestroyed _ index | .wakeAll _ index | .dropMutex index =>
      index == mutex
  | _ => false

/-- The first piece of work on a mutex that is left to a thread. -/
def pending? (mutex : Fin k) (todo : List (Action n k C ν)) : Option (Action n k C ν) :=
  todo.find? (Action.concerns mutex)

variable {home : Fin n} {mutex : Fin k} {action : Action n k C ν} {rest : List (Action n k C ν)}

theorem pending_aside (aside : action.concerns mutex = false) :
    pending? mutex (action :: rest) = pending? mutex rest := by
  simp [pending?, aside]

theorem pending_head (concerned : action.concerns mutex = true) :
    pending? mutex (action :: rest) = some action := by
  simp [pending?, concerned]

theorem pending_parks (home : Fin n) (mutex : Fin k) (rest : List (Action n k C ν)) :
    pending? mutex (.schedule home (some mutex) :: rest) = some (.schedule home (some mutex)) :=
  pending_head (beq_self_eq_true (some mutex))

theorem pending_mem {pending : Action n k C ν} {todo : List (Action n k C ν)}
    (found : pending? mutex todo = some pending) : pending ∈ todo :=
  List.mem_of_find?_eq_some found

theorem pending_append {pushed : List (Action n k C ν)} (quiet : pending? mutex rest = none) :
    pending? mutex (pushed ++ rest) = pending? mutex pushed := by
  rw [pending?, List.find?_append, ← pending?, ← pending?, quiet, Option.or_none]

namespace Machine

/-- Nothing is done to a mutex, and nothing else is left to be done to it. -/
structure Aside (mutex : Fin k) (before after : Machine n k C ν) : Prop where
  cells : after.cells mutex = before.cells mutex
  pending : pending? mutex after.todo = pending? mutex before.todo

namespace Aside

variable {before after : Machine n k C ν}

theorem refl (mutex : Fin k) (before : Machine n k C ν) : Aside mutex before before := ⟨rfl, rfl⟩

theorem push (aside : Aside mutex before after) {actions : List (Action n k C ν)}
    (quiet : pending? mutex actions = none) : Aside mutex before (after.push actions) := by
  refine ⟨aside.cells, ?_⟩
  have shape : pending? mutex (actions ++ after.todo) = pending? mutex after.todo := by
    rw [pending?, List.find?_append, ← pending?, quiet, Option.none_or, pending?]
  exact shape.trans aside.pending

theorem report (aside : Aside mutex before after) (event : LogEvent) :
    Aside mutex before (after.report event) := ⟨aside.cells, aside.pending⟩

theorem setRuntime (aside : Aside mutex before after) (index : Fin n)
    (runtime : Runtime n k C ν) : Aside mutex before (after.setRuntime index runtime) :=
  ⟨aside.cells, aside.pending⟩

theorem abort (aside : Aside mutex before after) (fault : Fault) :
    Aside mutex before (after.abort fault) := ⟨aside.cells, aside.pending⟩

theorem setMutex (aside : Aside mutex before after) {index : Fin k} (apart : index ≠ mutex)
    (cells : Mutex (Context n k C ν) ν) : Aside mutex before (after.setMutex index cells) :=
  ⟨((after.cells_setMutex ..).trans (if_neg apart)).trans aside.cells, aside.pending⟩

theorem wake (aside : Aside mutex before after) (home : Fin n)
    (block : Block (Context n k C ν) ν) : Aside mutex before (after.wake home block) := by
  simp only [Machine.wake]
  split
  · exact (aside.report _).abort _
  · exact (aside.report _).setRuntime _ _

end Aside

theorem perform_aside_other (before : Machine n k C ν) (index : Fin k) (other : index ≠ mutex)
    (concerned : action.concerns index = true)
    (apart : ∀ home parking, action ≠ .schedule home parking) :
    Aside mutex before (before.perform action) := by
  have same := Aside.refl mutex before
  cases action with
  | schedule home parking => exact absurd rfl (apart home parking)
  | initMutex target =>
      cases eq_of_beq concerned
      simp only [perform, initMutex]
      split
      · exact same.push rfl
      · exact (same.setMutex other _).push rfl
  | lock home target =>
      cases eq_of_beq concerned
      simp only [perform, lock, refuseUse]
      split
      · split
        · exact same.push rfl
        · exact same.push (by simp [pending?, Action.concerns, other])
      · exact same.push rfl
  | claim home target me =>
      cases eq_of_beq concerned
      simp only [perform, claim]
      split
      · exact (same.setMutex other _).push (by simp [pending?, Action.concerns, other])
      · exact (same.setMutex other _).push (by simp [pending?, Action.concerns, other])
  | claimAgain home target me =>
      cases eq_of_beq concerned
      simp only [perform, claimAgain, blockCurrent]
      split
      · exact (same.setMutex other _).push (by simp [pending?, Action.concerns, other])
      · refine Aside.push ?_ (by simp [pending?, Action.concerns, other])
        split
        · exact ((same.setMutex other _).report _).abort _
        · exact ((same.setMutex other _).report _).setRuntime _ _
  | woken home target me =>
      cases eq_of_beq concerned
      simp only [perform, woken, refuseUse]
      split
      · exact same.push (by simp [pending?, Action.concerns, other])
      · exact same.push rfl
  | acquire target me =>
      cases eq_of_beq concerned
      exact (same.setMutex other _).push rfl
  | unlock home target =>
      cases eq_of_beq concerned
      simp only [perform, unlock]
      split
      · split
        · exact (same.setMutex other _).push rfl
        · exact (same.setMutex other _).push (by simp [pending?, Action.concerns, other])
      · exact same.push rfl
  | handOn home target =>
      cases eq_of_beq concerned
      simp only [perform, handOn, popWaiter]
      split
      · rename_i popped
        obtain ⟨-, rfl⟩ := Prod.mk.inj popped
        exact (same.setMutex other _).push rfl
      · rename_i popped
        obtain ⟨-, rfl⟩ := Prod.mk.inj popped
        exact ((same.setMutex other _).wake _ _).push rfl
  | destroy home target =>
      cases eq_of_beq concerned
      simp only [perform, destroy, refuseUse]
      split
      · split
        · exact (same.setMutex other _).push (by simp [pending?, Action.concerns, other])
        · exact (same.setMutex other _).push (by simp [pending?, Action.concerns, other])
      · exact same.push rfl
  | drain home target =>
      cases eq_of_beq concerned
      simp only [perform, drain]
      split
      · exact (same.setMutex other _).push (by simp [pending?, Action.concerns, other])
      · exact (same.setMutex other _).push (by simp [pending?, Action.concerns, other])
  | releaseDestroyed home target =>
      cases eq_of_beq concerned
      exact (same.setMutex other _).push (by simp [pending?, Action.concerns, other])
  | wakeAll home target =>
      cases eq_of_beq concerned
      simp only [perform, wakeAll, popWaiter]
      split
      · rename_i popped
        obtain ⟨-, rfl⟩ := Prod.mk.inj popped
        exact ((same.setMutex other _).wake _ _).push
          (by simp [pending?, Action.concerns, other])
      · rename_i popped
        obtain ⟨-, rfl⟩ := Prod.mk.inj popped
        exact ((same.setMutex other _).report _).push rfl
  | dropMutex target =>
      cases eq_of_beq concerned
      simp only [perform, dropMutex]
      split
      · exact (same.setMutex other _).push rfl
      · exact ((same.report _).setMutex other _).push rfl
  | _ => cases concerned

/-- Work on anything but the mutex, decisions aside. -/
theorem perform_aside (before : Machine n k C ν) (aside : action.concerns mutex = false)
    (apart : ∀ home parking, action ≠ .schedule home parking) :
    Aside mutex before (before.perform action) := by
  have same := Aside.refl mutex before
  cases action with
  | schedule home parking => exact absurd rfl (apart home parking)
  | initMutex index | lock _ index | claim _ index | claimAgain _ index | woken _ index
  | acquire index | unlock _ index | handOn _ index | destroy _ index | drain _ index
  | releaseDestroyed _ index | wakeAll _ index | dropMutex index =>
      exact before.perform_aside_other index (ne_of_beq_false aside)
        (beq_self_eq_true index) apart
  | own | countReady | countCompleted => exact same.push rfl
  | reply | readCurrent => exact ⟨rfl, rfl⟩
  | closed | reopened => exact same.setRuntime _ _
  | close index =>
      simp only [perform, closeGate]
      split
      · exact (same.setRuntime _ _).push rfl
      · exact same.setRuntime _ _
  | reopen index =>
      simp only [perform, reopenGate]
      split
      · exact (same.setRuntime _ _).push rfl
      · exact same.setRuntime _ _
  | timer =>
      simp only [perform, enterTimer]
      split
      · exact same
      · exact same.push rfl
  | begin =>
      simp only [perform, begin]
      split
      · exact same.abort _
      · split
        · exact same.abort _
        · exact (same.setRuntime _ _).push rfl
  | enter host unstarted =>
      simp only [perform, enter]
      split
      · exact same.push rfl
      · exact same.abort _
  | enroll index entry =>
      simp only [perform, enroll]
      split
      · exact same.push rfl
      · split
        · exact (same.report _).push rfl
        · refine Aside.push ?_ rfl
          simp only [activate]
          split
          · exact same.abort _
          · split
            · exact ⟨rfl, rfl⟩
            · exact ⟨rfl, rfl⟩
  | issue index entry =>
      simp only [perform, issue]
      split
      · exact same.abort _
      · split
        · exact (same.report _).push rfl
        · exact ((same.setRuntime _ _).report _).push rfl
  | reap index thread =>
      simp only [perform, tryReaping]
      split
      · exact same.push rfl
      · rename_i found
        obtain ⟨_, _, _, rfl, _, _⟩ := reap_eq found
        split
        · exact (same.setRuntime _ _).abort _
        · exact ((same.setRuntime _ _).report _).push rfl
  | tryReap index thread =>
      simp only [perform, reapOnce]
      split
      · exact same.push rfl
      · rename_i found
        obtain ⟨_, _, _, rfl, _, _⟩ := reap_eq found
        split
        · exact ((same.setRuntime _ _).report _).abort _
        · exact ((same.setRuntime _ _).report _).push rfl
  | finish index value =>
      simp only [perform, finish]
      split
      · exact ⟨rfl, rfl⟩
      · split
        · exact same.abort _
        · split
          · exact ((same.setRuntime _ _).report _).push rfl
          · exact ⟨rfl, rfl⟩
  | resumed => exact same.abort _
  | dropRuntime index =>
      simp only [perform, dropRuntime]
      split <;> exact same.push rfl
  | deactivate index => exact ⟨rfl, rfl⟩
  | discard index =>
      simp only [perform, discard]
      split
      · exact (same.setRuntime _ _).push rfl
      · exact ((same.report _).setRuntime _ _).push rfl
  | refuseUnlock | refuse => exact (same.report _).push rfl

end Machine

end UserThreads
