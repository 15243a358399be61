import UserThreads.Proofs.Carrying
import UserThreads.Proofs.Entries
import UserThreads.Proofs.Exclusion
import UserThreads.Proofs.Joining
import UserThreads.Proofs.Policy

/-!
Faults: what can make the library stop the process. Every piece of work fails for one of a
few causes, and none that would be the library's own doing is ever met in a run.
-/

namespace UserThreads

variable {n k : Nat} {C ν : Type}

variable {home : Fin n} {past : List (Moment n k C ν)} {machine : Machine n k C ν}
  {action : Action n k C ν} {rest : List (Action n k C ν)} {fault : Fault}

namespace Machine

end Machine

/-- The pieces of work on a mutex that only follow a claim which has failed. -/
def Action.retries : Action n k C ν → Bool
  | .claimAgain .. | .woken .. | .schedule _ (some _) => true
  | _ => false

/-- How a mutex is while there is nobody but the initial context, which is about to do
`pending` to it. -/
structure Uncontended {κ : Type} (cells : Mutex κ ν) (pending : Option (Action n k C ν)) :
    Prop where
  owner : ∀ thread, cells.owner? = some thread → thread = .main
  free : ∀ index mutex me, pending = some (.claim index mutex me) → cells.locked = false
  calm : ∀ action, pending = some action → action.retries = false

theorem Handles.uncontended {mutex : Fin k} {cells after : Mutex (Context n k C ν) ν}
    {pushed : List (Action n k C ν)}
    (handles : Handles home mutex .main cells action after pushed)
    (uncontended : Uncontended cells (some action)) (marked : Marked cells .main (some action))
    (locks : action = .lock home mutex → pushed = [.claim home mutex .main] →
      cells.owner? ≠ some .main) : Uncontended after (pending? mutex pushed) := by
  obtain ⟨owner, free, calm⟩ := uncontended
  cases handles with
  | claimFails taken => exact absurd (taken.symm.trans (free _ _ _ rfl)) (by decide)
  | claimAgain | blocks | woken | wokenRefused => cases calm _ rfl
  | lock usable =>
      have unowned : cells.owner? = none := by
        cases owned : cells.owner? with
        | none => rfl
        | some thread =>
            obtain rfl := owner thread owned
            exact absurd owned (locks rfl rfl)
      have unlocked : cells.locked = false := by
        rw [(marked : cells.locked = _), unowned]
        rfl
      exact ⟨owner, fun _ _ _ _ => unlocked, by simp [pending?, Action.concerns, Action.retries]⟩
  | acquire =>
      constructor
      · intro thread owned
        cases owned
        rfl
      all_goals simp [pending?, Action.concerns]
  | init | unlock | unlockHands | releaseDestroyed =>
      constructor <;>
        simp [pending?, Action.concerns, Action.retries, Mutex.owner?, Mutex.release]
  | _ =>
      refine ⟨owner, ?_, ?_⟩ <;> simp [pending?, Action.concerns, Action.retries]

/-- A runtime keeps its scheduler. -/
theorem Sound.absent_before {move : Move n k C ν} (sound : Sound home past machine)
    (going : machine.outcome = none) (fits : move.Fits home machine)
    (goes : (machine.make move).outcome = none)
    (absent : ((machine.make move).runtime home).scheduler = none) :
    (machine.runtime home).scheduler = none := by
  by_cases library : move = .work
  · subst library
    change machine.step.outcome = none at goes
    change (machine.step.runtime home).scheduler = none at absent
    cases sound.next with
    | @decides parking rest todo =>
        cases present : (machine.runtime home).scheduler with
        | none => rfl
        | some scheduler =>
            have step : machine.step = (machine.withTodo rest).schedule home parking :=
              Machine.step_eq going todo
            obtain ⟨rotation, -, scheduled⟩ :=
              Machine.schedule_rotated (machine.withTodo rest) present (step ▸ goes)
            cases (step ▸ scheduled.scheduler).symm.trans absent
    | works todo apart =>
        cases sound.shift going todo (apart home) goes with
        | keeps same => exact same ▸ absent
        | activates absent => exact absent
        | issues _ seated | begins _ seated | blocks _ seated | completes _ seated
        | reaps _ seated | wakes _ seated => cases seated.symm.trans absent
        | drops same => exact same ▸ absent
  · exact (machine.make_own library).1 ▸ absent

/-- A lock goes on to the claim only if the mutex has another owner or none. -/
theorem Machine.claims_unowned {mutex : Fin k} {me : ThreadId} (going : machine.outcome = none)
    (todo : machine.todo = .lock home mutex :: rest) (self : machine.thread home = me)
    (left : machine.step.todo = [.claim home mutex me] ++ rest) :
    (machine.cells mutex).owner? ≠ some me := by
  intro owned
  have mine : (machine.cells mutex).isOwnedBy (machine.runtime home).current = true :=
    decide_eq_true (owned.trans (congrArg some self.symm))
  rw [Machine.step_eq going todo] at left
  simp only [perform, lock, cells_withTodo, runtime_withTodo, mine, if_true] at left
  split at left <;> cases left

theorem Run.uncontended (run : Run home past machine) (going : machine.outcome = none)
    (absent : (machine.runtime home).scheduler = none) (mutex : Fin k) :
    Uncontended (machine.cells mutex) (pending? mutex machine.todo) := by
  induction run with
  | start fresh code =>
      constructor
      · simp [Mutex.new, Mutex.owner?]
      · intro context thread owned pending
        cases pending
      · intro context pending
        cases pending
  | @move past machine move run before fits ih =>
      have sound := run.sound before
      have earlier := sound.absent_before before fits going absent
      have uncontended := ih before earlier
      have alone := (sound.unpopulated earlier).current
      by_cases library : move = .work
      · subst library
        change machine.step.outcome = none at going
        change Uncontended (machine.step.cells mutex) (pending? mutex machine.step.todo)
        cases sound.works before fits going mutex with
        | @decides parking rest todo =>
            have undecided : machine.step = machine.withTodo rest := by
              rw [Machine.step_eq before todo]
              exact (machine.withTodo rest).schedule_of_none earlier
            have elsewhere :
                Action.concerns mutex (.schedule home parking : Action n k C ν) = false := by
              refine eq_false_of_ne_true fun concerned => ?_
              have calm := uncontended.calm _ (todo ▸ pending_head concerned)
              cases parking with
              | none => cases concerned
              | some => cases calm
            rw [todo, pending_aside elsewhere] at uncontended
            rw [undecided]
            exact uncontended
        | aside todo apart elsewhere cells pending stays =>
            rw [todo, pending_aside elsewhere, ← pending] at uncontended
            exact cells ▸ uncontended
        | @handles action rest pushed _ _ todo concerned _ _ asked handles becomes left =>
            have marked := run.marked before mutex
            rw [todo, pending_head concerned] at uncontended marked
            rw [alone] at handles marked
            rw [becomes, left, pending_append (pending_behind mutex asked)]
            refine handles.uncontended uncontended marked fun begins goes => ?_
            subst begins goes
            exact Machine.claims_unowned before todo alone left
      · have speaks := sound.speaks fits library going mutex
        constructor
        · rw [speaks.mutexes]
          exact uncontended.owner
        · intro index mutex me pending
          obtain ⟨request, -, begins⟩ := speaks.after _ pending
          cases request <;> cases begins
        · intro action pending
          obtain ⟨request, -, begins⟩ := speaks.after _ pending
          cases request <;> cases begins <;> rfl

end UserThreads
