import UserThreads.Proofs.Accesses
import UserThreads.Proofs.Waking

/-!
Work done access by access comes to what the machine makes of it in one go: it finds
nothing lent that it has lent before, and leaves nothing lent and no seat empty.
-/

namespace UserThreads

variable {n k : Nat} {C ν α : Type}

/-- Nothing is lent, and every seat is taken. -/
def Underway.of (machine : Machine n k C ν) : Underway n k C ν := ⟨machine, [], [], []⟩

@[simp] theorem Underway.machine_of (machine : Machine n k C ν) :
    (Underway.of machine).machine = machine := rfl

/-- What a piece of work comes to that leads to `machine`. -/
def Machine.carried (machine : Machine n k C ν) : Except Fault (Unit × Underway n k C ν) :=
  match machine.outcome with
  | some (.aborted fault) => throw fault
  | _ => pure ((), .of machine)

@[simp] theorem Machine.carried_abort (machine : Machine n k C ν) (fault : Fault) :
    (machine.abort fault).carried = throw fault := rfl

theorem Machine.carries {machine : Machine n k C ν} (going : machine.outcome = none) :
    pure ((), .of machine) = machine.carried := by
  rw [carried, going]

/-- Nothing follows a fault. -/
@[simp] theorem throw_bind {β : Type} (fault : Fault) (next : α → Except Fault β) :
    (throw fault : Except Fault α) >>= next = throw fault := rfl

@[simp] theorem throw_map {β : Type} (fault : Fault) (next : α → β) :
    next <$> (throw fault : Except Fault α) = throw fault := rfl

@[simp] theorem Procedure.throw_run (fault : Fault) (state : Underway n k C ν) :
    (throw fault : Procedure n k C ν α).run state = throw fault := rfl

@[simp] theorem Tenure.throw_run (fault : Fault) (loan : Loan (Context n k C ν) ν)
    (state : Underway n k C ν) :
    ((throw fault : Tenure n k C ν α).run loan).run state = throw fault := rfl

variable {machine : Machine n k C ν} {index : Fin n} {mutex : Fin k}
  {scheduler : Scheduler (Context n k C ν) ν} {lent vacant : List (Fin n)}

namespace Procedure

@[simp] theorem onMachine_run (work : Machine n k C ν → Machine n k C ν)
    (state : Underway n k C ν) :
    (onMachine work).run state = pure ((), { state with machine := work state.machine }) := rfl

@[simp] theorem withQueue_run (work : WaitQueue (Context n k C ν) ν →
    α × WaitQueue (Context n k C ν) ν) :
    (withQueue mutex work).run ⟨machine, lent, vacant, []⟩ =
      pure ((work (machine.cells mutex).waiters).1,
        ⟨machine.setMutex mutex { machine.cells mutex with
          waiters := (work (machine.cells mutex).waiters).2 }, lent, vacant, []⟩) := by
  simp [withQueue]

end Procedure

section decision

variable (parking : Option (Fin k))

namespace Tenure

/-- What a decision comes to while the scheduler is lent. -/
def decided (machine : Machine n k C ν) (lent vacant : List (Fin n)) (parking : Option (Fin k)) :
    Except Fault (Rotation (Context n k C ν) ν) → Except Fault
      ((Option Switch × Loan (Context n k C ν) ν) × Underway n k C ν)
  | .error fault => throw fault
  | .ok rotation => pure ((rotation.switch, ⟨rotation.scheduler, true⟩),
      ⟨(machine.setWaiters parking rotation.waiting).reportAll rotation.event.toList,
        lent, vacant, []⟩)

end Tenure

end decision

namespace Procedure

section lending

variable {work : Tenure n k C ν α}

end lending

end Procedure

namespace Machine

end Machine

namespace Procedure

section lone

end lone

variable (going : machine.outcome = none)
include going

end Procedure

end UserThreads
