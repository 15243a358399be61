import UserThreads.Session.Run

/-!
What a run of little programs leaves behind.
-/

namespace UserThreads.Session

structure Report (δ : Type) where
  ending : Ending
  returned : Value δ
  counter : Int
  /-- The mutexes; none for one that was given up. -/
  mutexes : List (Option MutexSight)
  /-- How the gates were used; none for one that goes by no plan. -/
  gates : List (Option GateTally)
  notes : List (Note δ)

/-- The report on a run; one that has not ended would go on for ever. -/
def Run.report {n k : Nat} {δ : Type} (run : Run n k δ) : Report δ where
  ending := run.ending.getD .stuck
  returned := match run.machine.outcome with
    | some (.returned value) => value
    | _ => .null
  counter := run.counter
  mutexes := (run.kept.toList.zip run.machine.mutexes.toList).map fun (kept, mutex) =>
    if kept then some (MutexSight.of mutex) else none
  gates := run.machine.runtimes.toList.map fun runtime =>
    match runtime.gate.kind with
    | .scripted | .refusing => some runtime.gate.tally
    | .cooperative | .signal => none
  notes := run.notes.reverse

end UserThreads.Session
