/-!
Threads as the rest of the library names them: identifiers and statuses.
-/

namespace UserThreads

/-- Number of a thread. Numbers are issued in order and never issued twice. -/
structure ThreadId where
  number : UInt32
  deriving DecidableEq, Repr, Inhabited

namespace ThreadId

/-- The context that initialized the runtime. -/
def main : ThreadId := ⟨0⟩

def text (id : ThreadId) : String := toString id.number.toNat

def describe (id : ThreadId) : String := "ThreadId(" ++ id.text ++ ")"

def sort (ids : List ThreadId) : List ThreadId :=
  ids.mergeSort fun left right => left.number ≤ right.number

end ThreadId

inductive ThreadStatus
  | ready
  | blocked
  | completed
  deriving DecidableEq, Repr, Inhabited

def ThreadStatus.describe : ThreadStatus → String
  | .ready => "Ready"
  | .blocked => "Blocked"
  | .completed => "Completed"

inductive MutexStatus
  | uninitialized
  | initialized
  | destroyed
  deriving DecidableEq, Repr, Inhabited

def MutexStatus.describe : MutexStatus → String
  | .uninitialized => "Uninitialized"
  | .initialized => "Initialized"
  | .destroyed => "Destroyed"

end UserThreads
