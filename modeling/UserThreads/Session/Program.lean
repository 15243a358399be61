import UserThreads.Thread

/-!
Little programs that threads run.

Programs share a counter, a set of flags and some mutexes; each thread has one
local variable. `δ` is the type of the data that programs pass on without a look
at it.
-/

namespace UserThreads.Session

inductive Value (δ : Type)
  | null
  | number (value : Int)
  | data (value : δ)
  deriving Repr

/-- Where a thread takes the value from that it leaves behind. -/
inductive ValueSource (δ : Type)
  | given (value : Value δ)
  | me
  | localVariable
  deriving Repr

inductive Operation (δ : Type)
  /-- Does an operation on another runtime than the thread's own. -/
  | on (runtime : Nat) (operation : Operation δ)
  | create (program : String)
  | yield
  | join (thread : ThreadId)
  | tryJoin (thread : ThreadId)
  | current
  | exit (source : ValueSource δ)
  | return (source : ValueSource δ)
  | panic
  | init (mutex : Nat)
  | lock (mutex : Nat)
  | unlock (mutex : Nat)
  | destroy (mutex : Nat)
  | look (mutex : Nat)
  | dropMutex (mutex : Nat)
  /-- Copies the counter into the local variable. -/
  | load
  /-- Writes the local variable plus `add` back to the counter. -/
  | store (add : Int)
  | raise (flag : String)
  /-- Yields until the flag is raised. -/
  | await (flag : String)
  | repeat (times : Nat) (body : List (Operation δ))
  /-- Branches on whether the mutex would make a locker wait or fail. -/
  | ifBusy (mutex : Nat) (busy free : List (Operation δ))
  /-- Orders an entry of a scripted timer. -/
  | order (number : Nat) (atOpening : Bool)
  | passGate
  | settings
  | dropRuntime

namespace Operation

variable {δ : Type}

instance : Inhabited (Operation δ) := ⟨yield⟩

def name : Operation δ → String
  | on _ operation => operation.name
  | create _ => "create"
  | yield => "yield"
  | join _ => "join"
  | tryJoin _ => "try_join"
  | current => "current"
  | exit _ => "exit"
  | «return» _ => "return"
  | panic => "panic"
  | init _ => "init"
  | lock _ => "lock"
  | unlock _ => "unlock"
  | destroy _ => "destroy"
  | look _ => "show"
  | dropMutex _ => "drop_mutex"
  | load => "load"
  | store _ => "store"
  | raise _ => "set"
  | await _ => "wait"
  | «repeat» .. => "repeat"
  | ifBusy .. => "if_busy"
  | order .. => "tick"
  | passGate => "gate"
  | settings => "config"
  | dropRuntime => "drop_runtime"

def mutex? : Operation δ → Option Nat
  | init mutex | lock mutex | unlock mutex | destroy mutex | look mutex | dropMutex mutex =>
      some mutex
  | ifBusy mutex _ _ => some mutex
  | _ => none

mutual

/-- How many operations are done at most, repetitions counted. -/
def weight : Operation δ → Nat
  | on _ operation => operation.weight + 1
  | «repeat» times body => times * (weights body + 1) + 1
  | ifBusy _ busy free => weights busy + weights free + 1
  | _ => 1

def weights : List (Operation δ) → Nat
  | [] => 0
  | operation :: rest => operation.weight + weights rest

end

end Operation

end UserThreads.Session
