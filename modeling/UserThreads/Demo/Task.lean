import UserThreads.Machine.Step

/-!
Threads that are programmed as trees of instructions, and their run on a single
runtime.
-/

namespace UserThreads.Demo

inductive Value
  | unit
  | number (value : UInt32)
  | truth (holds : Bool)
  deriving DecidableEq, Repr

structure Shared where
  counter : Nat
  flag : Bool
  printed : String
  /-- What the threads left behind that were joined, the first joined first. -/
  joined : List Value
  deriving Repr

def Shared.start : Shared := ⟨0, false, "", []⟩

def Shared.print (shared : Shared) (text : String) : Shared :=
  { shared with printed := shared.printed ++ text }

def Shared.increment (shared : Shared) : Shared := { shared with counter := shared.counter + 1 }

/-- What is left of a thread's own code. -/
inductive Task
  | leave (value : Value)
  | fail (reason : String)
  /-- Asks the library for an operation, and goes on with its answer. -/
  | call (request : Call 1 1 Task Value) (proceed : Reply Value → Task)
  /-- Goes on with the answer to the last operation. -/
  | receive (proceed : Reply Value → Task)
  | act (change : Shared → Shared) (proceed : Task)
  /-- Looks at the shared state again and again, without yielding. -/
  | spin (ended : Shared → Bool) (proceed : Task)

instance : Inhabited Task := ⟨.leave .unit⟩

namespace Task

/-- Makes a thread, and fails with it. -/
def create (entry : Task) (proceed : ThreadId → Task) : Task :=
  .call (.create sole entry) fun
    | .id thread => proceed thread
    | .failed failure => .fail failure.describe
    | _ => .fail "no thread was created"

/-- Makes some threads, and goes on with their ids in order. -/
def createAll (entries : List Task) (proceed : List ThreadId → Task) : Task :=
  match entries with
  | [] => proceed []
  | entry :: rest =>
      create entry fun thread => createAll rest fun threads => proceed (thread :: threads)

def join (thread : ThreadId) (proceed : Value → Task) : Task :=
  .call (.join sole thread) fun
    | .value left => .act (fun shared => { shared with joined := shared.joined ++ [left] })
        (proceed left)
    | _ => .fail "no thread was joined"

/-- Does an operation, and goes on with whether it succeeded. -/
def attempt (request : Call 1 1 Task Value) (proceed : Bool → Task) : Task :=
  .call request fun
    | .failed _ => proceed false
    | _ => proceed true

/-- Does an operation that answers nothing, and fails with it. -/
def require (request : Call 1 1 Task Value) (proceed : Task) : Task :=
  .call request fun
    | .failed failure => .fail failure.describe
    | _ => proceed

def yields (times : Nat) (proceed : Task) : Task :=
  match times with
  | 0 => proceed
  | times + 1 => .call (.yield sole) fun _ => yields times proceed

end Task

inductive Ending
  | returned
  | exited
  | failed (reason : String)
  | aborted
  /-- A thread spins, and no timer ever takes the processor from it. -/
  | stuck
  deriving DecidableEq, Repr

structure Run where
  machine : Machine 1 1 Task Value
  shared : Shared
  /-- How the run ended, if not by the machine. -/
  ending : Option Ending

namespace Run

def start (config : Config) (main : Task) : Run where
  machine := .start #v[.ofConfig config] main
  shared := .start
  ending := none

def setCode (run : Run) (code : Task) : Run := { run with machine := { run.machine with code } }

/-- The running thread's own code does one thing. A timer that comes in while a
thread spins takes the processor from it like a yield. -/
def advance (run : Run) : Run :=
  match run.machine.code with
  | .leave value => { run with machine := run.machine.leave value }
  | .fail reason => { run with ending := some (.failed reason) }
  | .call request proceed =>
      let run := run.setCode (.receive proceed)
      { run with machine := run.machine.call request }
  | .receive proceed => run.setCode (proceed run.machine.answer)
  | .act change proceed => { run with shared := change run.shared }.setCode proceed
  | .spin ended proceed =>
      if ended run.shared then run.setCode proceed
      else if (run.machine.runtime sole).config.preemption then
        { run with machine := run.machine.call (.yield sole) }
      else { run with ending := some .stuck }

def ending? (run : Run) : Option Ending :=
  match run.ending, run.machine.outcome with
  | some ending, _ => some ending
  | none, some (.returned _) => some .returned
  | none, some .exited => some .exited
  | none, some (.aborted _) => some .aborted
  | none, none => none

def step (run : Run) : Run :=
  if run.machine.inOwnCode then run.advance else { run with machine := run.machine.step }

/-- Runs to the end, or `fuel` steps. -/
def toEnd (run : Run) : Nat → Run
  | 0 => run
  | fuel + 1 => if run.ending?.isSome then run else run.step.toEnd fuel

/-- What was logged, the oldest event first. -/
def log (run : Run) : List LogEvent := run.machine.log.reverse

end Run

end UserThreads.Demo
