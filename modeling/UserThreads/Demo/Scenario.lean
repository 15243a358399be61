import UserThreads.Demo.Task

/-!
The scenarios that the demonstration program shows.
-/

namespace UserThreads.Demo

inductive Scenario
  | yieldJoin
  | counter
  | exhaust
  | lastExit
  | spin
  deriving DecidableEq, Repr

namespace Scenario

def all : List Scenario := [yieldJoin, counter, exhaust, lastExit, spin]

def name : Scenario → String
  | yieldJoin => "yield-join"
  | counter => "counter"
  | exhaust => "exhaust"
  | lastExit => "last-exit"
  | spin => "spin"

def ofName? (name : String) : Option Scenario := all.find? fun scenario => scenario.name == name

end Scenario

/-! ## Yielding and joining -/

/-- Yields five times and exits with its own id. -/
def yielder : Task :=
  Task.yields 5 (.call (.current sole) fun
    | .id me => .call (.exit sole (.number me.number)) fun _ => .leave .unit
    | _ => .fail "the running thread has no id")

def joinYielders : List ThreadId → Task
  | [] => .leave .unit
  | thread :: rest =>
      .join thread fun
        | .number value => .act
            (fun shared => shared.print
              ("joined thread " ++ thread.text ++ " -> " ++ toString value.toNat ++ "\n"))
            (joinYielders rest)
        | _ => .fail ("thread " ++ thread.text ++ " exited with an unexpected value")

/-- Three threads yield and exit, and are joined in the order of creation. -/
def yieldJoin : Task := .createAll (List.replicate 3 yielder) joinYielders

/-! ## Counting -/

/-- Increments the counter a number of times, each time under the mutex, and
leaves behind whether the mutex could be used. -/
def counting : Nat → Task
  | 0 => .leave (.truth true)
  | times + 1 =>
      .attempt (.lock sole sole) fun locked =>
        if locked then
          .act Shared.increment (.attempt (.unlock sole sole) fun unlocked =>
            if unlocked then counting times else .leave (.truth false))
        else .leave (.truth false)

def joinCounters (threads : List ThreadId) (proceed : Task) : Task :=
  match threads with
  | [] => proceed
  | thread :: rest =>
      .join thread fun
        | .truth true => joinCounters rest proceed
        | _ => .fail ("thread " ++ thread.text ++ " failed to use the mutex")

/-- Two threads increment a counter under a mutex. -/
def counter : Task :=
  .require (.init sole) (.createAll (List.replicate 2 (counting 100000)) fun threads =>
    joinCounters threads (.require (.destroy sole sole)
      (.act (fun shared => shared.print ("counter=" ++ toString shared.counter ++ "\n"))
        (.leave .unit))))

/-! ## Running out of ids -/

/-- How many ids there are to run out of, the initial context's among them. -/
def exhaustIds : Nat := 64

/-- Creates threads, at most a number of them, until no id is left. -/
def createMany (most created : Nat) (proceed : Nat → Task) : Task :=
  match most with
  | 0 => proceed created
  | most + 1 =>
      .call (.create sole (.leave .unit)) fun
        | .id _ => createMany most (created + 1) proceed
        | .failed failure =>
            if failure.errno = Failure.tryAgain then proceed created
            else .fail ("unexpected failure (" ++ failure.describe ++ ")")
        | _ => .fail "no thread was created"

/-- Creates threads until no id is left. -/
def exhaust : Task :=
  createMany exhaustIds 0 fun created =>
    let expected := exhaustIds - 1
    if created = expected then
      .act (fun shared => shared.print ("created=" ++ toString created ++ "\n")) (.leave .unit)
    else
      .fail ("created " ++ toString created ++ " threads, expected " ++ toString expected)

/-! ## Exiting and spinning -/

/-- The initial context exits while another thread has work to do; the process
ends with that thread. -/
def lastExit : Task :=
  .create
    (Task.yields 3 (.act (fun shared => shared.print "worker done\n") (.leave .unit)))
    fun _ => .call (.exit sole .unit) fun _ => .leave .unit

/-- A thread spins until another one raises a flag, which only a timer lets run. -/
def spin : Task :=
  .create (.spin Shared.flag (.leave .unit)) fun spinner =>
    .create (.act (fun shared => { shared with flag := true }) (.leave .unit)) fun raiser =>
      .join spinner fun _ => .join raiser fun _ =>
        .act (fun shared => shared.print "spin done\n") (.leave .unit)

namespace Scenario

def main : Scenario → Task
  | yieldJoin => Demo.yieldJoin
  | counter => Demo.counter
  | exhaust => Demo.exhaust
  | lastExit => Demo.lastExit
  | spin => Demo.spin

def settle (scenario : Scenario) (config : Config) : Config :=
  match scenario with
  | exhaust => { config with maxThreads := .ofNat exhaustIds, stackSize := 65536 }
  | _ => config

/-- More steps than any scenario takes. -/
def enoughSteps : Nat := 100000000

def run (scenario : Scenario) (config : Config) : Run :=
  (Run.start config scenario.main).toEnd enoughSteps

end Scenario

end UserThreads.Demo
