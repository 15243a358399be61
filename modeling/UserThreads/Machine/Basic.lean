import UserThreads.Config
import UserThreads.Gate
import UserThreads.Machine.Action
import UserThreads.Mutex
import UserThreads.Scheduler

/-!
The machine: runtimes and mutexes of one OS thread, and the thread that it runs
at the moment.

Every thread but the running one is inside the library, and its context is kept
in its control block.
-/

namespace UserThreads

/-- Where a thread is: what is left for it to do, and the state of its own code. -/
structure Context (n k : Nat) (C ν : Type) where
  todo : List (Action n k C ν)
  code : C
  deriving Repr

structure Runtime (n k : Nat) (C ν : Type) where
  config : Config
  gate : Gate
  /-- Made by the first creation of a thread. -/
  scheduler : Option (Scheduler (Context n k C ν) ν)
  /-- The running thread's id, readable with the gate open. -/
  current : ThreadId
  /-- Whether the runtime has not been given up. -/
  live : Bool

inductive Outcome (ν : Type)
  /-- The initial context returned. -/
  | returned (value : ν)
  /-- The last runnable thread exited. -/
  | exited
  | aborted (fault : Fault)
  deriving Repr

structure Machine (n k : Nat) (C ν : Type) where
  runtimes : Vector (Runtime n k C ν) n
  /-- The runtime that drives the OS thread. -/
  active : Option (Fin n)
  mutexes : Vector (Mutex (Context n k C ν) ν) k
  todo : List (Action n k C ν)
  code : C
  /-- The answer to the last operation of the running thread. -/
  answer : Reply ν
  /-- The newest event first. -/
  log : List LogEvent
  outcome : Option (Outcome ν)

namespace Runtime

variable {n k : Nat} {C ν : Type}

/-- A runtime that no thread has been created on. -/
def new (config : Config) (gate : Gate) : Runtime n k C ν where
  config := config
  gate := gate
  scheduler := none
  current := .main
  live := true

instance : Inhabited (Runtime n k C ν) := ⟨new .standard default⟩

/-- The gate that a runtime gets if it is not given one: driven by signals if
its settings ask for preemption. -/
def gateFor (config : Config) : Gate :=
  if config.preemption then .new .signal Gate.never else .new .cooperative Gate.never

def ofConfig (config : Config) : Runtime n k C ν := new config (gateFor config)

def numReady (runtime : Runtime n k C ν) : Nat :=
  match runtime.scheduler with
  | none => 0
  | some scheduler => scheduler.ready.length

def numCompleted (runtime : Runtime n k C ν) : Nat :=
  match runtime.scheduler with
  | none => 0
  | some scheduler => scheduler.completed.length

end Runtime

namespace Machine

variable {n k : Nat} {C ν : Type}

def start (runtimes : Vector (Runtime n k C ν) n) (code : C) : Machine n k C ν where
  runtimes := runtimes
  active := none
  mutexes := Vector.replicate k .new
  todo := [.own none]
  code := code
  answer := .done
  log := []
  outcome := none

def runtime (machine : Machine n k C ν) (index : Fin n) : Runtime n k C ν :=
  machine.runtimes.get index

def cells (machine : Machine n k C ν) (index : Fin k) : Mutex (Context n k C ν) ν :=
  machine.mutexes.get index

def setRuntime (machine : Machine n k C ν) (index : Fin n) (runtime : Runtime n k C ν) :
    Machine n k C ν :=
  { machine with runtimes := machine.runtimes.set index runtime index.isLt }

def setGate (machine : Machine n k C ν) (index : Fin n) (gate : Gate) : Machine n k C ν :=
  machine.setRuntime index { machine.runtime index with gate }

def setScheduler (machine : Machine n k C ν) (index : Fin n)
    (scheduler : Scheduler (Context n k C ν) ν) : Machine n k C ν :=
  machine.setRuntime index { machine.runtime index with scheduler := some scheduler }

def setMutex (machine : Machine n k C ν) (index : Fin k)
    (mutex : Mutex (Context n k C ν) ν) : Machine n k C ν :=
  { machine with mutexes := machine.mutexes.set index mutex index.isLt }

/-- Gives the running thread `actions` to do before all else. -/
def push (machine : Machine n k C ν) (actions : List (Action n k C ν)) : Machine n k C ν :=
  { machine with todo := actions ++ machine.todo }

def report (machine : Machine n k C ν) (event : LogEvent) : Machine n k C ν :=
  { machine with log := event :: machine.log }

/-- Reports events, the first one first. -/
def reportAll (machine : Machine n k C ν) (events : List LogEvent) : Machine n k C ν :=
  { machine with log := events.reverse ++ machine.log }

def abort (machine : Machine n k C ν) (fault : Fault) : Machine n k C ν :=
  { machine.reportAll fault.event?.toList with outcome := some (.aborted fault) }

/-- Opens the gate on the way out of an operation that succeeded. -/
def finishWith (machine : Machine n k C ν) (index : Fin n) (answer : Reply ν) :
    Machine n k C ν :=
  machine.push [.reopen index, .reply answer]

end Machine

end UserThreads
