import UserThreads.Duration
import UserThreads.Failure

/-!
What the library logs. An event says what happened; its level, the component
that reports it and its text are functions of it.
-/

namespace UserThreads

/-- Levels of a log record, the most severe first. -/
inductive LogLevel
  | error
  | warn
  | info
  | debug
  | trace
  deriving DecidableEq, Repr

namespace LogLevel

def name : LogLevel → String
  | error => "ERROR"
  | warn => "WARN"
  | info => "INFO"
  | debug => "DEBUG"
  | trace => "TRACE"

def severity : LogLevel → Nat
  | error => 1
  | warn => 2
  | info => 3
  | debug => 4
  | trace => 5

def admits (kept level : LogLevel) : Bool := level.severity ≤ kept.severity

end LogLevel

inductive LogEvent
  | handlerInstalled
  | runtimeStarted (preemption : Bool) (interval : Duration)
  | otherRuntimeActive
  | threadCreated (thread : ThreadId)
  | lastRunnable (thread : ThreadId)
  | threadCompleted (thread : ThreadId)
  | threadJoined (thread : ThreadId)
  | threadTaken (thread : ThreadId)
  | threadWoken (thread : ThreadId)
  | runtimeLeaked (thread : ThreadId)
  | idsExhausted (maxThreads : UInt32)
  | blockedAlone (thread : ThreadId)
  | rotated (outgoing incoming : ThreadId) (age : Nat)
  | lockBlocks (thread : ThreadId)
  | unlockRefused (thread : ThreadId)
  | mutexRefused (operation : String) (status : MutexStatus)
  | mutexDestroyed (thread : ThreadId)
  | mutexDropped (waiters : Nat)
  | documentRefused (cause : Cause)
  | configRefused (cause : Cause)
  | fatal (reason : String)
  deriving DecidableEq, Repr

namespace LogEvent

def level : LogEvent → LogLevel
  | otherRuntimeActive | unlockRefused _ | documentRefused _ | configRefused _ | fatal _ => .error
  | runtimeLeaked _ | idsExhausted _ | blockedAlone _ | mutexDropped _ => .warn
  | runtimeStarted .. | threadCreated _ | lastRunnable _ | threadCompleted _ | threadJoined _
  | threadTaken _ | mutexRefused .. | mutexDestroyed _ => .debug
  | handlerInstalled | threadWoken _ | rotated .. | lockBlocks _ => .trace

/-- The component that reports the event, as the log names it. -/
def component : LogEvent → String
  | handlerInstalled => "uthread::pal::linux::preemption"
  | runtimeStarted .. | otherRuntimeActive | threadCreated _ | lastRunnable _ | threadCompleted _
  | threadJoined _ | threadTaken _ | threadWoken _ | runtimeLeaked _ => "uthread::runtime"
  | idsExhausted _ | blockedAlone _ | rotated .. => "uthread::runtime::scheduler::scheduler"
  | lockBlocks _ | unlockRefused _ | mutexRefused .. | mutexDestroyed _ | mutexDropped _ =>
      "uthread::runtime::scheduler::mutex"
  | documentRefused _ | configRefused _ => "uthread::runtime::config"
  | fatal _ => "uthread::runtime::fail"

def message : LogEvent → String
  | handlerInstalled => "install(): SIGPROF handler installed"
  | runtimeStarted preemption interval =>
      "initialize(): runtime started (preemption=" ++ toString preemption ++
        ", interval=" ++ interval.text ++ ")"
  | otherRuntimeActive => "initialize(): " ++ Cause.otherRuntimeActive.message
  | threadCreated thread => "create(): thread " ++ thread.text ++ " created"
  | lastRunnable thread =>
      "exit(): thread " ++ thread.text ++ " was the last runnable thread"
  | threadCompleted thread => "exit(): thread " ++ thread.text ++ " completed"
  | threadJoined thread => "join(): thread " ++ thread.text ++ " joined"
  | threadTaken thread => "try_join(): thread " ++ thread.text ++ " joined"
  | threadWoken thread => "wake(): thread " ++ thread.text ++ " is ready"
  | runtimeLeaked thread =>
      "drop(): runtime dropped by thread " ++ thread.text ++ ", leaking its threads"
  | idsExhausted maxThreads => "issue_id(): " ++ (Cause.idsExhausted maxThreads).message
  | blockedAlone thread =>
      "rotate(): thread " ++ thread.text ++ " blocked with no other thread ready"
  | rotated outgoing incoming age =>
      "rotate(): from=" ++ outgoing.describe ++ " to=" ++ incoming.describe ++
        " age=" ++ toString age
  | lockBlocks thread => "lock(): thread " ++ thread.text ++ " blocks"
  | unlockRefused thread => "unlock(): " ++ (Cause.mutexNotOwned thread).message
  | mutexRefused operation status =>
      operation ++ "(): " ++ (Cause.mutexNotInitialized status).message
  | mutexDestroyed thread => "destroy(): mutex destroyed by thread " ++ thread.text
  | mutexDropped waiters =>
      "drop(): mutex dropped with " ++ toString waiters ++ " waiting threads"
  | documentRefused cause => "from_yaml_str(): " ++ cause.message
  | configRefused cause => "validate(): " ++ cause.message
  | fatal reason => "fatal(): " ++ reason

end LogEvent

/-- A reason to stop the whole process at once. -/
inductive Fault
  | notInitialized
  | nowhereToWait
  | readyDrained
  | resumedAfterExit
  | noReturnValue
  | startedTwice
  | noActiveRuntime
  | noRunningThread
  | schedulerReentered
  | queueReentered
  | panicked (thread : ThreadId)
  | gate (failure : Failure)
  | cannotLoad (path : String) (failure : Failure)
  | cannotCreate (failure : Failure)
  /-- A thread that has its value already was completed again. -/
  | completedTwice
  /-- The initial context panicked. -/
  | uncaught
  /-- The age of a thread went beyond its 64 bits. -/
  | ageOverflow
  deriving DecidableEq, Repr

namespace Fault

/-- The text under which the fault is reported, if it is reported at all: a
broken arithmetic or assertion check stops the process without a record. -/
def reason? : Fault → Option String
  | notInitialized => some "runtime was not initialized"
  | nowhereToWait => some "blocked thread has nowhere to wait"
  | readyDrained => some "ready queue drained during rotation"
  | resumedAfterExit => some "completed thread was resumed"
  | noReturnValue => some "completed thread has no return value"
  | startedTwice => some "thread started twice"
  | noActiveRuntime => some "thread started without an active runtime"
  | noRunningThread => some "scheduler has no running thread"
  | schedulerReentered => some "scheduler accessed reentrantly"
  | queueReentered => some "wait queue accessed reentrantly"
  | panicked thread => some ("thread " ++ thread.text ++ " panicked")
  | gate failure => some failure.describe
  | cannotLoad path failure => some ("cannot load " ++ path ++ " (" ++ failure.describe ++ ")")
  | cannotCreate failure => some ("cannot create default runtime (" ++ failure.describe ++ ")")
  | completedTwice | uncaught | ageOverflow => none

def event? (fault : Fault) : Option LogEvent := fault.reason?.map .fatal

end Fault

end UserThreads
