import UserThreads.Failure.SystemText
import UserThreads.Text.Quoted
import UserThreads.Thread

/-!
Failures that an operation hands back to its caller: an error number of the
operating system and a cause. Each cause has its text in `Cause.message`.
-/

namespace UserThreads

inductive Cause
  | zeroInterval
  | stackTooSmall (size least : UInt64)
  | zeroMaxThreads
  | malformedDocument
  | documentCount (found : Nat)
  | missingSection (name : String)
  | sectionType (name : String)
  | variableType (name : String)
  | optionType (name : String)
  | optionRange (name : String) (value : Int)
  | idsExhausted (maxThreads : UInt32)
  | otherRuntimeActive
  | notCompleted
  | mutexHasWaiters (waiters : Nat)
  | mutexNotOwned (thread : ThreadId)
  | mutexNotInitialized (status : MutexStatus)
  | system (number : Int)
  | input (text : String)
  | stated (text : String)
  deriving DecidableEq, Repr

namespace Cause

def message : Cause → String
  | zeroInterval => "timer interval must be non-zero"
  | stackTooSmall size least =>
      "stack size is too small (stack_size=" ++ toString size.toNat ++
        ", min=" ++ toString least.toNat ++ ")"
  | zeroMaxThreads => "max threads must be non-zero"
  | malformedDocument => "malformed configuration (...)"
  | documentCount found => "expected one document (found=" ++ toString found ++ ")"
  | missingSection name => "missing configuration section \"" ++ name ++ "\""
  | sectionType name => "section \"" ++ name ++ "\" has unexpected type"
  | variableType name => "variable " ++ name ++ " has unexpected type"
  | optionType name => "option \"" ++ name ++ "\" has unexpected type"
  | optionRange name value =>
      "option \"" ++ name ++ "\" is out of range (value=" ++ toString value ++ ")"
  | idsExhausted maxThreads =>
      "thread id space exhausted (max_threads=" ++ toString maxThreads.toNat ++ ")"
  | otherRuntimeActive => "another runtime is active on this OS thread"
  | notCompleted => "thread has not completed"
  | mutexHasWaiters waiters =>
      "mutex has waiting threads (waiters=" ++ toString waiters ++ ")"
  | mutexNotOwned thread => "mutex is not owned by thread " ++ thread.text
  | mutexNotInitialized status =>
      "mutex is not initialized (status=" ++ status.describe ++ ")"
  | system number =>
      "I/O error: " ++ Failure.systemText number ++ " (os error " ++ toString number ++ ")"
  | input text => "I/O error: " ++ text
  | stated text => text

end Cause

structure Failure where
  errno : Int
  cause : Cause
  deriving DecidableEq, Repr

namespace Failure

def ioError : Int := 5
def tryAgain : Int := 11
def busy : Int := 16
def invalid : Int := 22
def outOfRange : Int := 34

/-- The short name of an error number: its symbol where it is one of the usual
ones, else the number itself. -/
def symbol (errno : Int) : String :=
  match errno with
  | 2 => "ENOENT"
  | 5 => "EIO"
  | 11 => "EAGAIN"
  | 13 => "EACCES"
  | 16 => "EBUSY"
  | 21 => "EISDIR"
  | 22 => "EINVAL"
  | 34 => "ERANGE"
  | other => "E" ++ toString other

def ofSystem (number : Int) : Failure := ⟨number, .system number⟩

/-- A failure to read that has no error number of its own. -/
def ofInput (text : String) : Failure := ⟨ioError, .input text⟩

/-- Failures to read that are told apart by their kind alone. -/
inductive InputKind
  | notFound
  | invalidData
  | unexpectedEnd
  | other
  deriving DecidableEq, Repr

def InputKind.text : InputKind → String
  | .notFound => "entity not found"
  | .invalidData => "invalid data"
  | .unexpectedEnd => "unexpected end of file"
  | .other => "other error"

def ofInputKind (kind : InputKind) : Failure := .ofInput kind.text

def message (failure : Failure) : String := failure.cause.message

/-- The error number, and the cause between quotes. -/
def describe (failure : Failure) : String :=
  "Error " ++ toString failure.errno ++ ": " ++ Text.quoted failure.message

end Failure

end UserThreads
