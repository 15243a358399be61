import UserThreads.Config
import UserThreads.Machine.Action
import UserThreads.Mutex
import UserThreads.Session.Program

/-!
What is noted down of a run: the results of its operations, what can be seen of
the runtime and of the mutex concerned, and what the library logs in between.
-/

namespace UserThreads.Session

inductive Result (δ : Type)
  | nothing
  | id (thread : ThreadId)
  | value (value : Value δ)
  /-- The value of a thread that was joined. -/
  | taken (value : Value δ)
  | failed (failure : Failure)
  | number (value : Int)
  | truth (holds : Bool)
  | text (text : String)
  | settings (config : Config)
  deriving Repr

structure MutexSight where
  status : MutexStatus
  owner : Option ThreadId
  locked : Bool
  waiters : Nat
  deriving Repr

structure Sight where
  thread : ThreadId
  ready : Nat
  completed : Nat
  mutex : Option MutexSight
  deriving Repr

inductive Note (δ : Type)
  | event (event : LogEvent)
  | operation (name : String) (result : Result δ) (sight : Option Sight)
  deriving Repr

inductive Ending
  | done
  | exited
  | aborted
  /-- The threads poll for ever. -/
  | stuck
  /-- A runtime was given up by a thread that runs on it. -/
  | dropped
  deriving DecidableEq, Repr

namespace MutexSight

def of {κ ν : Type} (mutex : Mutex κ ν) : MutexSight where
  status := mutex.status
  owner := mutex.owner?
  locked := mutex.locked
  waiters := mutex.waiters.length

end MutexSight

def Result.ofReply {δ : Type} : Reply (Value δ) → Result δ
  | .done => .nothing
  | .id thread => .id thread
  | .value left => .taken left
  | .count total => .number total
  | .failed reason => .failed reason

end UserThreads.Session
