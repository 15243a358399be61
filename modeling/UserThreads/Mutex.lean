import UserThreads.Failure
import UserThreads.WaitQueue

/-!
The cells of a mutex and the steps on them that nothing can interrupt. How the
calls on a mutex are put together from these steps is the machine's business.
-/

namespace UserThreads

structure Mutex (κ ν : Type) where
  locked : Bool
  /-- The owner's number, or `noOwner`. -/
  ownerMark : UInt32
  status : MutexStatus
  waiters : WaitQueue κ ν
  deriving Repr

namespace Mutex

variable {κ ν : Type}

/-- Marks a mutex that nobody holds. -/
def noOwner : UInt32 := 4294967295

/-- A mutex that must be initialized before it is used. -/
def new : Mutex κ ν where
  locked := false
  ownerMark := noOwner
  status := .uninitialized
  waiters := .empty

instance : Inhabited (Mutex κ ν) := ⟨new⟩

def owner? (mutex : Mutex κ ν) : Option ThreadId :=
  if mutex.ownerMark = noOwner then none else some ⟨mutex.ownerMark⟩

def isOwnedBy (mutex : Mutex κ ν) (thread : ThreadId) : Bool :=
  decide (mutex.owner? = some thread)

def release (mutex : Mutex κ ν) : Mutex κ ν :=
  { mutex with ownerMark := noOwner, locked := false }

/-- Makes the mutex usable, whatever it was, unless threads are parked on it. -/
def init (mutex : Mutex κ ν) : Except Cause (Mutex κ ν) :=
  if mutex.waiters.isEmpty then .ok { mutex.release with status := .initialized }
  else .error (.mutexHasWaiters mutex.waiters.length)

/-- Locks the mutex and says whether it was open until now. -/
def claim (mutex : Mutex κ ν) : Bool × Mutex κ ν :=
  (!mutex.locked, { mutex with locked := true })

def setOwner (mutex : Mutex κ ν) (thread : ThreadId) : Mutex κ ν :=
  { mutex with ownerMark := thread.number }

/-- Whether a locker would have to wait or fail. -/
def isBusy (mutex : Mutex κ ν) : Bool :=
  mutex.locked || decide (mutex.status ≠ .initialized)

end Mutex

end UserThreads
