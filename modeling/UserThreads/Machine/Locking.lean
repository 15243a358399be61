import UserThreads.Machine.Basic

/-!
Calls on mutexes, piece by piece.

The lock of a mutex is a flag that is claimed without closing the gate. A
locker whose claim fails claims once more with the gate closed, because the
owner may have unlocked in between and found nobody to wake, and parks if that
fails too.
-/

namespace UserThreads.Machine

variable {n k : Nat} {C ν : Type}

def refuseUse (machine : Machine n k C ν) (index : Fin n) (operation : String)
    (status : MutexStatus) : Machine n k C ν :=
  machine.push [.close index, .refuse index operation status]

def refuse (machine : Machine n k C ν) (index : Fin n) (operation : String)
    (status : MutexStatus) : Machine n k C ν :=
  (machine.report (.mutexRefused operation status)).finishWith index
    (.failed ⟨Failure.busy, .mutexNotInitialized status⟩)

/-- Initializing is allowed again and again, but not while threads are parked. -/
def initMutex (machine : Machine n k C ν) (mutex : Fin k) : Machine n k C ν :=
  match (machine.cells mutex).init with
  | .error cause => machine.push [.reply (.failed ⟨Failure.busy, cause⟩)]
  | .ok cells => (machine.setMutex mutex cells).push [.reply .done]

/-- Start of a lock. A thread that owns the mutex already is done. -/
def lock (machine : Machine n k C ν) (index : Fin n) (mutex : Fin k) : Machine n k C ν :=
  let cells := machine.cells mutex
  let me := (machine.runtime index).current
  if cells.status = .initialized then
    if cells.isOwnedBy me then machine.push [.reply .done]
    else machine.push [.claim index mutex me]
  else machine.refuseUse index "lock" cells.status

def claim (machine : Machine n k C ν) (index : Fin n) (mutex : Fin k) (me : ThreadId) :
    Machine n k C ν :=
  match (machine.cells mutex).claim with
  | (true, cells) => (machine.setMutex mutex cells).push [.acquire mutex me]
  | (false, cells) =>
      (machine.setMutex mutex cells).push [.close index, .claimAgain index mutex me]

def blockCurrent (machine : Machine n k C ν) (index : Fin n) : Machine n k C ν :=
  match (machine.runtime index).scheduler with
  | none => machine.abort .notInitialized
  | some scheduler =>
      machine.setScheduler index
        { scheduler with current := { scheduler.current with status := .blocked } }

/-- A lock's claim with the gate closed. If it fails the thread parks. -/
def claimAgain (machine : Machine n k C ν) (index : Fin n) (mutex : Fin k) (me : ThreadId) :
    Machine n k C ν :=
  match (machine.cells mutex).claim with
  | (true, cells) => (machine.setMutex mutex cells).push [.reopen index, .acquire mutex me]
  | (false, cells) =>
      (((machine.setMutex mutex cells).report (.lockBlocks me)).blockCurrent index).push
        [.schedule index (some mutex), .reopen index, .woken index mutex me]

/-- A locker that was parked runs again. The mutex may have been destroyed
meanwhile; if not, the claim is tried anew. -/
def woken (machine : Machine n k C ν) (index : Fin n) (mutex : Fin k) (me : ThreadId) :
    Machine n k C ν :=
  let status := (machine.cells mutex).status
  if status = .initialized then machine.push [.claim index mutex me]
  else machine.refuseUse index "lock" status

def acquire (machine : Machine n k C ν) (mutex : Fin k) (me : ThreadId) : Machine n k C ν :=
  (machine.setMutex mutex ((machine.cells mutex).setOwner me)).push [.reply .done]

/-- Releases the mutex if the running thread owns it. A waiter that parks after
the look at the queue has claimed once more by itself. -/
def unlock (machine : Machine n k C ν) (index : Fin n) (mutex : Fin k) : Machine n k C ν :=
  let cells := machine.cells mutex
  let me := (machine.runtime index).current
  if cells.isOwnedBy me then
    let machine := machine.setMutex mutex cells.release
    if cells.waiters.isEmpty then machine.push [.reply .done]
    else machine.push [.close index, .handOn index mutex]
  else machine.push [.close index, .refuseUnlock index me]

def refuseUnlock (machine : Machine n k C ν) (index : Fin n) (me : ThreadId) : Machine n k C ν :=
  (machine.report (.unlockRefused me)).finishWith index
    (.failed ⟨Failure.busy, .mutexNotOwned me⟩)

/-- Puts a thread taken off a wait queue back in line. -/
def wake (machine : Machine n k C ν) (index : Fin n) (block : Block (Context n k C ν) ν) :
    Machine n k C ν :=
  let machine := machine.report (.threadWoken block.id)
  match (machine.runtime index).scheduler with
  | none => machine.abort .notInitialized
  | some scheduler => machine.setScheduler index (scheduler.makeReady block)

def popWaiter (machine : Machine n k C ν) (mutex : Fin k) :
    Option (Block (Context n k C ν) ν) × Machine n k C ν :=
  let cells := machine.cells mutex
  match cells.waiters.pop with
  | (first, waiters) => (first, machine.setMutex mutex { cells with waiters })

def handOn (machine : Machine n k C ν) (index : Fin n) (mutex : Fin k) : Machine n k C ν :=
  match machine.popWaiter mutex with
  | (none, machine) => machine.finishWith index .done
  | (some waiter, machine) => (machine.wake index waiter).finishWith index .done

/-- Start of a destruction: lockers that arrive from now on fail. Another owner
than the running thread is waited for. -/
def destroy (machine : Machine n k C ν) (index : Fin n) (mutex : Fin k) : Machine n k C ν :=
  let cells := machine.cells mutex
  if cells.status = .initialized then
    let machine := machine.setMutex mutex { cells with status := .destroyed }
    if cells.isOwnedBy (machine.runtime index).current then
      machine.push [.releaseDestroyed index mutex]
    else machine.push [.drain index mutex]
  else machine.refuseUse index "destroy" cells.status

def drain (machine : Machine n k C ν) (index : Fin n) (mutex : Fin k) : Machine n k C ν :=
  match (machine.cells mutex).claim with
  | (true, cells) => (machine.setMutex mutex cells).push [.releaseDestroyed index mutex]
  | (false, cells) =>
      (machine.setMutex mutex cells).push
        [.close index, .schedule index none, .reopen index, .drain index mutex]

def releaseDestroyed (machine : Machine n k C ν) (index : Fin n) (mutex : Fin k) :
    Machine n k C ν :=
  (machine.setMutex mutex (machine.cells mutex).release).push
    [.close index, .wakeAll index mutex]

/-- A destroyer wakes the waiters one after the other, so that they can fail. -/
def wakeAll (machine : Machine n k C ν) (index : Fin n) (mutex : Fin k) : Machine n k C ν :=
  match machine.popWaiter mutex with
  | (some waiter, machine) => (machine.wake index waiter).push [.wakeAll index mutex]
  | (none, machine) =>
      (machine.report (.mutexDestroyed (machine.runtime index).current)).finishWith index .done

def dropMutex (machine : Machine n k C ν) (mutex : Fin k) : Machine n k C ν :=
  let cells := machine.cells mutex
  let machine :=
    if cells.waiters.isEmpty then machine else machine.report (.mutexDropped cells.waiters.length)
  (machine.setMutex mutex { cells with waiters := .empty }).push [.reply .done]

end UserThreads.Machine
