import UserThreads.Failure

/-!
What threads ask of the library, and what is left for them to do.

The library's code is cut where a thread can lose the processor or a gate is
moved. The pieces are actions, and a thread that is anywhere inside the library
is a list of actions still to be done, which ends in its own code.

The runtimes of a machine are numbered below `n` and its mutexes below `k`; `C`
is the state of a thread's own code and `ν` the type of the values that threads
leave behind.
-/

namespace UserThreads

/-- The only runtime or mutex of a machine that has one. -/
def sole : Fin 1 := ⟨0, Nat.zero_lt_one⟩

inductive Reply (ν : Type)
  | done
  | id (thread : ThreadId)
  | value (value : ν)
  | count (number : Nat)
  | failed (failure : Failure)
  deriving Repr

inductive Call (n k : Nat) (C ν : Type)
  /-- Makes a thread that runs `entry`. -/
  | create (runtime : Fin n) (entry : C)
  | yield (runtime : Fin n)
  | exit (runtime : Fin n) (value : ν)
  /-- Waits for a thread to end, by polling, and takes its value. -/
  | join (runtime : Fin n) (thread : ThreadId)
  /-- Takes the value of a thread that has ended. -/
  | tryJoin (runtime : Fin n) (thread : ThreadId)
  | current (runtime : Fin n)
  | numReady (runtime : Fin n)
  | numCompleted (runtime : Fin n)
  | passGate (runtime : Fin n)
  /-- Gives the runtime up, with all its threads. -/
  | dropRuntime (runtime : Fin n)
  | init (mutex : Fin k)
  | lock (runtime : Fin n) (mutex : Fin k)
  | unlock (runtime : Fin n) (mutex : Fin k)
  | destroy (runtime : Fin n) (mutex : Fin k)
  /-- Gives the mutex up, with the threads parked on it. -/
  | dropMutex (mutex : Fin k)
  deriving Repr

/-- A piece of the library's code, to be done without interruption. -/
inductive Action (n k : Nat) (C ν : Type)
  /-- The thread's own code runs; `host` is the runtime that takes its result,
  none for the context that no runtime started. -/
  | own (host : Option (Fin n))
  | reply (answer : Reply ν)
  /-- Closes a gate, with the timer let in first if it is due. -/
  | close (runtime : Fin n)
  /-- The timer that came in before a closing has left; the gate is closed. -/
  | closed (runtime : Fin n)
  /-- Opens a gate, with the timer let in if one was ordered. -/
  | reopen (runtime : Fin n)
  /-- The timer that came in after an opening has left; the gate is open. -/
  | reopened (runtime : Fin n)
  /-- The timer's entry: it acts on the active runtime, if there is one. -/
  | timer
  /-- One scheduling decision, carried out. A blocked thread is parked on
  `mutex`. -/
  | schedule (runtime : Fin n) (mutex : Option (Fin k))
  /-- First piece of a new thread: finds the active runtime and takes its entry. -/
  | begin
  /-- The new thread's gate is open; `unstarted` says whether it had an entry. -/
  | enter (host : Fin n) (unstarted : Bool)
  /-- Makes sure that the runtime has a scheduler. -/
  | enroll (runtime : Fin n) (entry : C)
  /-- Makes a thread, gives it an id and makes it ready. -/
  | issue (runtime : Fin n) (entry : C)
  | reap (runtime : Fin n) (thread : ThreadId)
  | tryReap (runtime : Fin n) (thread : ThreadId)
  | readCurrent (runtime : Fin n)
  | countReady (runtime : Fin n)
  | countCompleted (runtime : Fin n)
  /-- Completes the running thread, and ends the process if nobody is ready. -/
  | finish (runtime : Fin n) (value : ν)
  /-- Where a thread that has exited would go on. -/
  | resumed
  /-- Start of giving a runtime up: the active one is detached first. -/
  | dropRuntime (runtime : Fin n)
  /-- Detaches a runtime from its timer and from the OS thread. -/
  | deactivate (runtime : Fin n)
  | discard (runtime : Fin n)
  | initMutex (mutex : Fin k)
  /-- Start of a lock: fails unless the mutex is usable, succeeds for its owner. -/
  | lock (runtime : Fin n) (mutex : Fin k)
  /-- A lock's claim with the gate open. -/
  | claim (runtime : Fin n) (mutex : Fin k) (me : ThreadId)
  /-- A lock's second claim, with the gate closed; parks if that fails too. -/
  | claimAgain (runtime : Fin n) (mutex : Fin k) (me : ThreadId)
  /-- A parked locker runs again. -/
  | woken (runtime : Fin n) (mutex : Fin k) (me : ThreadId)
  /-- A lock's claim has succeeded. -/
  | acquire (mutex : Fin k) (me : ThreadId)
  | unlock (runtime : Fin n) (mutex : Fin k)
  /-- An unlock by a thread that is not the owner is reported. -/
  | refuseUnlock (runtime : Fin n) (me : ThreadId)
  /-- An unlock wakes the first waiter. -/
  | handOn (runtime : Fin n) (mutex : Fin k)
  | destroy (runtime : Fin n) (mutex : Fin k)
  /-- A destroyer's claim, repeated until the owner has given the mutex up. -/
  | drain (runtime : Fin n) (mutex : Fin k)
  /-- A destroyer releases the mutex. -/
  | releaseDestroyed (runtime : Fin n) (mutex : Fin k)
  /-- A destroyer wakes the waiters, one after the other. -/
  | wakeAll (runtime : Fin n) (mutex : Fin k)
  /-- A call on a mutex that is not usable is reported. -/
  | refuse (runtime : Fin n) (operation : String) (status : MutexStatus)
  | dropMutex (mutex : Fin k)
  deriving Repr

/-- The pieces that a call consists of. -/
def Call.actions {n k : Nat} {C ν : Type} : Call n k C ν → List (Action n k C ν)
  | .create runtime entry => [.close runtime, .enroll runtime entry]
  | .yield runtime => [.close runtime, .schedule runtime none, .reopen runtime, .reply .done]
  | .exit runtime value => [.close runtime, .finish runtime value]
  | .join runtime thread => [.close runtime, .reap runtime thread]
  | .tryJoin runtime thread => [.close runtime, .tryReap runtime thread]
  | .current runtime => [.readCurrent runtime]
  | .numReady runtime => [.close runtime, .countReady runtime]
  | .numCompleted runtime => [.close runtime, .countCompleted runtime]
  | .passGate runtime => [.close runtime, .reopen runtime, .reply .done]
  | .dropRuntime runtime => [.dropRuntime runtime]
  | .init mutex => [.initMutex mutex]
  | .lock runtime mutex => [.lock runtime mutex]
  | .unlock runtime mutex => [.unlock runtime mutex]
  | .destroy runtime mutex => [.destroy runtime mutex]
  | .dropMutex mutex => [.dropMutex mutex]

end UserThreads
