import UserThreads.Log
import UserThreads.WaitQueue

/-!
Scheduling state and policy of a runtime.

The scheduler holds every control block that is not parked on a mutex: the
running one, the ready ones and the completed ones that wait to be joined. A
decision is a pure step that yields a `Switch`; carrying the switch out is left
to the machine.

Of all ready threads the one that has survived the fewest rounds runs next,
and equal ages run in the order in which they became ready.
-/

namespace UserThreads

structure Scheduler (κ ν : Type) where
  current : Block κ ν
  ready : OrderedQueue (Block κ ν)
  completed : OrderedQueue (Block κ ν)
  /-- The id that the next new thread gets. -/
  nextId : UInt32
  deriving Repr

/-- A decision to go from one thread to another, or to the same one again. -/
structure Switch where
  outgoing : ThreadId
  incoming : ThreadId
  deriving DecidableEq, Repr

structure Rotation (κ ν : Type) where
  scheduler : Scheduler κ ν
  /-- The wait queue given to the decision, if one was. -/
  waiting : Option (WaitQueue κ ν)
  switch : Option Switch
  event : Option LogEvent

namespace Scheduler

variable {κ ν : Type}

/-- A scheduler whose running thread is `main`, the holder of the first id. -/
def start (main : Block κ ν) : Scheduler κ ν where
  current := main
  ready := .empty
  completed := .empty
  nextId := main.id.number + 1

/-- Gives `block` the next id. At the limit no id is consumed. -/
def issueId (scheduler : Scheduler κ ν) (block : Block κ ν) (maxThreads : UInt32) :
    Except Cause (Block κ ν × Scheduler κ ν) :=
  if maxThreads ≤ scheduler.nextId then .error (.idsExhausted maxThreads)
  else .ok ({ block with id := ⟨scheduler.nextId⟩ },
    { scheduler with nextId := scheduler.nextId + 1 })

def makeReady (scheduler : Scheduler κ ν) (block : Block κ ν) : Scheduler κ ν :=
  { scheduler with ready := scheduler.ready.push { block with status := .ready } }

def reap? (scheduler : Scheduler κ ν) (id : ThreadId) : Option (Block κ ν × Scheduler κ ν) :=
  (scheduler.completed.removeById? id).map fun (block, completed) =>
    (block, { scheduler with completed })

def hasReady (scheduler : Scheduler κ ν) : Bool := !scheduler.ready.isEmpty

def isCompleted (scheduler : Scheduler κ ν) (id : ThreadId) : Bool :=
  scheduler.completed.contains id

/-- The running thread as a decision takes it out: a round older, unless it is
exiting. -/
def outgoing? (scheduler : Scheduler κ ν) : Option (Block κ ν) :=
  if scheduler.current.status = .completed then some scheduler.current
  else scheduler.current.growOlder?

/-- Seats the first ready thread in place of the outgoing one. -/
def seat (scheduler : Scheduler κ ν) (outgoing : ThreadId) (waiting : Option (WaitQueue κ ν)) :
    Except Fault (Rotation κ ν) :=
  match scheduler.ready.popFront? with
  | none => .error .readyDrained
  | some (incoming, ready) => .ok {
      scheduler := { scheduler with current := incoming, ready }
      waiting
      switch := some ⟨outgoing, incoming.id⟩
      event := some (.rotated outgoing incoming.id incoming.age) }

/-- Leaves the running thread where it is. If it is blocked, nobody is left to
wake it, so it is made ready to try again. -/
def stay (scheduler : Scheduler κ ν) (waiting : Option (WaitQueue κ ν)) : Rotation κ ν :=
  if scheduler.current.status = .blocked then {
    scheduler := { scheduler with current := { scheduler.current with status := .ready } }
    waiting
    switch := none
    event := some (.blockedAlone scheduler.current.id) }
  else { scheduler, waiting, switch := none, event := none }

/-- Makes one scheduling decision.

Nothing happens if no other thread is ready. Otherwise the running thread is
filed by its status, on the ready queue, on the completed queue or on `waiting`,
and the first ready thread becomes the running one, possibly the same one. -/
def rotate (scheduler : Scheduler κ ν) (waiting : Option (WaitQueue κ ν)) :
    Except Fault (Rotation κ ν) :=
  if scheduler.ready.isEmpty then .ok (scheduler.stay waiting)
  else match scheduler.outgoing? with
    | none => .error .ageOverflow
    | some outgoing =>
        match outgoing.status with
        | .ready =>
            seat { scheduler with ready := scheduler.ready.push outgoing } outgoing.id waiting
        | .completed =>
            seat { scheduler with completed := scheduler.completed.push outgoing } outgoing.id
              waiting
        | .blocked =>
            match waiting with
            | none => .error .nowhereToWait
            | some queue => seat scheduler outgoing.id (some (queue.push outgoing))

end Scheduler

end UserThreads
