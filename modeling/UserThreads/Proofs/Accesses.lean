import UserThreads.Machine.Step

/-!
Pieces of work, access by access. A scheduler is lent to whoever works on it, and so is a
wait queue; neither may be lent twice. While a scheduler is lent its seat can be empty: a
decision takes the running thread off it before the next one is seated.

What is lent twice, and a seat found empty, are faults of their own.
-/

namespace UserThreads

variable {n k : Nat} {C ν α : Type}

/-- A machine with a piece of work under way. -/
structure Underway (n k : Nat) (C ν : Type) where
  machine : Machine n k C ν
  /-- The runtimes whose scheduler is lent. -/
  lent : List (Fin n)
  /-- The runtimes whose scheduler has no running thread. -/
  vacant : List (Fin n)
  /-- The mutexes whose wait queue is lent. -/
  queues : List (Fin k)

/-- A scheduler that is lent, and whether its seat is taken. -/
structure Loan (κ ν : Type) where
  scheduler : Scheduler κ ν
  seated : Bool

abbrev Procedure (n k : Nat) (C ν : Type) := StateT (Underway n k C ν) (Except Fault)

/-- What is done while a scheduler is lent. -/
abbrev Tenure (n k : Nat) (C ν : Type) := StateT (Loan (Context n k C ν) ν) (Procedure n k C ν)

namespace Tenure

def onCurrent (work : Block (Context n k C ν) ν → α × Block (Context n k C ν) ν) :
    Tenure n k C ν α := do
  let loan ← get
  if loan.seated then
    let (result, current) := work loan.scheduler.current
    set { loan with scheduler := { loan.scheduler with current } }
    return result
  else throw .noRunningThread

def takeCurrent : Tenure n k C ν (Block (Context n k C ν) ν) := do
  let loan ← get
  if loan.seated then
    set { loan with seated := false }
    return loan.scheduler.current
  else throw .noRunningThread

def seat (current : Block (Context n k C ν) ν) : Tenure n k C ν Unit :=
  modify fun loan => ⟨{ loan.scheduler with current }, true⟩

def onReady (work : OrderedQueue (Block (Context n k C ν) ν) →
    α × OrderedQueue (Block (Context n k C ν) ν)) : Tenure n k C ν α :=
  modifyGet fun loan =>
    let (result, ready) := work loan.scheduler.ready
    (result, { loan with scheduler := { loan.scheduler with ready } })

def onCompleted (work : OrderedQueue (Block (Context n k C ν) ν) →
    α × OrderedQueue (Block (Context n k C ν) ν)) : Tenure n k C ν α :=
  modifyGet fun loan =>
    let (result, completed) := work loan.scheduler.completed
    (result, { loan with scheduler := { loan.scheduler with completed } })

end Tenure

namespace Procedure

def onMachine (work : Machine n k C ν → Machine n k C ν) : Procedure n k C ν Unit :=
  modify fun state => { state with machine := work state.machine }

/-- Lends the scheduler of a runtime, if it has one. -/
def tryWithScheduler (index : Fin n) (work : Tenure n k C ν α) : Procedure n k C ν (Option α) := do
  let state ← get
  if index ∈ state.lent then throw .schedulerReentered
  match (state.machine.runtime index).scheduler with
  | none => return none
  | some scheduler =>
      set { state with lent := index :: state.lent }
      let (result, loan) ← work.run ⟨scheduler, index ∉ state.vacant⟩
      modify fun state => { state with
        machine := state.machine.setScheduler index loan.scheduler
        lent := state.lent.erase index
        vacant := if loan.seated then state.vacant.erase index else index :: state.vacant }
      return some result

def withScheduler (index : Fin n) (work : Tenure n k C ν α) : Procedure n k C ν α := do
  match ← tryWithScheduler index work with
  | some result => return result
  | none => throw .notInitialized

def withQueue (mutex : Fin k) (work : WaitQueue (Context n k C ν) ν →
    α × WaitQueue (Context n k C ν) ν) : Procedure n k C ν α := do
  let state ← get
  if mutex ∈ state.queues then throw .queueReentered
  set { state with queues := mutex :: state.queues }
  let cells := state.machine.cells mutex
  let (result, waiters) := work cells.waiters
  onMachine fun machine => machine.setMutex mutex { cells with waiters }
  modify fun state => { state with queues := state.queues.erase mutex }
  return result

end Procedure

namespace Tenure

def report (event : LogEvent) : Tenure n k C ν Unit :=
  liftM (Procedure.onMachine fun machine => machine.report event : Procedure n k C ν Unit)

/-- Leaves the running thread where it is; if it is blocked it is made ready. -/
def stay : Tenure n k C ν Unit := do
  let status ← onCurrent fun block => (block.status, block)
  if status = .blocked then
    report (.blockedAlone (← onCurrent fun block => (block.id, block)))
    onCurrent fun block => ((), { block with status := .ready })

/-- Files the outgoing thread by its status. -/
def file (parking : Option (Fin k)) (outgoing : Block (Context n k C ν) ν) :
    Tenure n k C ν Unit :=
  match outgoing.status with
  | .ready => onReady fun ready => ((), ready.push outgoing)
  | .completed => onCompleted fun completed => ((), completed.push outgoing)
  | .blocked =>
      match parking with
      | none => throw .nowhereToWait
      | some mutex => Procedure.withQueue mutex fun waiters => ((), waiters.push outgoing)

/-- One more round survived, unless the thread is exiting. -/
def growOlder (outgoing : Block (Context n k C ν) ν) :
    Tenure n k C ν (Block (Context n k C ν) ν) :=
  if outgoing.status = .completed then return outgoing
  else match outgoing.growOlder? with
    | some older => return older
    | none => throw .ageOverflow

def seatNext (outgoing : ThreadId) : Tenure n k C ν (Option Switch) := do
  let first ← onReady fun ready =>
    match ready.popFront? with
    | some (first, ready) => (some first, ready)
    | none => (none, ready)
  match first with
  | none => throw .readyDrained
  | some incoming =>
      report (.rotated outgoing incoming.id incoming.age)
      seat incoming
      return some ⟨outgoing, incoming.id⟩

def rotate (parking : Option (Fin k)) : Tenure n k C ν (Option Switch) := do
  if (← get).scheduler.ready.isEmpty then
    stay
    return none
  else
    let outgoing ← growOlder (← takeCurrent)
    file parking outgoing
    seatNext outgoing.id

/-- Makes a decision that leaves the running thread at `context`. -/
def decide (context : Context n k C ν) (parking : Option (Fin k)) :
    Tenure n k C ν (Option Switch) := do
  onCurrent fun block => ((), { block with context })
  rotate parking

end Tenure

/-- Makes the block of a new thread ready with the next id. -/
def Tenure.issue (config : Config) (entry : C) : Tenure n k C ν (Except Cause ThreadId) := do
  let loan ← get
  let block := .new config.stackSize ⟨[.begin], entry⟩
  match loan.scheduler.issueId block config.maxThreads with
  | .error cause =>
      report (.idsExhausted config.maxThreads)
      return .error cause
  | .ok (block, scheduler) =>
      set { loan with scheduler := scheduler.makeReady block }
      report (.threadCreated block.id)
      return .ok block.id

def Tenure.takeCompleted (thread : ThreadId) :
    Tenure n k C ν (Option (Block (Context n k C ν) ν)) :=
  onCompleted fun completed =>
    match completed.removeById? thread with
    | some (block, completed) => (some block, completed)
    | none => (none, completed)

/-- Completes the running thread, and says whether another one is ready. -/
def Tenure.complete (value : ν) : Tenure n k C ν Bool := do
  let completed ← onCurrent fun block =>
    match block.complete? value with
    | some completed => (true, completed)
    | none => (false, block)
  unless completed do throw .completedTwice
  return (← get).scheduler.hasReady

namespace Procedure

def push (actions : List (Action n k C ν)) : Procedure n k C ν Unit :=
  onMachine fun machine => machine.push actions

def finishWith (index : Fin n) (answer : Reply ν) : Procedure n k C ν Unit :=
  onMachine fun machine => machine.finishWith index answer

/-- Carries a piece of work out that uses nothing which could be lent. -/
def alone (action : Action n k C ν) : Procedure n k C ν Unit := do
  let state ← get
  let machine := state.machine.perform action
  match machine.outcome with
  | some (.aborted fault) => throw fault
  | _ => set { state with machine }

def arm (index : Fin n) : Procedure n k C ν Unit := do
  let runtime := (← get).machine.runtime index
  match runtime.gate.arm runtime.config.timerInterval with
  | .error failure => throw (.gate failure)
  | .ok gate => onMachine fun machine => machine.setGate index gate

/-- Goes on where the thread was put aside that is seated now. -/
def resume (index : Fin n) : Procedure n k C ν Unit :=
  onMachine fun machine =>
    match (machine.runtime index).scheduler with
    | none => machine
    | some scheduler => machine.resume scheduler

def switchOver (index : Fin n) (switch : Switch) : Procedure n k C ν Unit := do
  onMachine fun machine =>
    machine.setRuntime index { machine.runtime index with current := switch.incoming }
  arm index
  if switch.outgoing ≠ switch.incoming then resume index

def schedule (index : Fin n) (parking : Option (Fin k)) : Procedure n k C ν Unit := do
  let machine := (← get).machine
  let decided ← tryWithScheduler index (Tenure.decide ⟨machine.todo, machine.code⟩ parking)
  match decided.join with
  | none => return
  | some switch => switchOver index switch

def isInitialized (index : Fin n) : Procedure n k C ν Bool := do
  let state ← get
  if index ∈ state.lent then throw .schedulerReentered
  return (state.machine.runtime index).scheduler.isSome

def begin : Procedure n k C ν Unit := do
  match (← get).machine.active with
  | none => throw .noActiveRuntime
  | some index =>
      let unstarted ← withScheduler index (Tenure.onCurrent Block.takeEntry)
      push [.reopen index, .enter index unstarted]

def enroll (index : Fin n) (entry : C) : Procedure n k C ν Unit := do
  if ← isInitialized index then push [.issue index entry]
  else alone (.enroll index entry)

def issue (index : Fin n) (entry : C) : Procedure n k C ν Unit := do
  let config := ((← get).machine.runtime index).config
  match ← withScheduler index (Tenure.issue config entry) with
  | .error cause => finishWith index (.failed ⟨Failure.tryAgain, cause⟩)
  | .ok thread => finishWith index (.id thread)

def reap? (index : Fin n) (thread : ThreadId) :
    Procedure n k C ν (Option (Block (Context n k C ν) ν)) := do
  return (← tryWithScheduler index (Tenure.takeCompleted thread)).join

def reclaim (block : Block (Context n k C ν) ν) : Procedure n k C ν ν :=
  match block.value with
  | some value => return value
  | none => throw .noReturnValue

def tryReaping (index : Fin n) (thread : ThreadId) : Procedure n k C ν Unit := do
  match ← reap? index thread with
  | none => push [.schedule index none, .reopen index, .close index, .reap index thread]
  | some block =>
      let value ← reclaim block
      onMachine fun machine => machine.report (.threadJoined thread)
      finishWith index (.value value)

def reapOnce (index : Fin n) (thread : ThreadId) : Procedure n k C ν Unit := do
  match ← reap? index thread with
  | none => finishWith index (.failed ⟨Failure.tryAgain, .notCompleted⟩)
  | some block =>
      onMachine fun machine => machine.report (.threadTaken thread)
      let value ← reclaim block
      finishWith index (.value value)

/-- Counts the threads on a queue of a scheduler; none if there is no scheduler. -/
def count (index : Fin n) (queue : Scheduler (Context n k C ν) ν →
    OrderedQueue (Block (Context n k C ν) ν)) : Procedure n k C ν Unit := do
  let counted ← tryWithScheduler index do return (queue (← get).scheduler).length
  finishWith index (.count (counted.getD 0))

def finish (index : Fin n) (value : ν) : Procedure n k C ν Unit := do
  let thread := ((← get).machine.runtime index).current
  let others ← tryWithScheduler index (Tenure.complete value)
  if others.getD false then
    onMachine fun machine => machine.report (.threadCompleted thread)
    push [.schedule index none, .resumed]
  else onMachine fun machine => machine.exitProcess index

def wake (index : Fin n) (block : Block (Context n k C ν) ν) : Procedure n k C ν Unit := do
  onMachine fun machine => machine.report (.threadWoken block.id)
  withScheduler index <| modify fun loan =>
    { loan with scheduler := loan.scheduler.makeReady block }

def blockCurrent (index : Fin n) : Procedure n k C ν Unit :=
  withScheduler index <| Tenure.onCurrent fun block => ((), { block with status := .blocked })

def claimAgain (index : Fin n) (mutex : Fin k) (me : ThreadId) : Procedure n k C ν Unit := do
  let (free, cells) := ((← get).machine.cells mutex).claim
  onMachine fun machine => machine.setMutex mutex cells
  if free then push [.reopen index, .acquire mutex me]
  else
    onMachine fun machine => machine.report (.lockBlocks me)
    blockCurrent index
    push [.schedule index (some mutex), .reopen index, .woken index mutex me]

def handOn (index : Fin n) (mutex : Fin k) : Procedure n k C ν Unit := do
  match ← withQueue mutex WaitQueue.pop with
  | none => finishWith index .done
  | some waiter =>
      wake index waiter
      finishWith index .done

def wakeAll (index : Fin n) (mutex : Fin k) : Procedure n k C ν Unit := do
  match ← withQueue mutex WaitQueue.pop with
  | some waiter =>
      wake index waiter
      push [.wakeAll index mutex]
  | none =>
      let thread := ((← get).machine.runtime index).current
      onMachine fun machine => machine.report (.mutexDestroyed thread)
      finishWith index .done

/-- Carries a piece of work out, access by access. -/
def carryOut : Action n k C ν → Procedure n k C ν Unit
  | .schedule index parking => schedule index parking
  | .begin => begin
  | .enroll index entry => enroll index entry
  | .issue index entry => issue index entry
  | .reap index thread => tryReaping index thread
  | .tryReap index thread => reapOnce index thread
  | .countReady index => count index Scheduler.ready
  | .countCompleted index => count index Scheduler.completed
  | .finish index value => finish index value
  | .claimAgain index mutex me => claimAgain index mutex me
  | .handOn index mutex => handOn index mutex
  | .wakeAll index mutex => wakeAll index mutex
  | action => alone action

end Procedure

end UserThreads
