import UserThreads.Scheduler

/-!
Sessions on a scheduler whose threads never run: a list of operations on the
scheduler, on wait queues and on control blocks that are kept in named slots.

A block's context here is nothing but the block's serial number, by which two
blocks with one id are told apart.
-/

namespace UserThreads.Session.Scheduling

/-- What an operation on a control block is about: the block in a slot, or the
running thread's. -/
abbrev Target := Option String

inductive Operation (ν : Type)
  /-- A new block gets an id and becomes ready. -/
  | spawn (age : Nat) (stack : UInt64) (maxThreads : UInt32)
  | new (slot : String) (age : Nat) (stack : UInt64)
  | issue (slot : String) (maxThreads : UInt32)
  | setId (target : Target) (id : ThreadId)
  | ready (slot : String)
  | park (slot : String) (wait : Nat)
  | unpark (slot : String) (wait : Nat)
  | wake (wait : Nat)
  | reap (id : ThreadId) (slot : String)
  | rotate (wait : Option Nat)
  | setStatus (target : Target) (status : ThreadStatus)
  | grow (target : Target) (rounds : Nat)
  | complete (target : Target) (value : ν)
  | takeValue (target : Target)
  | takeEntry (target : Target)
  | describe (target : Target)
  | isCompleted (id : ThreadId)
  | hasReady
  deriving Repr

inductive Answer (ν : Type)
  | nothing
  | id (thread : ThreadId)
  | failed (failure : Failure)
  | text (description : String)
  /-- A switch, and whether it goes from a block to the same block. -/
  | switch (decision : Switch) (same : Bool)
  | number (age : Nat)
  | value (taken : ν)
  | truth (holds : Bool)
  deriving Repr

/-- The scheduler and all that lies around it. -/
structure Bench (ν : Type) where
  scheduler : Scheduler Nat ν
  waits : Array (WaitQueue Nat ν)
  slots : List (String × Block Nat ν)
  serial : Nat

/-- What an operation did: its answer, the bench after it, and what was logged;
or the fault that stopped the process. -/
structure Effect (ν : Type) where
  result : Except Fault (Answer ν × Bench ν)
  events : List LogEvent

namespace Bench

variable {ν : Type}

def start (main : ThreadId) (waits : Nat) : Bench ν where
  scheduler := .start { Block.main 0 with id := main }
  waits := Array.replicate waits .empty
  slots := []
  serial := 1

def slot? (bench : Bench ν) (slot : String) : Option (Block Nat ν) := bench.slots.lookup slot

def emptySlot (bench : Bench ν) (slot : String) : Bench ν :=
  { bench with slots := bench.slots.filter fun entry => entry.1 ≠ slot }

def fillSlot (bench : Bench ν) (slot : String) (block : Block Nat ν) : Bench ν :=
  { bench with slots := (slot, block) :: (bench.emptySlot slot).slots }

def wait (bench : Bench ν) (index : Nat) : WaitQueue Nat ν := bench.waits.getD index .empty

def setWait (bench : Bench ν) (index : Nat) (queue : WaitQueue Nat ν) : Bench ν :=
  { bench with waits := bench.waits.setIfInBounds index queue }

def target? (bench : Bench ν) : Target → Option (Block Nat ν)
  | none => some bench.scheduler.current
  | some slot => bench.slot? slot

def setTarget (bench : Bench ν) (block : Block Nat ν) : Target → Bench ν
  | none => { bench with scheduler := { bench.scheduler with current := block } }
  | some slot => bench.fillSlot slot block

/-- A new block that has grown older `age` times. -/
def allocate (bench : Bench ν) (age : Nat) (stack : UInt64) : Block Nat ν × Bench ν :=
  ({ Block.new stack bench.serial with age }, { bench with serial := bench.serial + 1 })

/-- Grows a block older, round by round. -/
def growOlder? (block : Block Nat ν) : Nat → Option (Block Nat ν)
  | 0 => some block
  | rounds + 1 => block.growOlder?.bind fun older => growOlder? older rounds

def answer (bench : Bench ν) (reply : Answer ν) (events : List LogEvent) : Effect ν :=
  ⟨.ok (reply, bench), events⟩

/-- Answers with what `act` makes of the block in a slot, or with nothing. -/
def withSlot (bench : Bench ν) (slot : String) (act : Block Nat ν → Effect ν) : Effect ν :=
  match bench.slot? slot with
  | none => bench.answer .nothing []
  | some block => act block

def withTarget (bench : Bench ν) (target : Target) (act : Block Nat ν → Effect ν) : Effect ν :=
  match bench.target? target with
  | none => bench.answer .nothing []
  | some block => act block

def fault (reason : Fault) : Effect ν := ⟨.error reason, reason.event?.toList⟩

def apply (bench : Bench ν) : Operation ν → Effect ν
  | .spawn age stack maxThreads =>
      let (block, bench) := bench.allocate age stack
      match bench.scheduler.issueId block maxThreads with
      | .error cause =>
          bench.answer (.failed ⟨Failure.tryAgain, cause⟩) [.idsExhausted maxThreads]
      | .ok (block, scheduler) =>
          { bench with scheduler := scheduler.makeReady block }.answer (.id block.id) []
  | .new slot age stack =>
      let (block, bench) := bench.allocate age stack
      (bench.fillSlot slot block).answer (.text block.describe) []
  | .issue slot maxThreads =>
      bench.withSlot slot fun block =>
        match bench.scheduler.issueId block maxThreads with
        | .error cause =>
            bench.answer (.failed ⟨Failure.tryAgain, cause⟩) [.idsExhausted maxThreads]
        | .ok (block, scheduler) =>
            ({ bench with scheduler }.fillSlot slot block).answer (.id block.id) []
  | .setId target id =>
      bench.withTarget target fun block =>
        (bench.setTarget { block with id } target).answer .nothing []
  | .ready slot =>
      bench.withSlot slot fun block =>
        { bench.emptySlot slot with
          scheduler := bench.scheduler.makeReady block }.answer .nothing []
  | .park slot wait =>
      bench.withSlot slot fun block =>
        ((bench.emptySlot slot).setWait wait ((bench.wait wait).push block)).answer .nothing []
  | .unpark slot wait =>
      match (bench.wait wait).pop with
      | (none, _) => bench.answer .nothing []
      | (some block, queue) =>
          ((bench.setWait wait queue).fillSlot slot block).answer (.text block.describe) []
  | .wake wait =>
      match (bench.wait wait).pop with
      | (none, _) => bench.answer .nothing []
      | (some block, queue) =>
          { bench.setWait wait queue with
            scheduler := bench.scheduler.makeReady block }.answer (.id block.id) []
  | .reap id slot =>
      match bench.scheduler.reap? id with
      | none => bench.answer .nothing []
      | some (block, scheduler) =>
          ({ bench with scheduler }.fillSlot slot block).answer (.text block.describe) []
  | .rotate wait =>
      match bench.scheduler.rotate (wait.map bench.wait) with
      | .error reason => fault reason
      | .ok rotation =>
          let same := decide
            (rotation.scheduler.current.context = bench.scheduler.current.context)
          let bench := { bench with scheduler := rotation.scheduler }
          let bench := match wait, rotation.waiting with
            | some index, some queue => bench.setWait index queue
            | _, _ => bench
          bench.answer
            (match rotation.switch with
              | none => .nothing
              | some switch => .switch switch same)
            rotation.event.toList
  | .setStatus target status =>
      bench.withTarget target fun block =>
        (bench.setTarget { block with status } target).answer .nothing []
  | .grow target rounds =>
      bench.withTarget target fun block =>
        match growOlder? block rounds with
        | none => fault .ageOverflow
        | some block => (bench.setTarget block target).answer (.number block.age) []
  | .complete target value =>
      bench.withTarget target fun block =>
        match block.complete? value with
        | none => fault .completedTwice
        | some block => (bench.setTarget block target).answer .nothing []
  | .takeValue target =>
      bench.withTarget target fun block =>
        match block.takeValue with
        | (none, _) => bench.answer .nothing []
        | (some value, block) => (bench.setTarget block target).answer (.value value) []
  | .takeEntry target =>
      bench.withTarget target fun block =>
        let (unstarted, block) := block.takeEntry
        (bench.setTarget block target).answer (.truth unstarted) []
  | .describe target =>
      bench.withTarget target fun block => bench.answer (.text block.describe) []
  | .isCompleted id => bench.answer (.truth (bench.scheduler.isCompleted id)) []
  | .hasReady => bench.answer (.truth bench.scheduler.hasReady) []

end Bench

/-- One line of what a session shows: something logged, or the answer to an
operation with the bench after it. -/
inductive Line (ν : Type)
  | event (event : LogEvent)
  | step (answer : Answer ν) (bench : Bench ν)

/-- Does the operations in order, up to one that stops the process; tells
whether none did. -/
def run {ν : Type} (bench : Bench ν) : List (Operation ν) → Bool × List (Line ν)
  | [] => (true, [])
  | operation :: rest =>
      let effect := bench.apply operation
      let events := effect.events.map .event
      match effect.result with
      | .error _ => (false, events)
      | .ok (answer, bench) =>
          let (finished, lines) := run bench rest
          (finished, events ++ .step answer bench :: lines)

end UserThreads.Session.Scheduling
