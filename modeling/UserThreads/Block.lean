import UserThreads.OrderedQueue
import UserThreads.Thread

/-!
Control blocks: what is kept of a thread while it is not the one that runs.
The context that a block saves (`κ`) and the values that threads leave behind
(`ν`) are left open.
-/

namespace UserThreads

structure Block (κ ν : Type) where
  id : ThreadId
  status : ThreadStatus
  /-- Scheduling rounds survived while not exiting. Lower runs sooner. -/
  age : Nat
  context : κ
  /-- Zero for the thread that runs on the stack it was born with. -/
  stackSize : UInt64
  /-- Whether the thread's entry has not been taken yet. -/
  unstarted : Bool
  value : Option ν
  deriving Repr

namespace Block

variable {κ ν : Type}

instance : Aged (Block κ ν) ThreadId := ⟨Block.age, Block.id⟩

/-- Ages are 64 bits wide. -/
def ageLimit : Nat := 18446744073709551616

/-- The block of the context that initializes a runtime. -/
def main (context : κ) : Block κ ν where
  id := .main
  status := .ready
  age := 0
  context := context
  stackSize := 0
  unstarted := false
  value := none

/-- The block of a thread that has not run. Its id is provisional until one is
issued to it. -/
def new (stackSize : UInt64) (context : κ) : Block κ ν where
  id := .main
  status := .ready
  age := 0
  context := context
  stackSize := stackSize
  unstarted := true
  value := none

/-- One more scheduling round survived, unless the age is at its limit. -/
def growOlder? (block : Block κ ν) : Option (Block κ ν) :=
  if block.age + 1 < ageLimit then some { block with age := block.age + 1 } else none

/-- Marks the thread completed with `value`, unless it has its value already. -/
def complete? (block : Block κ ν) (value : ν) : Option (Block κ ν) :=
  match block.value with
  | none => some { block with status := .completed, value := some value }
  | some _ => none

/-- Takes the entry, and says whether it was there to take. -/
def takeEntry (block : Block κ ν) : Bool × Block κ ν :=
  (block.unstarted, { block with unstarted := false })

def takeValue (block : Block κ ν) : Option ν × Block κ ν :=
  (block.value, { block with value := none })

def describe (block : Block κ ν) : String :=
  "ThreadControlBlock \x7b id: " ++ block.id.describe ++
    ", status: " ++ block.status.describe ++
    ", age: " ++ toString block.age ++
    ", stack_size: " ++ toString block.stackSize.toNat ++ " \x7d"

end Block

end UserThreads
