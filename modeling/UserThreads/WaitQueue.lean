import UserThreads.Block

/-!
Threads parked on a mutex. The length is kept beside the queue, so that it can
be looked at without closing the gate.
-/

namespace UserThreads

structure WaitQueue (κ ν : Type) where
  threads : OrderedQueue (Block κ ν)
  length : Nat
  deriving Repr

namespace WaitQueue

variable {κ ν : Type}

def empty : WaitQueue κ ν := ⟨.empty, 0⟩

instance : Inhabited (WaitQueue κ ν) := ⟨empty⟩

def isEmpty (queue : WaitQueue κ ν) : Bool := queue.length == 0

def push (queue : WaitQueue κ ν) (block : Block κ ν) : WaitQueue κ ν :=
  let threads := queue.threads.push block
  ⟨threads, threads.length⟩

def pop (queue : WaitQueue κ ν) : Option (Block κ ν) × WaitQueue κ ν :=
  match queue.threads.popFront? with
  | none => (none, ⟨queue.threads, queue.threads.length⟩)
  | some (first, rest) => (some first, ⟨rest, rest.length⟩)

end WaitQueue

end UserThreads
