import UserThreads.OrderedQueue

/-!
Sessions on an ordered queue: a list of operations, and the answer to each with
the queue as it then is.
-/

namespace UserThreads.Session.Queueing

structure Item where
  id : Int
  age : Nat
  deriving DecidableEq, Repr

instance : Aged Item Int := ⟨Item.age, Item.id⟩

inductive Operation
  | push (item : Item)
  | pop
  | front
  | remove (id : Int)
  | contains (id : Int)
  | length
  | isEmpty
  | drain
  deriving Repr

inductive Answer
  | nothing
  | item (found : Option Item)
  | number (length : Nat)
  | truth (holds : Bool)
  | items (drained : List Item)
  deriving DecidableEq, Repr

def apply (queue : OrderedQueue Item) : Operation → Answer × OrderedQueue Item
  | .push item => (.nothing, queue.push item)
  | .pop =>
      match queue.popFront? with
      | none => (.item none, queue)
      | some (first, rest) => (.item (some first), rest)
  | .front => (.item queue.front?, queue)
  | .remove id =>
      match queue.removeById? id with
      | none => (.item none, queue)
      | some (found, rest) => (.item (some found), rest)
  | .contains id => (.truth (queue.contains id), queue)
  | .length => (.number queue.length, queue)
  | .isEmpty => (.truth queue.isEmpty, queue)
  | .drain => (.items queue.elements, .empty)

/-- Does the operations in order, each with its answer and the queue after it. -/
def run (queue : OrderedQueue Item) : List Operation → List (Answer × OrderedQueue Item)
  | [] => []
  | operation :: rest =>
      let result := apply queue operation
      result :: run result.2 rest

end UserThreads.Session.Queueing
