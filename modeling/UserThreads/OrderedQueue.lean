/-!
Queues kept in ascending order of age.

A queue is seen through `elements`, the list of what it holds in the order in
which it comes out. An element goes in behind every element of the same or a
lower age, so equal ages come out in the order in which they went in.
-/

namespace UserThreads

/-- What can stand in an ordered queue: it has an age, by which it is ordered,
and an identifier, by which it is found again. -/
class Aged (α : Type) (ι : outParam Type) where
  age : α → Nat
  id : α → ι

structure OrderedQueue (α : Type) where
  elements : List α
  deriving Repr, DecidableEq

namespace OrderedQueue

variable {α ι : Type} [Aged α ι]

def empty : OrderedQueue α := ⟨[]⟩

instance : Inhabited (OrderedQueue α) := ⟨empty⟩

def isEmpty (queue : OrderedQueue α) : Bool := queue.elements.isEmpty

def length (queue : OrderedQueue α) : Nat := queue.elements.length

/-- Puts `element` behind the leading elements that are not older. -/
def insertByAge (element : α) : List α → List α
  | [] => [element]
  | first :: rest =>
      if Aged.age first ≤ Aged.age element then first :: insertByAge element rest
      else element :: first :: rest

/-- Puts `element` behind every element of the same or a lower age. -/
def push (queue : OrderedQueue α) (element : α) : OrderedQueue α :=
  ⟨insertByAge element queue.elements⟩

/-- The element with the lowest age, of equals the one that came first. -/
def front? (queue : OrderedQueue α) : Option α := queue.elements.head?

def popFront? (queue : OrderedQueue α) : Option (α × OrderedQueue α) :=
  match queue.elements with
  | [] => none
  | first :: rest => some (first, ⟨rest⟩)

/-- Takes the first element satisfying `wanted` out of a list. -/
def extract? (wanted : α → Bool) : List α → Option (α × List α)
  | [] => none
  | first :: rest =>
      if wanted first then some (first, rest)
      else (extract? wanted rest).map fun (found, others) => (found, first :: others)

variable [DecidableEq ι]

def removeById? (queue : OrderedQueue α) (id : ι) : Option (α × OrderedQueue α) :=
  (extract? (fun element => decide (Aged.id element = id)) queue.elements).map
    fun (found, others) => (found, ⟨others⟩)

def contains (queue : OrderedQueue α) (id : ι) : Bool :=
  queue.elements.any fun element => decide (Aged.id element = id)

omit [DecidableEq ι] in
@[simp] theorem elements_empty : (empty : OrderedQueue α).elements = [] := rfl

omit [DecidableEq ι] in
@[simp] theorem elements_push (queue : OrderedQueue α) (element : α) :
    (queue.push element).elements = insertByAge element queue.elements := rfl

omit [DecidableEq ι] in
theorem insertByAge_perm (element : α) (elements : List α) :
    (insertByAge element elements).Perm (element :: elements) := by
  induction elements with
  | nil => exact .refl _
  | cons first rest ih =>
      simp only [insertByAge]
      split
      · exact (ih.cons first).trans (.swap element first rest)
      · exact .refl _

omit [DecidableEq ι] in
@[simp] theorem length_insertByAge (element : α) (elements : List α) :
    (insertByAge element elements).length = elements.length + 1 :=
  (insertByAge_perm element elements).length_eq

omit [DecidableEq ι] in
@[simp] theorem mem_insertByAge {element other : α} {elements : List α} :
    other ∈ insertByAge element elements ↔ other = element ∨ other ∈ elements := by
  rw [(insertByAge_perm element elements).mem_iff, List.mem_cons]

omit [DecidableEq ι] in
theorem insertByAge_ne_nil (element : α) (elements : List α) :
    insertByAge element elements ≠ [] := by
  cases elements with
  | nil => simp [insertByAge]
  | cons first rest => simp only [insertByAge]; split <;> simp

end OrderedQueue

end UserThreads
