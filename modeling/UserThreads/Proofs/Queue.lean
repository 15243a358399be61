import UserThreads.WaitQueue

/-!
Ordered queues and wait queues through their elements: what an operation puts in
or takes out, and what it leaves in place.
-/

namespace UserThreads

namespace OrderedQueue

variable {α ι : Type} [Aged α ι]

theorem isEmpty_iff {queue : OrderedQueue α} : queue.isEmpty = true ↔ queue.elements = [] :=
  List.isEmpty_iff

theorem elements_of_popFront {queue rest : OrderedQueue α} {first : α}
    (popped : queue.popFront? = some (first, rest)) : queue.elements = first :: rest.elements := by
  unfold popFront? at popped
  split at popped
  · contradiction
  · rename_i head tail shape
    cases popped
    exact shape

theorem elements_of_popFront_none {queue : OrderedQueue α}
    (popped : queue.popFront? = none) : queue.elements = [] := by
  unfold popFront? at popped
  split at popped
  · assumption
  · contradiction

omit [Aged α ι] in
theorem extract_perm {wanted : α → Bool} {elements others : List α} {found : α}
    (taken : extract? wanted elements = some (found, others)) :
    elements.Perm (found :: others) ∧ wanted found = true := by
  induction elements generalizing others with
  | nil => simp [extract?] at taken
  | cons first rest ih =>
      simp only [extract?] at taken
      split at taken
      · rename_i hit
        cases taken
        exact ⟨.refl _, hit⟩
      · obtain ⟨⟨deeper, remaining⟩, inner, same⟩ := Option.map_eq_some_iff.mp taken
        cases same
        obtain ⟨arranged, hit⟩ := ih inner
        exact ⟨(arranged.cons first).trans (.swap deeper first remaining), hit⟩

variable [DecidableEq ι]

theorem removeById_perm {queue rest : OrderedQueue α} {found : α} {id : ι}
    (taken : queue.removeById? id = some (found, rest)) :
    queue.elements.Perm (found :: rest.elements) ∧ Aged.id found = id := by
  obtain ⟨⟨inner, others⟩, extracted, same⟩ := Option.map_eq_some_iff.mp taken
  cases same
  obtain ⟨arranged, hit⟩ := extract_perm extracted
  exact ⟨arranged, of_decide_eq_true hit⟩

omit [Aged α ι] [DecidableEq ι] in
theorem extract_eq_none {wanted : α → Bool} {elements : List α} :
    extract? wanted elements = none ↔ ∀ element ∈ elements, wanted element = false := by
  induction elements with
  | nil => simp [extract?]
  | cons first rest ih =>
      cases hit : wanted first <;> simp [extract?, hit, ih]

theorem removeById_eq_none {queue : OrderedQueue α} {id : ι} :
    queue.removeById? id = none ↔ ∀ element ∈ queue.elements, Aged.id element ≠ id := by
  simp [removeById?, extract_eq_none]

end OrderedQueue

namespace WaitQueue

variable {κ ν : Type}

/-- The length kept beside the queue is right. -/
def Exact (queue : WaitQueue κ ν) : Prop := queue.length = queue.threads.elements.length

theorem exact_empty : (empty : WaitQueue κ ν).Exact := rfl

theorem exact_push (queue : WaitQueue κ ν) (block : Block κ ν) : (queue.push block).Exact := rfl

theorem exact_pop (queue : WaitQueue κ ν) : queue.pop.2.Exact := by
  unfold pop
  split <;> rfl

theorem isEmpty_iff {queue : WaitQueue κ ν} (exact : queue.Exact) :
    queue.isEmpty = true ↔ queue.threads.elements = [] := by
  rw [isEmpty, exact, beq_iff_eq, List.length_eq_zero_iff]

theorem elements_of_pop {queue rest : WaitQueue κ ν} {first : Block κ ν}
    (popped : queue.pop = (some first, rest)) :
    queue.threads.elements = first :: rest.threads.elements := by
  unfold pop at popped
  split at popped
  · cases popped
  · rename_i inner
    cases popped
    exact OrderedQueue.elements_of_popFront inner

theorem elements_of_pop_none {queue rest : WaitQueue κ ν} (popped : queue.pop = (none, rest)) :
    queue.threads.elements = [] ∧ rest.threads.elements = [] := by
  unfold pop at popped
  split at popped
  · rename_i inner
    cases popped
    have empty := OrderedQueue.elements_of_popFront_none inner
    exact ⟨empty, empty⟩
  · cases popped

theorem threads_of_pop_none {queue rest : WaitQueue κ ν} (popped : queue.pop = (none, rest)) :
    rest.threads = queue.threads := by
  unfold pop at popped
  split at popped <;> cases popped
  rfl

theorem eq_of_pop_none {queue rest : WaitQueue κ ν} (exact : queue.Exact)
    (popped : queue.pop = (none, rest)) : rest = queue := by
  unfold pop at popped
  split at popped
  · cases popped
    exact congrArg (WaitQueue.mk queue.threads) exact.symm
  · cases popped

theorem eq_empty {queue : WaitQueue κ ν} (exact : queue.Exact) (empty : queue.isEmpty = true) :
    queue = .empty := by
  have elements := (isEmpty_iff exact).mp empty
  obtain ⟨⟨threads⟩, length⟩ := queue
  cases elements
  exact congrArg (WaitQueue.mk ⟨[]⟩) exact

end WaitQueue

end UserThreads
