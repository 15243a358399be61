import UserThreads.Proofs.Ascending

/-!
Ordered queues as stable priority queues: whatever is asked of a queue, it holds what was
put in and not taken out yet, by age and equal ages in order of insertion.
-/

namespace UserThreads.OrderedQueue

/-- What is asked of a queue. -/
inductive Request (α ι : Type)
  | push (element : α)
  | popFront
  | removeById (id : ι)

variable {α ι : Type} [Aged α ι] [DecidableEq ι]

/-- What a request takes out of a queue, and the queue after it. -/
def serve (queue : OrderedQueue α) : Request α ι → Option α × OrderedQueue α
  | .push element => (none, queue.push element)
  | .popFront =>
      match queue.popFront? with
      | none => (none, queue)
      | some (first, rest) => (some first, rest)
  | .removeById id =>
      match queue.removeById? id with
      | none => (none, queue)
      | some (found, rest) => (some found, rest)

/-- The queue after the given requests, the newest of which is the first. -/
def served : List (Request α ι) → OrderedQueue α
  | [] => empty
  | request :: earlier => ((served earlier).serve request).2

/-- What the requests have put in, in this order. -/
def pushed : List (Request α ι) → List α
  | [] => []
  | .push element :: earlier => pushed earlier ++ [element]
  | .popFront :: earlier | .removeById _ :: earlier => pushed earlier

/-- What they have taken out. -/
def taken : List (Request α ι) → List α
  | [] => []
  | request :: earlier => taken earlier ++ ((served earlier).serve request).1.toList

/-- The wanted element of the lowest age, of equals the one that came in first. -/
def soonest? (wanted : α → Bool) (inside : List α) : Option α := (byAge inside).find? wanted

/-- What stays, in order of insertion, when this element goes. -/
def withoutSoonest (wanted : α → Bool) (inside : List α) : List α :=
  match soonest? wanted inside with
  | none => inside
  | some found => inside.eraseP fun element => wanted element && Aged.age element == Aged.age found

/-- The elements that a request may take out. -/
def Request.wants : Request α ι → α → Bool
  | .push _ => fun _ => false
  | .popFront => fun _ => true
  | .removeById id => fun element => decide (Aged.id element = id)

/-- What must be in the queue after the requests, in order of insertion. -/
def inside : List (Request α ι) → List α
  | [] => []
  | .push element :: earlier => inside earlier ++ [element]
  | request :: earlier => withoutSoonest request.wants (inside earlier)

/-- Taking out the first wanted element, if there is one, and leaving the others in order. -/
inductive Takes (wanted : α → Bool) (queue : OrderedQueue α) : Option α × OrderedQueue α → Prop
  | found {before after : List α} {element : α}
      (line : queue.elements = before ++ element :: after) (hit : wanted element = true)
      (others : ∀ other ∈ before, wanted other = false) :
      Takes wanted queue (some element, ⟨before ++ after⟩)
  | nothing (nobody : ∀ element ∈ queue.elements, wanted element = false) :
      Takes wanted queue (none, queue)

/-- Where an element of an ascending list begins not to be `early`, looked for by halving what
is left between `low` and `high`. -/
def bisect (early : α → Bool) (elements : List α) (low high : Nat) : Nat :=
  if low < high then
    let middle := (low + high) / 2
    if elements[middle]?.any early then bisect early elements (middle + 1) high
    else bisect early elements low middle
  else low
termination_by high - low

/-- Everything that the queue gives out until it is empty. -/
def drain (queue : OrderedQueue α) : List α :=
  match _ : queue.popFront? with
  | none => []
  | some (first, rest) => first :: drain rest
termination_by queue.elements.length
decreasing_by simp_all [elements_of_popFront ‹_›]

omit [DecidableEq ι] in
theorem drain_eq (queue : OrderedQueue α) : queue.drain = queue.elements := by
  fun_induction drain queue with
  | case1 queue empty => exact (elements_of_popFront_none empty).symm
  | case2 queue first rest popped ih => rw [ih, elements_of_popFront popped]

section bisection

omit [Aged α ι] [DecidableEq ι] in
/-- The search ends between the early elements and the others, if these stand apart. -/
theorem bisect_append {early : α → Bool} {front back : List α} {low high : Nat}
    (leads : ∀ element ∈ front, early element = true)
    (follows : ∀ element ∈ back, early element = false)
    (above : low ≤ front.length) (below : front.length ≤ high)
    (inside : high ≤ (front ++ back).length) :
    bisect early (front ++ back) low high = front.length := by
  fun_induction bisect early (front ++ back) low high with
  | case1 low high apart middle hit ih =>
      refine ih (Nat.lt_of_not_ge fun late => ?_) below inside
      have place : middle - front.length < back.length := by
        rw [List.length_append] at inside
        omega
      have found : (front ++ back)[middle]? = some back[middle - front.length] := by
        rw [List.getElem?_append_right (by omega), List.getElem?_eq_getElem place]
      rw [found, Option.any_some, follows _ (List.getElem_mem place)] at hit
      cases hit
  | case2 low high apart middle miss ih =>
      refine ih above (Nat.le_of_not_gt fun early' => ?_) (by omega)
      have found : (front ++ back)[middle]? = some front[middle] := by
        rw [List.getElem?_append_left early', List.getElem?_eq_getElem early']
      rw [found, Option.any_some, leads _ (List.getElem_mem early')] at miss
      exact miss rfl
  | case3 low high closed => omega

omit [Aged α ι] [DecidableEq ι] in
theorem insertIdx_append (front back : List α) (element : α) :
    (front ++ back).insertIdx front.length element = front ++ element :: back := by
  induction front with
  | nil => rfl
  | cons first rest ih => exact congrArg (first :: ·) ih

omit [DecidableEq ι] in
/-- In order, an element goes in where the search by halving ends. -/
theorem push_eq_insertIdx {queue : OrderedQueue α} (sorted : Ascending queue.elements)
    (element : α) :
    (queue.push element).elements = queue.elements.insertIdx
      (bisect (notOlder · element) queue.elements 0 queue.elements.length) element := by
  have split := ahead_append_behind sorted (Aged.age element)
  have place : bisect (notOlder · element) queue.elements 0 queue.elements.length =
      (ahead (Aged.age element) queue.elements).length := by
    conv => lhs; rw [← split]
    refine bisect_append (fun other member => (List.mem_filter.mp member).2)
      (fun other member => ?_)
      (Nat.zero_le _) (by simp) (Nat.le_refl _)
    simpa [notOlder] using (List.mem_filter.mp member).2
  rw [place, elements_push, insertByAge_eq sorted, ← insertIdx_append, split]

end bisection

section extraction

omit [Aged α ι] [DecidableEq ι] in
theorem extract_eq (wanted : α → Bool) (elements : List α) :
    extract? wanted elements =
      (elements.find? wanted).map fun found => (found, elements.eraseP wanted) := by
  induction elements with
  | nil => rfl
  | cons first rest ih =>
      cases hit : wanted first with
      | true => simp [extract?, hit]
      | false =>
          simp only [extract?, hit, List.find?_cons, List.eraseP_cons, cond_false, ih]
          cases rest.find? wanted <;> rfl

omit [DecidableEq ι] in
/-- Of the wanted elements the first one may be known by its age, too. -/
theorem eraseP_aged {wanted : α → Bool} {elements : List α} {found : α}
    (first : elements.find? wanted = some found) :
    elements.eraseP (fun element => wanted element && Aged.age element == Aged.age found) =
      elements.eraseP wanted := by
  induction elements with
  | nil => rfl
  | cons head rest ih =>
      cases hit : wanted head with
      | true =>
          rw [List.find?_cons, hit] at first
          cases first
          simp [hit]
      | false =>
          rw [List.find?_cons, hit] at first
          simp [hit, ih first]

omit [DecidableEq ι] in
theorem atAge_eraseP (wanted : α → Bool) (elements : List α) (gone age : Nat) :
    atAge age (elements.eraseP fun element => wanted element && Aged.age element == gone) =
      if age = gone then (atAge age elements).eraseP wanted else atAge age elements := by
  induction elements with
  | nil => split <;> rfl
  | cons head rest ih =>
      cases goes : wanted head && Aged.age head == gone with
      | true =>
          rw [List.eraseP_cons, goes, cond_true]
          simp only [Bool.and_eq_true, beq_iff_eq] at goes
          obtain ⟨hit, rfl⟩ := goes
          by_cases same : age = Aged.age head
          · rw [if_pos same, atAge_cons, if_pos same.symm, List.eraseP_cons_of_pos hit]
          · rw [if_neg same, atAge_cons, if_neg fun other => same other.symm]
      | false =>
          rw [List.eraseP_cons, goes, cond_false, atAge_cons, atAge_cons, ih]
          by_cases here : Aged.age head = age
          · have kept (same : age = gone) : ¬wanted head = true := by simp_all
            by_cases same : age = gone
            · rw [if_pos here, if_pos here, if_pos same, if_pos same,
                List.eraseP_cons_of_neg (kept same)]
            · rw [if_pos here, if_pos here, if_neg same, if_neg same]
          · rw [if_neg here, if_neg here]

omit [DecidableEq ι] in
/-- Whatever is taken out of an ascending queue is the same of the list in order of insertion,
and what stays is so, too. -/
theorem settled {wanted : α → Bool} {queue rest : OrderedQueue α} {inside : List α} {found : α}
    (sorted : Ascending queue.elements)
    (same : ∀ age, atAge age queue.elements = atAge age inside)
    (first : queue.elements.find? wanted = some found)
    (left : rest.elements = queue.elements.eraseP wanted) :
    Ascending rest.elements ∧
      ∀ age, atAge age rest.elements = atAge age (withoutSoonest wanted inside) := by
  refine ⟨left ▸ sorted.sublist List.eraseP_sublist, fun age => ?_⟩
  have soonest : soonest? wanted inside = some found := by
    rw [soonest?, ← eq_byAge sorted same, first]
  rw [left, ← eraseP_aged first, withoutSoonest, soonest]
  simp only [atAge_eraseP, same]

omit [DecidableEq ι] in
theorem Takes.erased {wanted : α → Bool} {queue rest : OrderedQueue α} {out : Option α}
    (takes : Takes wanted queue (out, rest)) :
    queue.elements.find? wanted = out ∧ rest.elements = queue.elements.eraseP wanted := by
  cases takes with
  | found line hit others =>
      refine ⟨List.find?_eq_some_iff_append.mpr ⟨hit, _, _, line, ?_⟩, ?_⟩
      · exact fun other member => by rw [others other member]; rfl
      · rw [line, List.eraseP_append_right _ fun other member => by simp [others other member],
          List.eraseP_cons_of_pos hit]
  | nothing nobody =>
      have missing (other : α) (member : other ∈ queue.elements) : ¬wanted other = true := by
        simp [nobody other member]
      exact ⟨List.find?_eq_none.mpr missing, (List.eraseP_of_forall_not missing).symm⟩

end extraction

section requests

omit [DecidableEq ι] [Aged α ι] in
theorem takes_first {wanted : α → Bool} {queue : OrderedQueue α} {found : α}
    (first : queue.elements.find? wanted = some found) :
    Takes wanted queue (some found, ⟨queue.elements.eraseP wanted⟩) := by
  obtain ⟨hit, before, after, line, others⟩ := List.find?_eq_some_iff_append.mp first
  have missing (other : α) (member : other ∈ before) : wanted other = false := by
    simpa using others other member
  rw [line, List.eraseP_append_right _ fun other member => by simp [missing other member],
    List.eraseP_cons_of_pos hit]
  exact .found line hit missing

theorem takes_popFront (queue : OrderedQueue α) :
    Takes (fun _ => true) queue (queue.serve (.popFront : Request α ι)) := by
  simp only [serve]
  split
  · rename_i empty
    refine .nothing fun element member => ?_
    rw [elements_of_popFront_none empty] at member
    cases member
  · rename_i first rest popped
    have line : queue.elements = [] ++ first :: rest.elements := elements_of_popFront popped
    exact .found line rfl nofun

theorem takes_removeById (queue : OrderedQueue α) (id : ι) :
    Takes (fun element => decide (Aged.id element = id)) queue (queue.serve (.removeById id)) := by
  simp only [serve]
  split
  · rename_i nobody
    exact .nothing fun element member =>
      decide_eq_false (removeById_eq_none.mp nobody element member)
  · rename_i found rest removed
    rw [removeById?, extract_eq] at removed
    obtain ⟨⟨element, others⟩, inner, same⟩ := Option.map_eq_some_iff.mp removed
    cases same
    obtain ⟨first, hit, same⟩ := Option.map_eq_some_iff.mp inner
    cases same
    exact takes_first hit

omit [DecidableEq ι] in
/-- What a request makes of an ascending queue that holds these elements, in order of
insertion. -/
theorem serve_settled {queue : OrderedQueue α} {inside : List α}
    (sorted : Ascending queue.elements)
    (same : ∀ age, atAge age queue.elements = atAge age inside) {wanted : α → Bool}
    {answer : Option α × OrderedQueue α} (takes : Takes wanted queue answer) :
    Ascending answer.2.elements ∧
      ∀ age, atAge age answer.2.elements = atAge age (withoutSoonest wanted inside) := by
  obtain ⟨first, left⟩ := takes.erased
  cases found : answer.1 with
  | some element => exact settled sorted same (first.trans found) left
  | none =>
      rw [found] at first
      have nothing : soonest? wanted inside = none := by
        rw [soonest?, ← eq_byAge sorted same, first]
      rw [left, List.eraseP_of_forall_not (List.find?_eq_none.mp first), withoutSoonest, nothing]
      exact ⟨sorted, same⟩

theorem served_settled (requests : List (Request α ι)) :
    Ascending (served requests).elements ∧
      ∀ age, atAge age (served requests).elements = atAge age (inside requests) := by
  induction requests with
  | nil => exact ⟨.nil, fun _ => rfl⟩
  | cons request earlier ih =>
      obtain ⟨sorted, same⟩ := ih
      cases request with
      | push element =>
          refine ⟨ascending_insertByAge sorted, fun age => (atAge_insertByAge sorted age).trans ?_⟩
          simp only [inside, atAge, List.filter_append] at same ⊢
          rw [same]
      | popFront => exact serve_settled sorted same (takes_popFront _)
      | removeById id => exact serve_settled sorted same (takes_removeById _ id)

omit [DecidableEq ι] in
theorem Takes.perm {wanted : α → Bool} {queue : OrderedQueue α}
    {answer : Option α × OrderedQueue α} (takes : Takes wanted queue answer) :
    (answer.1.toList ++ answer.2.elements).Perm queue.elements := by
  cases takes with
  | found line =>
      rw [line, Option.toList_some, List.singleton_append]
      exact List.perm_middle.symm
  | nothing => exact .refl _

theorem conserved (requests : List (Request α ι)) :
    (taken requests ++ (served requests).elements).Perm (pushed requests) := by
  induction requests with
  | nil => exact .refl _
  | cons request earlier ih =>
      have kept {wanted : α → Bool} {answer : Option α × OrderedQueue α}
          (takes : Takes wanted (served earlier) answer) :
          ((taken earlier ++ answer.1.toList) ++ answer.2.elements).Perm (pushed earlier) := by
        rw [List.append_assoc]
        exact (takes.perm.append_left _).trans ih
      cases request with
      | push element =>
          have inserted := insertByAge_perm element (served earlier).elements
          simp only [taken, serve, Option.toList_none, List.append_nil, served, pushed]
          calc taken earlier ++ insertByAge element (served earlier).elements
              _ |>.Perm (taken earlier ++ (element :: (served earlier).elements)) :=
                inserted.append_left _
              _ |>.Perm (element :: (taken earlier ++ (served earlier).elements)) :=
                List.perm_middle
              _ |>.Perm (element :: pushed earlier) := ih.cons element
              _ |>.Perm (pushed earlier ++ [element]) := (List.perm_append_singleton _ _).symm
      | popFront => exact kept (takes_popFront _)
      | removeById id => exact kept (takes_removeById _ id)

omit [DecidableEq ι] in
theorem withoutSoonest_sublist (wanted : α → Bool) (inside : List α) :
    (withoutSoonest wanted inside).Sublist inside := by
  unfold withoutSoonest
  split
  · exact .refl _
  · exact List.eraseP_sublist

theorem inside_sublist (requests : List (Request α ι)) :
    (inside requests).Sublist (pushed requests) := by
  induction requests with
  | nil => exact .slnil
  | cons request earlier ih =>
      cases request with
      | push element => exact ih.append (.refl _)
      | popFront | removeById => exact (withoutSoonest_sublist _ _).trans ih

/-- The queue that these requests leave is a stable priority queue. -/
structure Stable (requests : List (Request α ι)) : Prop where
  /-- What came in is in or was taken out, each element as often as it came in. -/
  conserved : (taken requests ++ (served requests).elements).Perm (pushed requests)
  remaining : (inside requests).Sublist (pushed requests)
  ascending : Ascending (served requests).elements
  alike : ∀ age, atAge age (served requests).elements = atAge age (inside requests)
  sorted : (served requests).elements = byAge (inside requests)
  /-- The place of a new element is the one that a search by halving comes to. -/
  placed : ∀ element, ((served requests).push element).elements =
    (served requests).elements.insertIdx (bisect (notOlder · element) (served requests).elements 0
      (served requests).length) element
  front : (served requests).front? = soonest? (fun _ => true) (inside requests)
  popped : Takes (fun _ => true) (served requests)
    ((served requests).serve (.popFront : Request α ι))
  removed : ∀ id, Takes (fun element => decide (Aged.id element = id)) (served requests)
    ((served requests).serve (.removeById id))
  length : (served requests).length = (inside requests).length
  isEmpty : (served requests).isEmpty = true ↔ inside requests = []
  contains : ∀ id, (served requests).contains id = true ↔
    ∃ element ∈ inside requests, Aged.id element = id
  drained : (served requests).drain = byAge (inside requests)

theorem inside_pushes (elements : List α) :
    inside (elements.map (.push : α → Request α ι)) = elements.reverse := by
  induction elements with
  | nil => rfl
  | cons element rest ih => simp only [List.map_cons, inside, ih, List.reverse_cons]

/-- Whatever is asked of an empty queue makes a stable priority queue of it, and what is only
put in comes out in the order of the stable sort. -/
theorem stable_served : (∀ requests : List (Request α ι), Stable requests) ∧
    ∀ elements : List α,
      (served (elements.reverse.map (.push : α → Request α ι))).drain = byAge elements := by
  have every (requests : List (Request α ι)) : Stable requests := by
    obtain ⟨ascending, alike⟩ := served_settled requests
    have sorted := eq_byAge ascending alike
    have rearranged : (served requests).elements.Perm (inside requests) :=
      sorted ▸ byAge_perm (inside requests)
    exact {
      conserved := conserved requests
      remaining := inside_sublist requests
      ascending
      alike
      sorted
      placed := push_eq_insertIdx ascending
      front := by
        rw [front?, soonest?, ← sorted]
        cases (served requests).elements <;> rfl
      popped := takes_popFront _
      removed := takes_removeById _
      length := rearranged.length_eq
      isEmpty := by
        rw [isEmpty_iff]
        exact ⟨fun empty => (empty ▸ rearranged).nil_eq.symm,
          fun empty => (empty ▸ rearranged).eq_nil⟩
      contains := fun id => by
        rw [contains, List.any_eq_true]
        simp only [rearranged.mem_iff, decide_eq_true_eq]
      drained := (drain_eq _).trans sorted }
  refine ⟨every, fun elements => ?_⟩
  rw [(every _).drained, inside_pushes, List.reverse_reverse]

end requests

end UserThreads.OrderedQueue
