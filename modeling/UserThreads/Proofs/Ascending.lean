import UserThreads.Proofs.Queue

/-!
Lists in ascending order of age: where an element goes in, and what the stable sort makes
of a list that is given in order of insertion.
-/

namespace UserThreads.OrderedQueue

variable {α ι : Type} [Aged α ι] {element : α} {elements inside left right : List α}

/-- By age, the lowest first. -/
def Ascending (elements : List α) : Prop :=
  elements.Pairwise fun left right => Aged.age left ≤ Aged.age right

/-- The elements that are `age` rounds old, in their order. -/
def atAge (age : Nat) (elements : List α) : List α :=
  elements.filter fun element => Aged.age element == age

/-- The elements that go out before one of the age `age` which is put in now. -/
def ahead (age : Nat) (elements : List α) : List α :=
  elements.filter fun element => decide (Aged.age element ≤ age)

/-- The elements that go out after it. -/
def behind (age : Nat) (elements : List α) : List α :=
  elements.filter fun element => !decide (Aged.age element ≤ age)

/-- One element is not older than another. -/
def notOlder (left right : α) : Bool := decide (Aged.age left ≤ Aged.age right)

/-- The stable sort by age. -/
def byAge (elements : List α) : List α := elements.mergeSort notOlder

theorem atAge_cons (age : Nat) (first : α) (rest : List α) : atAge age (first :: rest) =
    if Aged.age first = age then first :: atAge age rest else atAge age rest := by
  simp only [atAge, List.filter_cons, beq_iff_eq]

section order

theorem ahead_append_behind (sorted : Ascending elements) (age : Nat) :
    ahead age elements ++ behind age elements = elements := by
  induction elements with
  | nil => rfl
  | cons first rest ih =>
      obtain ⟨leads, sorted⟩ := List.pairwise_cons.mp sorted
      by_cases early : Aged.age first ≤ age
      · simp only [ahead, behind, List.filter_cons, early, decide_true, if_true, Bool.not_true,
          List.cons_append] at ih ⊢
        exact congrArg (first :: ·) (ih sorted)
      · have nobody : ahead age rest = [] := by
          refine List.filter_eq_nil_iff.mpr fun other member young => early ?_
          exact Nat.le_trans (leads other member) (of_decide_eq_true young)
        have everybody := ih sorted
        rw [nobody, List.nil_append] at everybody
        simp only [ahead, behind, List.filter_cons, early, decide_false, Bool.not_false, if_true]
          at nobody everybody ⊢
        rw [nobody, everybody]
        rfl

theorem insertByAge_append (young : ∀ other ∈ left, Aged.age other ≤ Aged.age element)
    (old : ∀ other ∈ right, Aged.age element < Aged.age other) :
    insertByAge element (left ++ right) = left ++ element :: right := by
  induction left with
  | nil =>
      cases right with
      | nil => rfl
      | cons first rest =>
          have older := old first List.mem_cons_self
          simp only [List.nil_append, insertByAge, if_neg (Nat.not_le.mpr older)]
  | cons first rest ih =>
      obtain ⟨younger, others⟩ := List.forall_mem_cons.mp young
      simp only [List.cons_append, insertByAge, if_pos younger]
      rw [ih others]

/-- In order, an element goes in behind all that are not older and ahead of all that are. -/
theorem insertByAge_eq (sorted : Ascending elements) :
    insertByAge element elements =
      ahead (Aged.age element) elements ++ element :: behind (Aged.age element) elements := by
  have inserted : insertByAge element
      (ahead (Aged.age element) elements ++ behind (Aged.age element) elements) = _ :=
    insertByAge_append (fun other member => of_decide_eq_true (List.mem_filter.mp member).2)
      fun other member => by simpa using (List.mem_filter.mp member).2
  rwa [ahead_append_behind sorted] at inserted

theorem insertByAge_ahead {other : α} (old : Aged.age element < Aged.age other) :
    insertByAge element (left ++ other :: right) = insertByAge element left ++ other :: right := by
  induction left with
  | nil => simp only [List.nil_append, insertByAge, if_neg (Nat.not_le.mpr old), List.cons_append]
  | cons first rest ih =>
      simp only [List.cons_append, insertByAge]
      split
      · rw [ih, List.cons_append]
      · rfl

theorem insertByAge_behind (young : ∀ other ∈ left, Aged.age other ≤ Aged.age element) :
    insertByAge element (left ++ right) = left ++ insertByAge element right := by
  induction left with
  | nil => rfl
  | cons first rest ih =>
      obtain ⟨younger, others⟩ := List.forall_mem_cons.mp young
      simp only [List.cons_append, insertByAge, if_pos younger, ih others]

theorem ascending_insertByAge (sorted : Ascending elements) :
    Ascending (insertByAge element elements) := by
  induction elements with
  | nil => exact List.pairwise_singleton _ _
  | cons first rest ih =>
      obtain ⟨leads, others⟩ := List.pairwise_cons.mp sorted
      simp only [insertByAge]
      split
      · rename_i early
        refine List.pairwise_cons.mpr ⟨fun other member => ?_, ih others⟩
        rcases mem_insertByAge.mp member with rfl | member
        · exact early
        · exact leads other member
      · rename_i late
        refine List.pairwise_cons.mpr ⟨fun other member => ?_, sorted⟩
        rcases List.mem_cons.mp member with rfl | member
        · omega
        · have := leads other member
          omega

theorem atAge_insertByAge (sorted : Ascending elements) (age : Nat) :
    atAge age (insertByAge element elements) = atAge age (elements ++ [element]) := by
  rw [insertByAge_eq sorted]
  conv => rhs; rw [← ahead_append_behind sorted (Aged.age element)]
  by_cases same : Aged.age element = age
  · -- Nobody behind the element is as old as it is.
    have nobody : atAge age (behind (Aged.age element) elements) = [] := by
      refine List.filter_eq_nil_iff.mpr fun other member => ?_
      have older := (List.mem_filter.mp member).2
      simp only [Bool.not_eq_true', decide_eq_false_iff_not] at older
      simp only [beq_iff_eq]
      omega
    simp only [atAge, List.filter_append, List.filter_cons] at nobody ⊢
    rw [nobody]
    simp
  · simp [atAge, List.filter_append, same]

/-- An ascending list is known by the elements of each age in their order. -/
theorem Ascending.eq_of_atAge (sorted : Ascending left) (sorted' : Ascending right)
    (same : ∀ age, atAge age left = atAge age right) : left = right := by
  have nobody {first : α} {rest : List α} (sorted : Ascending (first :: rest)) {age : Nat}
      (young : age < Aged.age first) : atAge age (first :: rest) = [] := by
    refine List.filter_eq_nil_iff.mpr fun other member => ?_
    simp only [beq_iff_eq]
    rcases List.mem_cons.mp member with rfl | member
    · omega
    · have := (List.pairwise_cons.mp sorted).1 other member
      omega
  have leads (first : α) (rest : List α) :
      atAge (Aged.age first) (first :: rest) = first :: atAge (Aged.age first) rest := by
    rw [atAge_cons, if_pos rfl]
  induction left generalizing right with
  | nil =>
      cases right with
      | nil => rfl
      | cons first rest =>
          have missing := same (Aged.age first)
          rw [leads] at missing
          cases missing
  | cons first rest ih =>
      cases right with
      | nil =>
          have missing := same (Aged.age first)
          rw [leads] at missing
          cases missing
      | cons first' rest' =>
          have alike : Aged.age first = Aged.age first' := by
            rcases Nat.lt_trichotomy (Aged.age first) (Aged.age first') with less | alike | more
            · have missing := same (Aged.age first)
              rw [leads, nobody sorted' less] at missing
              cases missing
            · exact alike
            · have missing := same (Aged.age first')
              rw [leads, nobody sorted more] at missing
              cases missing
          have heads := same (Aged.age first)
          rw [leads, alike, leads] at heads
          obtain ⟨rfl, -⟩ := List.cons_eq_cons.mp heads
          refine congrArg (first :: ·) (ih (List.pairwise_cons.mp sorted).2
            (List.pairwise_cons.mp sorted').2 fun age => ?_)
          have rests := same age
          rw [atAge_cons, atAge_cons] at rests
          split at rests
          · exact (List.cons_eq_cons.mp rests).2
          · exact rests

theorem notOlder_trans (left middle right : α) (first : notOlder left middle = true)
    (second : notOlder middle right = true) : notOlder left right = true := by
  simp only [notOlder, decide_eq_true_eq] at first second ⊢
  exact Nat.le_trans first second

theorem notOlder_total (left right : α) :
    (notOlder left right || notOlder right left) = true := by
  simp only [notOlder, Bool.or_eq_true, decide_eq_true_eq]
  exact Nat.le_total _ _

theorem ascending_byAge (elements : List α) : Ascending (byAge elements) :=
  (List.pairwise_mergeSort notOlder_trans notOlder_total elements).imp of_decide_eq_true

theorem byAge_perm (elements : List α) : (byAge elements).Perm elements :=
  List.mergeSort_perm elements _

theorem atAge_byAge (elements : List α) (age : Nat) :
    atAge age (byAge elements) = atAge age elements := by
  have alike : (atAge age elements).Pairwise fun left right => notOlder left right = true := by
    refine List.pairwise_iff_forall_sublist.mpr fun {left right} pair => ?_
    have first : left ∈ atAge age elements := pair.subset (by simp)
    have second : right ∈ atAge age elements := pair.subset (by simp)
    simp only [atAge, List.mem_filter, beq_iff_eq] at first second
    exact decide_eq_true (by omega)
  have kept : (atAge age elements).Sublist (byAge elements) :=
    List.sublist_mergeSort notOlder_trans notOlder_total alike List.filter_sublist
  have inner : (atAge age elements).Sublist (atAge age (byAge elements)) := by
    have filtered := kept.filter fun element => Aged.age element == age
    rw [atAge, List.filter_filter] at filtered
    simpa only [atAge, Bool.and_self] using filtered
  exact (inner.eq_of_length ((byAge_perm elements).filter _).length_eq.symm).symm

theorem eq_byAge (sorted : Ascending elements)
    (same : ∀ age, atAge age elements = atAge age inside) : elements = byAge inside :=
  sorted.eq_of_atAge (ascending_byAge inside) fun age =>
    (same age).trans (atAge_byAge inside age).symm

end order

end UserThreads.OrderedQueue
