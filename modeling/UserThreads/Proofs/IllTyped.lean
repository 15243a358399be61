import UserThreads.Proofs.Resolving

/-!
Options whose value in the document is of another type than theirs. They are refused, but for
the values that are marked bad: these are passed over like options that are not given.
-/

namespace UserThreads.Config

open Yaml (Node)

/-- The entries of a section other than those of an option. -/
def without (key : Key) (entries : List (Node × Node)) : List (Node × Node) :=
  entries.filter fun entry => !entry.1.isText key.text

variable {environment : Environment} {documents : Option (List Node)} {config : Config}
  {entries : List (Node × Node)} {node : Node} {key other : Key}

theorem stored?_without_self (key : Key) (entries : List (Node × Node)) :
    (Node.mapping (without key entries)).stored? key.text = none := by
  simp [Node.stored?, without, List.findRev?_eq_find?_reverse]

theorem Key.text_inj (same : key.text = other.text) : key = other := by
  cases key <;> cases other <;> first | rfl | exact absurd same (by decide)

theorem stored?_without (apart : other ≠ key) (entries : List (Node × Node)) :
    (Node.mapping (without key entries)).stored? other.text =
      (Node.mapping entries).stored? other.text := by
  have apart_entry (entry : Node × Node) :
      (!entry.1.isText key.text) = true ∧ entry.1.isText other.text = true ↔
        entry.1.isText other.text = true := by
    refine and_iff_right_iff_imp.mpr fun named => ?_
    rw [Node.isText_iff] at named
    rw [Bool.not_eq_true', Bool.eq_false_iff, named]
    exact fun same => apart (Key.text_inj (Node.text.inj (Node.isText_iff.mp same)))
  simp only [Node.stored?, without, List.findRev?_eq_find?_reverse, ← List.filter_reverse,
    List.find?_filter, apart_entry, Bool.decide_eq_true]

/-- What an option comes to depends on what is noticed of it alone. -/
theorem Key.read_congr {options options' : Node}
    (same : key.noticed environment options' = key.noticed environment options) :
    key.read environment options' = key.read environment options := by
  have yields := Key.read_iff.mp (rfl : key.read environment options = _)
  rw [← same] at yields
  exact Key.read_iff.mpr yields

/-- An option that is marked bad might as well not be there. -/
theorem ofSection_without (unset : environment key.text.toUpper = none)
    (stored : (Node.mapping entries).stored? key.text = some .bad) :
    ofSection environment (.mapping entries) =
      ofSection environment (.mapping (without key entries)) := by
  have same (other : Key) : other.read environment (.mapping entries) =
      other.read environment (.mapping (without key entries)) := by
    refine Key.read_congr ?_
    by_cases apart : other = key
    · subst apart
      simp only [Key.noticed, Key.given, unset, stored, stored?_without_self]
    · simp only [Key.noticed, Key.given, stored?_without apart]
  rw [ofSection_eq, ofSection_eq, funext same]

/-- The failure of an option comes out, unless one that is read earlier has another. -/
theorem ofSection_refused {options : Node} {failure : Failure}
    (refuses : key.read environment options = .error failure) :
    ∃ before earlier after other, Key.all = before ++ earlier :: after ∧
      (earlier = key ∨ key ∈ after) ∧ earlier.read environment options = .error other ∧
        ofSection environment options = .error other := by
  have sectioned := ofSection_cases environment options
  generalize ofSection environment options = result at sectioned
  cases sectioned with
  | @refused before after earlier other order passed refuses' =>
      refine ⟨before, earlier, after, other, order, ?_, refuses', rfl⟩
      have member : key ∈ before ++ earlier :: after := order ▸ by cases key <;> decide
      rcases List.mem_append.mp member with member | member
      · obtain ⟨found, read⟩ := passed key member
        cases read.symm.trans refuses
      · exact (List.mem_cons.mp member).imp Eq.symm id
  | judged read => cases (read key).symm.trans refuses

/-- A value of another type than the option's is refused, unless an option that is read earlier
is. One that is marked bad is not: it leaves the option what it is without it. -/
theorem refuses_ill_typed (present : HasSection documents entries)
    (unset : environment key.text.toUpper = none)
    (stored : (Node.mapping entries).stored? key.text = some node)
    (ill : ¬key.Fits (.stored node)) :
    (node ≠ .bad → ∃ failure, ofDocuments environment documents = .error failure ∧
      (failure = ⟨Failure.invalid, .optionType key.text⟩ ∨
        ∃ before earlier after, Key.all = before ++ earlier :: after ∧ key ∈ after ∧
          earlier.Yields (earlier.noticed environment (.mapping entries)) (.error failure))) ∧
    (node = .bad → ofDocuments environment documents = ofDocuments environment
        (some [.mapping [(.text sectionName, .mapping (without key entries))]]) ∧
      ∀ config, ofDocuments environment documents = .ok config →
        config.setting key = standard.setting key) := by
  have given : key.given environment (.mapping entries) = .stored node := by
    simp only [Key.given, unset, stored]
  rw [present.ofDocuments_eq]
  refine ⟨fun sound => ?_, ?_⟩
  · have noticed : key.noticed environment (.mapping entries) = .stored node := by
      rw [Key.noticed, given]
      split
      · rename_i bad
        cases bad
        exact absurd rfl sound
      · rfl
    have refused := Key.read_of_yields (.storedType ill) noticed
    obtain ⟨before, earlier, after, failure, order, later, read, refuses⟩ :=
      ofSection_refused refused
    refine ⟨failure, refuses, ?_⟩
    rcases later with rfl | later
    · exact .inl (Except.error.inj (read.symm.trans refused))
    · exact .inr ⟨before, earlier, after, order, later, Key.read_iff.mp read⟩
  · rintro rfl
    have alone : HasSection
        (some [.mapping [(.text sectionName, .mapping (without key entries))]])
        (without key entries) := ⟨_, rfl, rfl⟩
    refine ⟨?_, fun config read => ?_⟩
    · rw [alone.ofDocuments_eq, ofSection_without unset stored]
    · have noticed : key.noticed environment (.mapping entries) = .nowhere := by
        rw [Key.noticed, given]
      have absent := Key.read_of_yields (.standard key) noticed
      exact Except.ok.inj (((ofSection_ok read).1 key).symm.trans absent)

/-- A document that says nothing but what preemption is. -/
def preempting (value : Node) : Option (List Node) :=
  some [.mapping [(.text "uthread", .mapping [(.text "preemption", value)])]]

theorem preempting_section (value : Node) :
    HasSection (preempting value) [(.text "preemption", value)] := ⟨_, rfl, rfl⟩

/-- `preemption: yes` is refused. With the tag of a truth value, which it does not fit, it is
marked bad, and leaves preemption as it is without it. -/
theorem refuses_ill_typed_preemption :
    (∃ failure, ofDocuments (fun _ => none) (preempting (.text "yes")) = .error failure) ∧
    ofDocuments (fun _ => none) (preempting .bad) = .ok standard := by
  let nowhere : Environment := fun _ => none
  have unset : nowhere Key.preemption.text.toUpper = none := rfl
  have stored (value : Node) :
      (Node.mapping [(.text "preemption", value)]).stored? Key.preemption.text = some value := rfl
  have text : ¬Key.preemption.Fits (.stored (.text "yes")) := by rintro ⟨_, ⟨⟩⟩
  have bad : ¬Key.preemption.Fits (.stored .bad) := by rintro ⟨_, ⟨⟩⟩
  constructor
  · obtain ⟨failure, refused, -⟩ :=
      (refuses_ill_typed (preempting_section (.text "yes")) unset (stored _) text).1 nofun
    exact ⟨failure, refused⟩
  · have ignored := (refuses_ill_typed (preempting_section .bad) unset (stored _) bad).2 rfl
    exact ignored.1.trans rfl

end UserThreads.Config
