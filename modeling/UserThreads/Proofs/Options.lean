import UserThreads.Config.Document

/-!
What single options of the settings come to. A variable of the environment goes before the
section of the document, an option that neither of them gives keeps its standard value, and
what is given must be of the option's type and, if it is a number, within its range.
-/

namespace UserThreads

namespace Yaml.Number

/-- The integer that a text writes: decimal digits, at least one, after a sign or none. -/
inductive Writes : List Char → Int → Prop
  | plain {digits : List Char} (nonempty : digits ≠ [])
      (decimal : digits.all Char.isDigit = true) :
      Writes digits (Nat.ofDigitChars 10 digits 0)
  | positive {digits : List Char} (nonempty : digits ≠ [])
      (decimal : digits.all Char.isDigit = true) :
      Writes ('+' :: digits) (Nat.ofDigitChars 10 digits 0)
  | negative {digits : List Char} (nonempty : digits ≠ [])
      (decimal : digits.all Char.isDigit = true) :
      Writes ('-' :: digits) (-Nat.ofDigitChars 10 digits 0)

variable {text digits : List Char}

theorem digit?_ten (c : Char) :
    digit? 10 c = if c.isDigit = true then some (c.toNat - '0'.toNat) else none := by
  have bounds : c.isDigit = true → c.toNat - '0'.toNat < 10 := by
    simp only [Char.isDigit, Bool.and_eq_true, decide_eq_true_eq, Char.toNat, ge_iff_le,
      UInt32.le_iff_toNat_le]
    change 48 ≤ c.val.toNat ∧ c.val.toNat ≤ 57 → c.val.toNat - 48 < 10
    omega
  unfold digit?
  split
  · rename_i decimal
    exact Option.filter_eq_some_iff.mpr ⟨rfl, by simpa using bounds decimal⟩
  · -- letters stand for ten and more
    split
    · exact Option.filter_eq_none_iff.mpr (by rintro _ ⟨⟩; simp)
    · split
      · exact Option.filter_eq_none_iff.mpr (by rintro _ ⟨⟩; simp)
      · rfl

theorem foldlM_digits (digits : List Char) (number : Nat) :
    digits.foldlM (fun number c => (digit? 10 c).map (number * 10 + ·)) number =
      if digits.all Char.isDigit = true then some (Nat.ofDigitChars 10 digits number)
      else none := by
  induction digits generalizing number with
  | nil => rfl
  | cons c digits ih =>
      rw [List.foldlM_cons, digit?_ten, List.all_cons]
      cases c.isDigit with
      | false => rfl
      | true =>
          rw [Bool.true_and, Nat.ofDigitChars_cons, Nat.mul_comm 10 number]
          exact ih _

theorem natural?_ten {number : Nat} : natural? 10 digits = some number ↔
    digits ≠ [] ∧ digits.all Char.isDigit = true ∧ Nat.ofDigitChars 10 digits 0 = number := by
  unfold natural?
  rw [foldlM_digits]
  cases digits with
  | nil => simp
  | cons c digits => simp

theorem integer?_ten {value : Int} : integer? 10 text = some value ↔ Writes text value := by
  constructor
  · intro read
    unfold integer? at read
    split at read
    · obtain ⟨_, negated, rfl⟩ := Option.map_eq_some_iff.mp read
      obtain ⟨number, found, ⟨⟩⟩ := Option.bind_eq_some_iff.mp negated
      obtain ⟨nonempty, decimal, rfl⟩ := natural?_ten.mp found
      exact .negative nonempty decimal
    · obtain ⟨number, found, rfl⟩ := Option.map_eq_some_iff.mp read
      obtain ⟨nonempty, decimal, rfl⟩ := natural?_ten.mp found
      exact .positive nonempty decimal
    · obtain ⟨number, found, rfl⟩ := Option.map_eq_some_iff.mp read
      obtain ⟨nonempty, decimal, rfl⟩ := natural?_ten.mp found
      exact .plain nonempty decimal
  · intro writes
    cases writes with
    | negative nonempty decimal =>
        have found := natural?_ten.mpr ⟨nonempty, decimal, rfl⟩
        simp only [integer?, found]
        rfl
    | positive nonempty decimal =>
        have found := natural?_ten.mpr ⟨nonempty, decimal, rfl⟩
        simp only [integer?, found]
        rfl
    | plain nonempty decimal =>
        have found := natural?_ten.mpr ⟨nonempty, decimal, rfl⟩
        unfold integer?
        split
        · cases decimal
        · cases decimal
        · rw [found]
          rfl

theorem int64?_ten {value : Int64} : int64? 10 text = some value ↔ Writes text value.toInt := by
  unfold int64?
  rw [Option.bind_eq_some_iff]
  constructor
  · rintro ⟨number, read, held⟩
    split at held
    · rename_i fits
      cases held
      have below : number < 2 ^ 63 := Int.lt_of_le_of_lt fits.2 (by decide)
      rw [Int64.toInt_ofInt_of_le fits.1 below]
      exact integer?_ten.mp read
    · cases held
  · intro writes
    refine ⟨value.toInt, integer?_ten.mpr writes, ?_⟩
    rw [if_pos ⟨value.minValue_le_toInt, value.toInt_le⟩, Int64.ofInt_toInt]

end Yaml.Number

namespace Yaml.Node

variable {entries : List (Node × Node)} {node value : Node} {name : String}

/-- No value in it is marked bad. -/
inductive Sound : Node → Prop
  | null : Sound null
  | boolean (value : Bool) : Sound (boolean value)
  | integer (value : Int64) : Sound (integer value)
  | real (written : String) : Sound (real written)
  | text (written : String) : Sound (text written)
  | sequence {items : List Node} (sound : ∀ item ∈ items, item.Sound) : Sound (sequence items)
  | mapping {entries : List (Node × Node)} (keys : ∀ entry ∈ entries, Sound entry.1)
      (values : ∀ entry ∈ entries, Sound entry.2) : Sound (mapping entries)

/-- The value that a mapping holds under a text. The last entry of a key counts. -/
def stored? (node : Node) (name : String) : Option Node :=
  match node with
  | mapping entries => (entries.findRev? fun entry => entry.1.isText name).map Prod.snd
  | _ => none

theorem isText_iff : node.isText name = true ↔ node = .text name := by
  cases node <;> simp [isText]

theorem stored?_mapping : (mapping entries).stored? name = some value ↔
    ∃ before after, entries = before ++ (text name, value) :: after ∧
      ∀ entry ∈ after, entry.1 ≠ text name := by
  simp only [stored?, List.findRev?_eq_find?_reverse, Option.map_eq_some_iff,
    List.find?_eq_some_iff_append, isText_iff, Bool.not_eq_true']
  constructor
  · rintro ⟨⟨key, value⟩, ⟨rfl, after, before, line, later⟩, rfl⟩
    refine ⟨before.reverse, after.reverse, ?_, fun entry member same => ?_⟩
    · rw [← List.reverse_reverse entries, line]
      simp
    · have named := later entry (List.mem_reverse.mp member)
      rw [isText_iff.mpr same] at named
      cases named
  · rintro ⟨before, after, rfl, later⟩
    refine ⟨(text name, value), ⟨rfl, after.reverse, before.reverse, by simp,
      fun entry member => ?_⟩, rfl⟩
    have other := later entry (List.mem_reverse.mp member)
    exact Bool.eq_false_iff.mpr (mt isText_iff.mp other)

theorem get_eq (node : Node) (name : String) : node.get name = (node.stored? name).getD bad := by
  cases node with
  | mapping entries =>
      simp only [get, stored?]
      cases entries.findRev? fun entry => entry.1.isText name <;> rfl
  | _ => rfl

theorem Sound.stored (sound : node.Sound) (stored : node.stored? name = some value) :
    value.Sound := by
  cases sound with
  | mapping keys values =>
      obtain ⟨before, after, rfl, -⟩ := stored?_mapping.mp stored
      exact values (.text name, value) (by simp)
  | _ => cases stored

theorem Sound.ne_bad (sound : node.Sound) : node ≠ bad := by
  rintro rfl
  cases sound

end Yaml.Node

namespace Config

open Yaml (Node)

namespace Key

/-- The options in the order in which they are read. -/
def all : List Key := [timerInterval, stackSize, maxThreads, preemption]

theorem environmentName_eq (key : Key) : key.environmentName = key.text.toUpper := by
  cases key <;> exact String.toList_inj.mp ((String.toList_map ..).trans (by decide)).symm

/-- The numbers that an option can hold are those below its bound; preemption is no number. -/
def bound? : Key → Option Nat
  | timerInterval | stackSize => some UInt64.size
  | maxThreads => some UInt32.size
  | preemption => none

end Key

/-- What an option is given as. -/
inductive Given
  /-- The text of its variable in the environment. -/
  | exported (text : String)
  /-- The value in the section of the document. -/
  | stored (node : Node)
  | nowhere

namespace Given

inductive Integer : Given → Int64 → Prop
  | exported {text : String} {value : Int64}
      (writes : Yaml.Number.Writes text.toList value.toInt) : Integer (.exported text) value
  | stored (value : Int64) : Integer (.stored (.integer value)) value

inductive Boolean : Given → Bool → Prop
  | exported (enabled : Bool) : Boolean (.exported (toString enabled)) enabled
  | stored (enabled : Bool) : Boolean (.stored (.boolean enabled)) enabled

variable {text : String} {node : Node} {value : Int64} {enabled : Bool}

theorem integer_exported : (exported text).Integer value ↔ integerOfText text = some value := by
  rw [integerOfText, Yaml.Number.int64?_ten]
  exact ⟨fun | .exported writes => writes, .exported⟩

theorem integer_stored : (stored node).Integer value ↔ integerOfNode node = some value := by
  constructor
  · rintro ⟨⟩
    rfl
  · intro read
    unfold integerOfNode at read
    split at read <;> cases read
    exact .stored value

theorem boolean_exported : (exported text).Boolean enabled ↔ booleanOfText text = some enabled := by
  constructor
  · rintro ⟨⟩
    cases enabled <;> rfl
  · intro read
    unfold booleanOfText at read
    split at read <;> cases read
    · exact .exported true
    · exact .exported false

theorem boolean_stored : (stored node).Boolean enabled ↔ booleanOfNode node = some enabled := by
  constructor
  · rintro ⟨⟩
    rfl
  · intro read
    unfold booleanOfNode at read
    split at read <;> cases read
    exact .stored enabled

end Given

def setting (config : Config) : Key → Setting
  | .timerInterval => .timerInterval config.timerInterval
  | .stackSize => .stackSize config.stackSize
  | .maxThreads => .maxThreads config.maxThreads
  | .preemption => .preemption config.preemption

namespace Key

/-- The environment goes before the document. -/
def given (environment : Environment) (options : Node) (key : Key) : Given :=
  match environment key.text.toUpper, options.stored? key.text with
  | some text, _ => .exported text
  | none, some node => .stored node
  | none, none => .nowhere

/-- The same, but what is marked bad in the document is passed over. -/
def noticed (environment : Environment) (options : Node) (key : Key) : Given :=
  match key.given environment options with
  | .stored .bad => .nowhere
  | given => given

/-- What is given is of the type of the option. -/
def Fits (key : Key) (given : Given) : Prop :=
  match key with
  | .preemption => ∃ enabled, given.Boolean enabled
  | _ => ∃ value, given.Integer value

/-- What reading an option comes to. -/
inductive Yields : Key → Given → Except Failure Setting → Prop
  | standard (key : Key) : Yields key .nowhere (.ok (Config.standard.setting key))
  | timerInterval {given : Given} {value : Int64} {micros : UInt64}
      (integer : given.Integer value) (fits : value.toInt = micros.toNat) :
      Yields .timerInterval given (.ok (.timerInterval (.ofMicros micros)))
  | stackSize {given : Given} {value : Int64} {bytes : UInt64}
      (integer : given.Integer value) (fits : value.toInt = bytes.toNat) :
      Yields .stackSize given (.ok (.stackSize bytes))
  | maxThreads {given : Given} {value : Int64} {count : UInt32}
      (integer : given.Integer value) (fits : value.toInt = count.toNat) :
      Yields .maxThreads given (.ok (.maxThreads count))
  | preemption {given : Given} {enabled : Bool} (boolean : given.Boolean enabled) :
      Yields .preemption given (.ok (.preemption enabled))
  | exportedType {key : Key} {text : String} (ill : ¬key.Fits (.exported text)) :
      Yields key (.exported text) (.error ⟨Failure.invalid, .variableType key.text.toUpper⟩)
  | storedType {key : Key} {node : Node} (ill : ¬key.Fits (.stored node)) :
      Yields key (.stored node) (.error ⟨Failure.invalid, .optionType key.text⟩)
  | range {key : Key} {given : Given} {bound : Nat} {value : Int64}
      (bounded : key.bound? = some bound) (integer : given.Integer value)
      (outside : ¬(0 ≤ value.toInt ∧ value.toInt < bound)) :
      Yields key given (.error ⟨Failure.outOfRange, .optionRange key.text value.toInt⟩)

variable {key : Key} {given : Given}

theorem not_fits (ill : ¬key.Fits given) :
    (key ≠ .preemption → ∀ value, ¬given.Integer value) ∧
      (key = .preemption → ∀ enabled, ¬given.Boolean enabled) := by
  cases key with
  | preemption => exact ⟨fun other => absurd rfl other, fun _ => not_exists.mp ill⟩
  | _ => exact ⟨fun _ => not_exists.mp ill, nofun⟩

theorem yields_of_fits (fits : key.Fits given) : ∃ result, key.Yields given result := by
  have number {value : Int64} {bound : Nat} (integer : given.Integer value)
      (bounded : key.bound? = some bound)
      (inside : ∀ count : Nat, value.toInt = count → count < bound →
        ∃ result, key.Yields given result) : ∃ result, key.Yields given result := by
    by_cases range : 0 ≤ value.toInt ∧ value.toInt < bound
    · exact inside value.toInt.toNat (by omega) (by omega)
    · exact ⟨_, .range bounded integer range⟩
  cases key with
  | preemption =>
      obtain ⟨enabled, boolean⟩ := fits
      exact ⟨_, .preemption boolean⟩
  | timerInterval =>
      obtain ⟨value, integer⟩ := fits
      refine number integer rfl fun count same below => ?_
      have held : value.toInt = (UInt64.ofNat count).toNat := by
        rw [UInt64.toNat_ofNat_of_lt' below, same]
      exact ⟨_, .timerInterval integer held⟩
  | stackSize =>
      obtain ⟨value, integer⟩ := fits
      refine number integer rfl fun count same below => ?_
      have held : value.toInt = (UInt64.ofNat count).toNat := by
        rw [UInt64.toNat_ofNat_of_lt' below, same]
      exact ⟨_, .stackSize integer held⟩
  | maxThreads =>
      obtain ⟨value, integer⟩ := fits
      refine number integer rfl fun count same below => ?_
      have held : value.toInt = (UInt32.ofNat count).toNat := by
        rw [UInt32.toNat_ofNat_of_lt' below, same]
      exact ⟨_, .maxThreads integer held⟩

theorem yields_exists (key : Key) (given : Given) : ∃ result, key.Yields given result := by
  by_cases fits : key.Fits given
  · exact yields_of_fits fits
  · cases given with
    | exported => exact ⟨_, .exportedType fits⟩
    | stored => exact ⟨_, .storedType fits⟩
    | nowhere => exact ⟨_, .standard key⟩

/-- The setting of one option, as the reading of all options comes to it. -/
def read (environment : Environment) (options : Node) : Key → Except Failure Setting
  | timerInterval =>
      (findNatural environment options .timerInterval UInt64.size).map fun micros =>
        .timerInterval ((micros.map fun micros => Duration.ofMicros (.ofNat micros)).getD
          Config.standard.timerInterval)
  | stackSize =>
      (findNatural environment options .stackSize UInt64.size).map fun bytes =>
        .stackSize ((bytes.map UInt64.ofNat).getD Config.standard.stackSize)
  | maxThreads =>
      (findNatural environment options .maxThreads UInt32.size).map fun count =>
        .maxThreads ((count.map UInt32.ofNat).getD Config.standard.maxThreads)
  | preemption =>
      (find environment options .preemption booleanOfText booleanOfNode).map fun enabled =>
        .preemption (enabled.getD Config.standard.preemption)

end Key

section reading

variable {environment : Environment} {options : Node} {key : Key} {given : Given}
  {result : Except Failure Setting} {value : Int64}

theorem find_eq {α : Type} (ofText : String → Option α) (ofNode : Node → Option α) :
    find environment options key ofText ofNode =
      match key.noticed environment options with
      | .exported text =>
          match ofText text with
          | some value => .ok (some value)
          | none => .error ⟨Failure.invalid, .variableType key.text.toUpper⟩
      | .stored node =>
          match ofNode node with
          | some value => .ok (some value)
          | none => .error ⟨Failure.invalid, .optionType key.text⟩
      | .nowhere => .ok none := by
  simp only [find, Key.noticed, Key.given, Node.get_eq, Key.environmentName_eq]
  cases environment key.text.toUpper with
  | some text => rfl
  | none =>
      cases options.stored? key.text with
      | none => rfl
      | some node => cases node <;> rfl

theorem find_integer (integer : (key.noticed environment options).Integer value) :
    find environment options key integerOfText integerOfNode = .ok (some value) := by
  rw [find_eq]
  generalize key.noticed environment options = given at integer
  cases integer with
  | exported writes => simp only [Given.integer_exported.mp (.exported writes)]
  | stored => rfl

theorem find_boolean {enabled : Bool}
    (boolean : (key.noticed environment options).Boolean enabled) :
    find environment options key booleanOfText booleanOfNode = .ok (some enabled) := by
  rw [find_eq]
  generalize key.noticed environment options = given at boolean
  cases boolean with
  | exported => simp only [Given.boolean_exported.mp (.exported enabled)]
  | stored => rfl

theorem findNatural_fits {bound count : Nat}
    (integer : (key.noticed environment options).Integer value) (fits : value.toInt = count)
    (below : count < bound) : findNatural environment options key bound = .ok (some count) := by
  simp only [findNatural, find_integer integer, fits, Int.toNat_natCast]
  exact if_pos ⟨Int.natCast_nonneg count, Int.ofNat_lt.mpr below⟩

theorem findNatural_range {bound : Nat}
    (integer : (key.noticed environment options).Integer value)
    (outside : ¬(0 ≤ value.toInt ∧ value.toInt < bound)) :
    findNatural environment options key bound =
      .error ⟨Failure.outOfRange, .optionRange key.text value.toInt⟩ := by
  simp only [findNatural, find_integer integer, if_neg outside]

namespace Key

/-- An option is refused if what it is given as cannot be read as its type. -/
theorem read_ill {failure : Failure}
    (integers : key ≠ .preemption →
      find environment options key integerOfText integerOfNode = .error failure)
    (booleans : key = .preemption →
      find environment options key booleanOfText booleanOfNode = .error failure) :
    key.read environment options = .error failure := by
  cases key with
  | preemption => simp only [read, booleans rfl, Except.map]
  | _ => simp [read, findNatural, integers, Except.map]

theorem read_of_yields (yields : key.Yields given result)
    (noticed : key.noticed environment options = given) :
    key.read environment options = result := by
  have none_of {α : Type} {answer : Option α} (never : ∀ value, answer ≠ some value) :
      answer = none := Option.eq_none_iff_forall_ne_some.mpr never
  cases yields with
  | standard =>
      cases key <;> simp only [read, findNatural, find_eq, noticed] <;> rfl
  | @timerInterval _ _ micros integer fits =>
      rw [read, findNatural_fits (noticed ▸ integer) fits micros.toNat_lt]
      simp [Except.map]
  | @stackSize _ _ bytes integer fits =>
      rw [read, findNatural_fits (noticed ▸ integer) fits bytes.toNat_lt]
      simp [Except.map]
  | @maxThreads _ _ count integer fits =>
      rw [read, findNatural_fits (noticed ▸ integer) fits count.toNat_lt]
      simp [Except.map]
  | preemption boolean =>
      rw [read, find_boolean (noticed ▸ boolean)]
      rfl
  | exportedType ill =>
      obtain ⟨integers, booleans⟩ := not_fits ill
      refine read_ill (fun other => ?_) (fun same => ?_)
      · have unread := none_of fun value read =>
          integers other value (Given.integer_exported.mpr read)
        simp only [find_eq, noticed, unread]
      · have unread := none_of fun enabled read =>
          booleans same enabled (Given.boolean_exported.mpr read)
        simp only [find_eq, noticed, unread]
  | storedType ill =>
      obtain ⟨integers, booleans⟩ := not_fits ill
      refine read_ill (fun other => ?_) (fun same => ?_)
      · have unread := none_of fun value read =>
          integers other value (Given.integer_stored.mpr read)
        simp only [find_eq, noticed, unread]
      · have unread := none_of fun enabled read =>
          booleans same enabled (Given.boolean_stored.mpr read)
        simp only [find_eq, noticed, unread]
  | range bounded integer outside =>
      cases key with
      | preemption => cases bounded
      | _ =>
          cases bounded
          rw [read, findNatural_range (noticed ▸ integer) outside]
          rfl

theorem read_iff : key.read environment options = result ↔
    key.Yields (key.noticed environment options) result := by
  constructor
  · intro read
    obtain ⟨other, yields⟩ := key.yields_exists (key.noticed environment options)
    obtain rfl : other = result := (read_of_yields yields rfl).symm.trans read
    exact yields
  · exact fun yields => read_of_yields yields rfl

end Key

end reading

end Config

end UserThreads
