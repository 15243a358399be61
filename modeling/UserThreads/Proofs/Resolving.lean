import UserThreads.Proofs.Options

/-!
What reading settings from documents comes to: the first check that fails decides, in a fixed
order, and if none does the settings hold what each option is given as.
-/

namespace UserThreads.Config

open Yaml (Node)

section sections

variable {environment : Environment} {options : Node} {key : Key}

/-- Items are read up to the first one that cannot be. -/
theorem mapM_cases {α β ε : Type} (read : α → Except ε β) (items : List α) :
    (∃ values, items.mapM read = .ok values ∧ values.map .ok = items.map read) ∨
      ∃ before item after failure, items = before ++ item :: after ∧
        (∀ earlier ∈ before, ∃ value, read earlier = .ok value) ∧ read item = .error failure ∧
          items.mapM read = .error failure := by
  induction items with
  | nil => exact .inl ⟨[], rfl, rfl⟩
  | cons item items ih =>
      rw [List.mapM_cons]
      cases first : read item with
      | error failure =>
          exact .inr ⟨[], item, items, failure, rfl, List.forall_mem_nil _, first, rfl⟩
      | ok value =>
          rcases ih with ⟨values, all, same⟩ |
              ⟨before, last, after, failure, rfl, passed, fails, all⟩
          · refine .inl ⟨value :: values, ?_, ?_⟩
            · rw [all]
              rfl
            · rw [List.map_cons, List.map_cons, first, same]
          · refine .inr ⟨item :: before, last, after, failure, rfl, ?_, fails, ?_⟩
            · exact List.forall_mem_cons.mpr ⟨⟨value, first⟩, passed⟩
            · rw [all]
              rfl

theorem ofSection_eq (environment : Environment) (options : Node) :
    ofSection environment options = do
      let settings ← Key.all.mapM (Key.read environment options)
      let config := settings.foldl set standard
      config.validate
      return config := by
  simp only [ofSection, Key.all, List.mapM_cons, List.mapM_nil, Key.read]
  cases findNatural environment options .timerInterval UInt64.size with
  | error => rfl
  | ok micros =>
      cases findNatural environment options .stackSize UInt64.size with
      | error => rfl
      | ok bytes =>
          cases findNatural environment options .maxThreads UInt32.size with
          | error => rfl
          | ok count =>
              cases find environment options .preemption booleanOfText booleanOfNode with
              | error => rfl
              | ok enabled => rfl

theorem Key.read_setting {found : Setting} (read : key.read environment options = .ok found) :
    ∃ config : Config, found = config.setting key := by
  have yields := Key.read_iff.mp read
  generalize key.noticed environment options = given at yields
  cases yields with
  | standard => exact ⟨standard, rfl⟩
  | @timerInterval _ _ micros =>
      exact ⟨{ standard with timerInterval := .ofMicros micros }, rfl⟩
  | @stackSize _ _ bytes => exact ⟨{ standard with stackSize := bytes }, rfl⟩
  | @maxThreads _ _ count => exact ⟨{ standard with maxThreads := count }, rfl⟩
  | @preemption _ enabled => exact ⟨{ standard with preemption := enabled }, rfl⟩

/-- What a section comes to: the failure of the first option that has one, or else what the
check of the settings says. -/
inductive Sectioned (environment : Environment) (options : Node) : Except Failure Config → Prop
  | refused {before after : List Key} {key : Key} {failure : Failure}
      (order : Key.all = before ++ key :: after)
      (passed : ∀ earlier ∈ before, ∃ found, earlier.read environment options = .ok found)
      (refuses : key.read environment options = .error failure) :
      Sectioned environment options (.error failure)
  | judged {config : Config}
      (read : ∀ key : Key, key.read environment options = .ok (config.setting key)) :
      Sectioned environment options (config.validate.map fun _ => config)

theorem ofSection_cases (environment : Environment) (options : Node) :
    Sectioned environment options (ofSection environment options) := by
  rw [ofSection_eq]
  rcases mapM_cases (Key.read environment options) Key.all with
    ⟨values, all, same⟩ | ⟨before, key, after, failure, order, passed, refuses, all⟩
  · simp only [Key.all, List.map_cons, List.map_nil] at same
    obtain ⟨_, _, rfl, interval, same⟩ := List.map_eq_cons_iff.mp same
    obtain ⟨_, _, rfl, stack, same⟩ := List.map_eq_cons_iff.mp same
    obtain ⟨_, _, rfl, threads, same⟩ := List.map_eq_cons_iff.mp same
    obtain ⟨_, _, rfl, preemption, same⟩ := List.map_eq_cons_iff.mp same
    obtain rfl := List.map_eq_nil_iff.mp same
    obtain ⟨a, rfl⟩ := Key.read_setting interval.symm
    obtain ⟨b, rfl⟩ := Key.read_setting stack.symm
    obtain ⟨c, rfl⟩ := Key.read_setting threads.symm
    obtain ⟨d, rfl⟩ := Key.read_setting preemption.symm
    let config : Config := ⟨a.timerInterval, b.stackSize, c.maxThreads, d.preemption⟩
    have read (key : Key) : key.read environment options = .ok (config.setting key) := by
      cases key with
      | timerInterval => exact interval.symm
      | stackSize => exact stack.symm
      | maxThreads => exact threads.symm
      | preemption => exact preemption.symm
    have judged := Sectioned.judged read
    rw [all]
    change Sectioned environment options (config.validate >>= fun _ => .ok config)
    cases checked : config.validate <;> rwa [checked] at judged
  · rw [all]
    exact .refused order passed refuses

theorem ofSection_ok {config : Config} (read : ofSection environment options = .ok config) :
    (∀ key : Key, key.read environment options = .ok (config.setting key)) ∧
      config.validate = .ok () := by
  have sectioned := ofSection_cases environment options
  generalize ofSection environment options = result at read sectioned
  cases sectioned with
  | refused => cases read
  | @judged other settings =>
      cases valid : other.validate with
      | error failure =>
          rw [valid] at read
          cases read
      | ok =>
          rw [valid] at read
          cases read
          exact ⟨settings, valid⟩

end sections

/-- What is looked at before settings are made of the documents of a stream. -/
inductive Check
  /-- The stream can be read at all. -/
  | form
  | number
  /-- There is a section for this library, which is a mapping. -/
  | mapping
  | option (key : Key)
  | interval
  | stack
  | threads
  deriving DecidableEq

/-- The checks in the order in which they are made. -/
def Check.all : List Check :=
  [.form, .number, .mapping] ++ Key.all.map .option ++ [.interval, .stack, .threads]

/-- The stream is one document, in which this library has the section `entries`. -/
def HasSection (documents : Option (List Node)) (entries : List (Node × Node)) : Prop :=
  ∃ document, documents = some [document] ∧
    document.stored? sectionName = some (.mapping entries)

/-- The failure of a check, whatever the other ones say. -/
inductive Check.Refuses (environment : Environment) (documents : Option (List Node)) :
    Check → Failure → Prop
  | form (malformed : documents = none) : Refuses environment documents .form
      ⟨Failure.invalid, .malformedDocument⟩
  | number {nodes : List Node} (read : documents = some nodes) (several : nodes.length ≠ 1) :
      Refuses environment documents .number ⟨Failure.invalid, .documentCount nodes.length⟩
  | missing {document : Node} (single : documents = some [document])
      (absent : document.stored? sectionName = none) :
      Refuses environment documents .mapping ⟨Failure.invalid, .missingSection sectionName⟩
  | sectionType {document node : Node} (single : documents = some [document])
      (stored : document.stored? sectionName = some node)
      (other : ∀ entries, node ≠ .mapping entries) :
      Refuses environment documents .mapping ⟨Failure.invalid, .sectionType sectionName⟩
  | option {entries : List (Node × Node)} {key : Key} {failure : Failure}
      (present : HasSection documents entries)
      (yields : key.Yields (key.given environment (.mapping entries)) (.error failure)) :
      Refuses environment documents (.option key) failure
  | interval {entries : List (Node × Node)} (present : HasSection documents entries)
      (yields : Key.timerInterval.Yields (Key.timerInterval.given environment (.mapping entries))
        (.ok (.timerInterval .zero))) :
      Refuses environment documents .interval ⟨Failure.invalid, .zeroInterval⟩
  | stack {entries : List (Node × Node)} {bytes : UInt64} (present : HasSection documents entries)
      (yields : Key.stackSize.Yields (Key.stackSize.given environment (.mapping entries))
        (.ok (.stackSize bytes)))
      (small : bytes < minStackSize) : Refuses environment documents .stack
        ⟨Failure.invalid, .stackTooSmall bytes minStackSize⟩
  | threads {entries : List (Node × Node)} (present : HasSection documents entries)
      (yields : Key.maxThreads.Yields (Key.maxThreads.given environment (.mapping entries))
        (.ok (.maxThreads 0))) :
      Refuses environment documents .threads ⟨Failure.invalid, .zeroMaxThreads⟩

/-- The failure of the first check that has one. -/
def First (environment : Environment) (documents : Option (List Node)) (failure : Failure) :
    Prop :=
  ∃ before check after, Check.all = before ++ check :: after ∧
    check.Refuses environment documents failure ∧
      ∀ earlier ∈ before, ∀ other, ¬earlier.Refuses environment documents other

/-- The settings hold what each option is given as, and pass the check of settings. -/
def Accepts (environment : Environment) (documents : Option (List Node)) (config : Config) :
    Prop :=
  ∃ entries, HasSection documents entries ∧
    (∀ key : Key, key.Yields (key.given environment (.mapping entries))
      (.ok (config.setting key))) ∧ config.validate = .ok ()

section checks

theorem eq_of_setting {config other : Config}
    (same : ∀ key, config.setting key = other.setting key) : config = other := by
  have interval := same .timerInterval
  have stack := same .stackSize
  have threads := same .maxThreads
  have preemption := same .preemption
  simp only [setting, Setting.timerInterval.injEq, Setting.stackSize.injEq,
    Setting.maxThreads.injEq, Setting.preemption.injEq] at interval stack threads preemption
  cases config
  cases other
  simp_all

theorem isZero_iff {length : Duration} : length.isZero = true ↔ length = .zero := by
  cases length
  simp [Duration.isZero, Duration.zero]

/-- Why settings are refused, and what has been found in order before. -/
inductive Judged (config : Config) : Except Failure Unit → Prop
  | interval (zero : config.timerInterval = .zero) :
      Judged config (.error ⟨Failure.invalid, .zeroInterval⟩)
  | stack (interval : config.timerInterval ≠ .zero) (small : config.stackSize < minStackSize) :
      Judged config (.error ⟨Failure.invalid, .stackTooSmall config.stackSize minStackSize⟩)
  | threads (interval : config.timerInterval ≠ .zero) (stack : ¬config.stackSize < minStackSize)
      (zero : config.maxThreads = 0) : Judged config (.error ⟨Failure.invalid, .zeroMaxThreads⟩)
  | valid (interval : config.timerInterval ≠ .zero) (stack : ¬config.stackSize < minStackSize)
      (threads : config.maxThreads ≠ 0) : Judged config (.ok ())

theorem validate_cases (config : Config) : Judged config config.validate := by
  unfold validate defect?
  by_cases interval : config.timerInterval = .zero
  · simp only [isZero_iff.mpr interval, if_true]
    exact .interval interval
  · simp only [mt isZero_iff.mp interval]
    by_cases stack : config.stackSize < minStackSize
    · simp only [if_pos stack]
      exact .stack interval stack
    · simp only [if_neg stack]
      by_cases threads : config.maxThreads = 0
      · simp only [if_pos threads]
        exact .threads interval stack threads
      · simp only [if_neg threads]
        exact .valid interval stack threads

variable {environment : Environment} {documents : Option (List Node)} {config : Config}
  {entries : List (Node × Node)} {check : Check} {key : Key} {failure : Failure}

theorem HasSection.unique {other : List (Node × Node)} (present : HasSection documents entries)
    (present' : HasSection documents other) : entries = other := by
  obtain ⟨document, rfl, stored⟩ := present
  obtain ⟨_, ⟨⟩, stored'⟩ := present'
  cases stored.symm.trans stored'
  rfl

/-- No value in the documents is marked bad. -/
def Sound (documents : Option (List Node)) : Prop :=
  ∀ nodes, documents = some nodes → ∀ document ∈ nodes, document.Sound

theorem HasSection.sound (present : HasSection documents entries) (sound : Sound documents) :
    (Node.mapping entries).Sound := by
  obtain ⟨document, rfl, stored⟩ := present
  exact (sound _ rfl document List.mem_cons_self).stored stored

/-- Without bad values an option is what it is given as. -/
theorem Key.noticed_of_sound {options : Node} (sound : options.Sound) :
    key.noticed environment options = key.given environment options := by
  unfold Key.noticed
  split
  · rename_i given
    unfold Key.given at given
    split at given
    · cases given
    · rename_i stored
      cases given
      exact absurd rfl (sound.stored stored).ne_bad
    · cases given
  · rfl

theorem HasSection.ofDocuments_eq (present : HasSection documents entries)
    (environment : Environment) :
    ofDocuments environment documents = ofSection environment (.mapping entries) := by
  obtain ⟨document, rfl, stored⟩ := present
  have got := document.get_eq sectionName
  rw [stored, Option.getD_some] at got
  simp only [ofDocuments, got]

theorem HasSection.read_iff {result : Except Failure Setting}
    (present : HasSection documents entries) (sound : Sound documents) :
    key.read environment (.mapping entries) = result ↔
      key.Yields (key.given environment (.mapping entries)) result := by
  rw [Key.read_iff, Key.noticed_of_sound (present.sound sound)]

/-- There is one section, and one thing that an option of it comes to. -/
theorem HasSection.settles {other : List (Node × Node)} {result found : Except Failure Setting}
    (present : HasSection documents entries) (sound : Sound documents)
    (read : key.read environment (.mapping entries) = result)
    (present' : HasSection documents other)
    (yields : key.Yields (key.given environment (.mapping other)) found) : result = found := by
  obtain rfl := present.unique present'
  exact read.symm.trans ((present.read_iff sound).mpr yields)

theorem Check.Refuses.unique {other : Failure} (sound : Sound documents)
    (refuses : check.Refuses environment documents failure)
    (refuses' : check.Refuses environment documents other) : failure = other := by
  cases refuses with
  | form => cases refuses'; rfl
  | number read =>
      cases refuses' with
      | number read' => cases read.symm.trans read'; rfl
  | missing single absent =>
      cases refuses' with
      | missing => rfl
      | sectionType single' stored =>
          cases single.symm.trans single'
          cases absent.symm.trans stored
  | sectionType single stored =>
      cases refuses' with
      | missing single' absent =>
          cases single.symm.trans single'
          cases absent.symm.trans stored
      | sectionType => rfl
  | option present yields =>
      cases refuses' with
      | option present' yields' =>
          have read := (present.read_iff sound).mpr yields
          exact Except.error.inj (present.settles sound read present' yields')
  | interval => cases refuses'; rfl
  | stack present yields =>
      cases refuses' with
      | stack present' yields' =>
          have read := (present.read_iff sound).mpr yields
          cases present.settles sound read present' yields'
          rfl
  | threads => cases refuses'; rfl

theorem First.unique {other : Failure} (sound : Sound documents)
    (first : First environment documents failure) (first' : First environment documents other) :
    failure = other := by
  classical
  obtain ⟨before, check, after, line, refuses, passed⟩ := first
  obtain ⟨before', check', after', line', refuses', passed'⟩ := first'
  have found {before after : List Check} {check : Check} {failure : Failure}
      (line : Check.all = before ++ check :: after)
      (refuses : check.Refuses environment documents failure)
      (passed : ∀ earlier ∈ before, ∀ other, ¬earlier.Refuses environment documents other) :
      Check.all.find? (fun check => decide (∃ failure, check.Refuses environment documents failure))
        = some check := by
    refine List.find?_eq_some_iff_append.mpr
      ⟨decide_eq_true ⟨failure, refuses⟩, before, after, line, fun earlier member => ?_⟩
    simpa using passed earlier member
  cases (found line refuses passed).symm.trans (found line' refuses' passed')
  exact refuses.unique sound refuses'

theorem Accepts.unique {other : Config} (sound : Sound documents)
    (accepts : Accepts environment documents config)
    (accepts' : Accepts environment documents other) : config = other := by
  obtain ⟨entries, present, yields, -⟩ := accepts
  obtain ⟨_, present', yields', -⟩ := accepts'
  refine eq_of_setting fun key => ?_
  have read := (present.read_iff sound).mpr (yields key)
  exact Except.ok.inj (present.settles sound read present' (yields' key))

section passing

theorem passes_form (nodes : List Node) :
    ∀ other, ¬Check.form.Refuses environment (some nodes) other := by
  rintro _ ⟨malformed⟩
  cases malformed

theorem passes_number (document : Node) :
    ∀ other, ¬Check.number.Refuses environment (some [document]) other := by
  intro other refuses
  cases refuses with
  | number read several =>
      cases read
      exact several rfl

variable (present : HasSection documents entries) (sound : Sound documents)

include present in
theorem HasSection.passes : ∀ check ∈ [Check.form, .number, .mapping], ∀ other,
    ¬check.Refuses environment documents other := by
  obtain ⟨document, rfl, stored⟩ := present
  refine List.forall_mem_cons.mpr ⟨passes_form _, List.forall_mem_cons.mpr
    ⟨passes_number _, List.forall_mem_singleton.mpr fun other refuses => ?_⟩⟩
  cases refuses with
  | missing single absent =>
      cases single
      cases absent.symm.trans stored
  | sectionType single stored' different =>
      cases single
      cases stored.symm.trans stored'
      exact different _ rfl

include present sound

theorem HasSection.passes_option {found : Setting}
    (read : key.read environment (.mapping entries) = .ok found) :
    ∀ other, ¬(Check.option key).Refuses environment documents other := by
  intro other refuses
  cases refuses with
  | option present' yields => cases present.settles sound read present' yields

theorem HasSection.passes_interval {interval : Duration} (nonzero : interval ≠ .zero)
    (read : Key.timerInterval.read environment (.mapping entries) =
      .ok (.timerInterval interval)) :
    ∀ other, ¬Check.interval.Refuses environment documents other := by
  intro other refuses
  cases refuses with
  | interval present' yields =>
      cases present.settles sound read present' yields
      exact nonzero rfl

theorem HasSection.passes_stack {bytes : UInt64} (large : ¬bytes < minStackSize)
    (read : Key.stackSize.read environment (.mapping entries) = .ok (.stackSize bytes)) :
    ∀ other, ¬Check.stack.Refuses environment documents other := by
  intro other refuses
  cases refuses with
  | stack present' yields small =>
      cases present.settles sound read present' yields
      exact large small

theorem HasSection.passes_threads {count : UInt32} (nonzero : count ≠ 0)
    (read : Key.maxThreads.read environment (.mapping entries) = .ok (.maxThreads count)) :
    ∀ other, ¬Check.threads.Refuses environment documents other := by
  intro other refuses
  cases refuses with
  | threads present' yields =>
      cases present.settles sound read present' yields
      exact nonzero rfl

end passing

/-- Settings are accepted only if no check fails. -/
theorem Accepts.passes (sound : Sound documents) (accepts : Accepts environment documents config)
    (check : Check) : ∀ other, ¬check.Refuses environment documents other := by
  obtain ⟨entries, present, yields, valid⟩ := accepts
  have read (key : Key) := (present.read_iff sound).mpr (yields key)
  have judged := config.validate_cases
  rw [valid] at judged
  cases judged with
  | valid interval stack threads =>
      cases check with
      | form | number | mapping => exact present.passes _ (by simp)
      | option key => exact present.passes_option sound (read key)
      | interval => exact present.passes_interval sound interval (read .timerInterval)
      | stack => exact present.passes_stack sound stack (read .stackSize)
      | threads => exact present.passes_threads sound threads (read .maxThreads)

/-- The first of the later checks that fails is the first of all, if those on documents pass. -/
theorem HasSection.first {before after : List Check} (present : HasSection documents entries)
    (line : Key.all.map .option ++ [.interval, .stack, .threads] = before ++ check :: after)
    (refuses : check.Refuses environment documents failure)
    (passed : ∀ earlier ∈ before, ∀ other, ¬earlier.Refuses environment documents other) :
    First environment documents failure := by
  refine ⟨[.form, .number, .mapping] ++ before, check, after, ?_, refuses, ?_⟩
  · rw [Check.all, List.append_assoc, line, List.append_assoc]
  · exact List.forall_mem_append.mpr ⟨present.passes, passed⟩

theorem Sectioned.comes {result : Except Failure Config} (present : HasSection documents entries)
    (sound : Sound documents) (sectioned : Sectioned environment (.mapping entries) result) :
    (∃ config, result = .ok config ∧ Accepts environment documents config) ∨
      ∃ failure, result = .error failure ∧ First environment documents failure := by
  cases sectioned with
  | @refused before after key failure order passed refuses =>
      have line : Key.all.map .option ++ [.interval, .stack, .threads] = before.map .option ++
          Check.option key :: (after.map .option ++ [.interval, .stack, .threads]) := by
        simp [order]
      have refused := Check.Refuses.option present ((present.read_iff sound).mp refuses)
      refine .inr ⟨failure, rfl, present.first line refused (List.forall_mem_map.mpr ?_)⟩
      intro earlier member
      obtain ⟨found, read⟩ := passed earlier member
      exact present.passes_option sound read
  | @judged config read =>
      have yields (key : Key) := (present.read_iff sound).mp (read key)
      have options : ∀ earlier ∈ Key.all.map Check.option, ∀ other,
          ¬earlier.Refuses environment documents other :=
        List.forall_mem_map.mpr fun key _ => present.passes_option sound (read key)
      have judged := config.validate_cases
      generalize checked : config.validate = verdict at judged
      cases judged with
      | interval zero =>
          refine .inr ⟨_, rfl, present.first rfl (.interval present ?_) options⟩
          exact zero ▸ yields .timerInterval
      | stack nonzero small =>
          have lasting := present.passes_interval sound nonzero (read .timerInterval)
          have line : Key.all.map .option ++ [.interval, .stack, .threads] =
            (Key.all.map .option ++ [.interval]) ++ Check.stack :: [.threads] := rfl
          refine .inr ⟨_, rfl, present.first line (.stack present (yields .stackSize) small) ?_⟩
          exact List.forall_mem_append.mpr ⟨options, List.forall_mem_singleton.mpr lasting⟩
      | threads nonzero large zero =>
          have lasting := present.passes_interval sound nonzero (read .timerInterval)
          have roomy := present.passes_stack sound large (read .stackSize)
          have line : Key.all.map .option ++ [.interval, .stack, .threads] =
            (Key.all.map .option ++ [.interval, .stack]) ++ Check.threads :: [] := rfl
          refine .inr ⟨_, rfl, present.first line (.threads present ?_) ?_⟩
          · exact zero ▸ yields .maxThreads
          · exact List.forall_mem_append.mpr ⟨options, List.forall_mem_cons.mpr
              ⟨lasting, List.forall_mem_singleton.mpr roomy⟩⟩
      | valid => exact .inl ⟨config, rfl, entries, present, yields, checked⟩

/-- The option is given as an integer that is not in its range. -/
def OutOfRange (environment : Environment) (documents : Option (List Node)) (key : Key)
    (value : Int64) : Prop :=
  ∃ entries bound, HasSection documents entries ∧ key.bound? = some bound ∧
    (key.given environment (.mapping entries)).Integer value ∧
      ¬(0 ≤ value.toInt ∧ value.toInt < bound)

theorem Check.Refuses.errno (refuses : check.Refuses environment documents failure) :
    failure.errno = Failure.invalid ∧ (∀ name value, failure.cause ≠ .optionRange name value) ∨
      failure.errno = Failure.outOfRange ∧ ∃ key value,
        OutOfRange environment documents key value ∧
          failure.cause = .optionRange key.text value.toInt := by
  cases refuses with
  | @option entries key failure present yields =>
      generalize same : key.given environment (.mapping entries) = given at yields
      cases yields with
      | exportedType | storedType => exact .inl ⟨rfl, nofun⟩
      | range bounded integer outside =>
          exact .inr ⟨rfl, key, _, ⟨entries, _, present, bounded, same ▸ integer, outside⟩, rfl⟩
  | _ => exact .inl ⟨rfl, nofun⟩

end checks

end UserThreads.Config
