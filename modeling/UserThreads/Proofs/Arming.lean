import UserThreads.Proofs.Creating
import UserThreads.Proofs.Resolving

/-!
The timer of a gate that is driven by signals. Activations and decisions that switch start it
afresh, with the interval of the settings as its period. The check of settings lets two kinds
of intervals pass that are no period: what is shorter than a microsecond stops the timer, and
with 2 ^ 63 seconds or more the process ends.
-/

namespace UserThreads

variable {n k : Nat} {C ν : Type}

/-- The interval timer of the operating system. -/
inductive Timer
  | stopped
  | running (seconds micros : Nat)
  deriving DecidableEq, Repr

/-- What POSIX has the timer set to: seconds that are negative and a million of microseconds or
more are refused, and a period of zero stops it. -/
def Timer.set? (period : Int64 × Nat) : Option Timer :=
  if period.1 < 0 ∨ 1000000 ≤ period.2 then none
  else if period = (0, 0) then some .stopped
  else some (.running period.1.toInt.toNat period.2)

/-- The timer can be driven with it: its period is positive, of seconds that are not negative
and less than a million of microseconds. -/
structure Duration.Drives (interval : Duration) : Prop where
  nonnegative : 0 ≤ (Gate.period interval).1
  micros : (Gate.period interval).2 < 1000000
  positive : Gate.period interval ≠ (0, 0)

/-- What the timer is set to with an interval. -/
inductive Duration.Sets (interval : Duration) : Option Timer → Prop
  | runs (drives : interval.Drives) :
      Sets interval (some (.running interval.seconds.toNat (interval.nanos / 1000)))
  | stops (empty : interval.seconds = 0) (short : interval.nanos < 1000) :
      Sets interval (some .stopped)
  | fails (long : Int64.maxValue.toInt < interval.seconds.toNat) : Sets interval none

namespace Gate

variable {interval : Duration}

theorem period_micros (interval : Duration) : (period interval).2 < 1000000 := by
  have := interval.nanos_lt
  simp only [period]
  omega

theorem period_toInt (interval : Duration) : (period interval).1.toInt =
    if interval.seconds.toNat ≤ Int64.maxValue.toInt then (interval.seconds.toNat : Int)
    else interval.seconds.toNat - UInt64.size := by
  simp only [period]
  rw [← Int64.toInt_toBitVec, UInt64.toBitVec_toInt64, BitVec.toInt_eq_toNat_cond,
    UInt64.toNat_toBitVec, Int64.toInt_maxValue, UInt64.size]
  split <;> split <;> omega

theorem period_negative :
    (period interval).1 < 0 ↔ Int64.maxValue.toInt < interval.seconds.toNat := by
  have bounded := interval.seconds.toNat_lt
  rw [Int64.lt_iff_toInt_lt, period_toInt, Int64.toInt_zero, Int64.toInt_maxValue, UInt64.size]
  split <;> omega

theorem period_zero : period interval = (0, 0) ↔
    interval.seconds = 0 ∧ interval.nanos < 1000 := by
  simp only [period, Prod.mk.injEq]
  constructor
  · rintro ⟨seconds, micros⟩
    have back := congrArg Int64.toUInt64 seconds
    rw [UInt64.toUInt64_toInt64] at back
    exact ⟨back, by omega⟩
  · rintro ⟨seconds, nanos⟩
    exact ⟨by rw [seconds]; rfl, by omega⟩

theorem sets (interval : Duration) : interval.Sets (Timer.set? (period interval)) := by
  have micros := period_micros interval
  unfold Timer.set?
  by_cases negative : (period interval).1 < 0
  · rw [if_pos (.inl negative)]
    exact .fails (period_negative.mp negative)
  · rw [if_neg (not_or.mpr ⟨negative, Nat.not_le.mpr micros⟩)]
    by_cases zero : period interval = (0, 0)
    · rw [if_pos zero]
      obtain ⟨empty, short⟩ := period_zero.mp zero
      exact .stops empty short
    · have seconds : (period interval).1.toInt.toNat = interval.seconds.toNat := by
        rw [period_toInt, if_pos (Int.not_lt.mp (mt period_negative.mpr negative))]
        rfl
      rw [if_neg zero, seconds]
      exact .runs ⟨Int64.not_lt.mp negative, micros, zero⟩

end Gate

/-- It takes at least a microsecond, and no more seconds than a signed number counts. -/
theorem Duration.drives_iff {interval : Duration} : interval.Drives ↔
    (interval.seconds ≠ 0 ∨ 1000 ≤ interval.nanos) ∧
      interval.seconds.toNat ≤ Int64.maxValue.toInt := by
  constructor
  · intro drives
    refine ⟨?_, ?_⟩
    · have positive := mt Gate.period_zero.mpr drives.positive
      rwa [Decidable.not_and_iff_not_or_not, Nat.not_lt] at positive
    · exact Int.not_lt.mp (mt Gate.period_negative.mpr (Int64.not_lt.mpr drives.nonnegative))
  · rintro ⟨positive, bounded⟩
    refine ⟨?_, Gate.period_micros interval, ?_⟩
    · exact Int64.not_lt.mp (mt Gate.period_negative.mp (Int.not_lt.mpr bounded))
    · rwa [ne_eq, Gate.period_zero, Decidable.not_and_iff_not_or_not, Nat.not_lt]

/-- Whole microseconds always drive it, if there are any. -/
theorem Duration.drives_ofMicros {micros : UInt64} (nonzero : ofMicros micros ≠ .zero) :
    (ofMicros micros).Drives := by
  have seconds : (ofMicros micros).seconds.toNat = micros.toNat / 1000000 :=
    UInt64.toNat_div ..
  have nanos : (ofMicros micros).nanos = micros.toNat % 1000000 * 1000 := rfl
  have whole : micros.toNat ≠ 0 := by
    intro none
    obtain rfl : micros = 0 := UInt64.toNat_inj.mp none
    exact nonzero rfl
  have bounded := micros.toNat_lt
  refine drives_iff.mpr ⟨?_, by rw [Int64.toInt_maxValue]; omega⟩
  by_cases part : micros.toNat % 1000000 = 0
  · refine .inl fun empty => ?_
    rw [empty] at seconds
    change 0 = _ at seconds
    omega
  · exact .inr (by omega)

namespace Gate

/-- How often the timer of a gate was started, and with which interval last. -/
def arming (gate : Gate) : Nat × Duration := (gate.tally.arms, gate.tally.interval)

/-- Why the process ends if the timer does not take its period. -/
def unarmed : Failure := ⟨Failure.invalid, .stated "failed to arm interval timer"⟩

variable {gate : Gate} {interval : Duration}

/-- A gate that is driven by signals is armed if the timer takes the period. -/
theorem arm_signal (signal : gate.kind = .signal) (interval : Duration) : gate.arm interval =
    match Timer.set? (period interval) with
    | some _ => .ok { gate with
        tally := { gate.tally with arms := gate.tally.arms + 1, interval } }
    | none => .error unarmed := by
  have micros := Nat.not_le.mpr (period_micros interval)
  simp only [arm, signal, true_and, Timer.set?, micros, or_false]
  by_cases negative : (period interval).1 < 0
  · simp only [if_pos negative]
    rfl
  · simp only [if_neg negative]
    by_cases zero : period interval = (0, 0)
    · simp only [if_pos zero]
    · simp only [if_neg zero]

theorem start_signal (signal : gate.kind = .signal) (interval : Duration) : gate.start interval =
    match Timer.set? (period interval) with
    | some _ => .ok { gate with
        installed := true
        tally := { gate.tally with
          installs := gate.tally.installs + 1, arms := gate.tally.arms + 1, interval } }
    | none => .error unarmed := by
  simp only [start, install, signal]
  rw [arm_signal rfl]

end Gate

variable {index : Fin n} {action : Action n k C ν} {machine : Machine n k C ν}

namespace Machine

/-- The piece of work starts the timer of the runtime `index`: it activates the runtime, or
makes a decision there that switches. -/
inductive Arms (machine : Machine n k C ν) (index : Fin n) : Action n k C ν → Prop
  | activates {entry : C} (absent : (machine.runtime index).scheduler = none)
      (idle : machine.active = none)
      (installs : (machine.runtime index).gate.kind ≠ .refusing) :
      Arms machine index (.enroll index entry)
  | decides {parking : Option (Fin k)} {scheduler : Scheduler (Context n k C ν) ν}
      {rotation : Rotation (Context n k C ν) ν} {switch : Switch}
      (present : (machine.runtime index).scheduler = some scheduler)
      (rotated : (machine.save scheduler).rotate (machine.waiters? parking) = .ok rotation)
      (turns : rotation.switch = some switch) : Arms machine index (.schedule index parking)

/-- The timer of the runtime `index` has been set with `interval`, or has refused it. -/
inductive Starts (index : Fin n) (interval : Duration) (before after : Machine n k C ν) :
    Option Timer → Prop
  | takes {timer : Timer} (goes : after.outcome = before.outcome)
      (armed : (after.runtime index).gate.arming =
        ((before.runtime index).gate.tally.arms + 1, interval)) :
      Starts index interval before after (some timer)
  | refuses (ends : after.outcome = some (.aborted (.gate Gate.unarmed))) :
      Starts index interval before after none

theorem enroll_starts (signal : (machine.runtime index).gate.kind = .signal)
    (absent : (machine.runtime index).scheduler = none) (idle : machine.active = none)
    (entry : C) :
    Starts index (machine.runtime index).config.timerInterval machine
      (machine.enroll index entry)
      (Timer.set? (Gate.period (machine.runtime index).config.timerInterval)) := by
  rw [machine.enroll_idle absent idle]
  have activates := machine.activate_eq index
  rw [Gate.start_signal signal] at activates
  cases set : Timer.set? (Gate.period (machine.runtime index).config.timerInterval) with
  | none =>
      rw [set] at activates
      obtain ⟨log, activates⟩ := activates
      rw [activates]
      exact .refuses rfl
  | some timer =>
      rw [set] at activates
      obtain ⟨log, activates⟩ := activates
      rw [activates]
      refine .takes rfl ?_
      change ((machine.activated index _).runtime index).gate.arming = _
      rw [runtime_activated, if_pos rfl]
      rfl

theorem schedule_starts {parking : Option (Fin k)} {scheduler : Scheduler (Context n k C ν) ν}
    {rotation : Rotation (Context n k C ν) ν} {switch : Switch}
    (signal : (machine.runtime index).gate.kind = .signal)
    (present : (machine.runtime index).scheduler = some scheduler)
    (rotated : (machine.save scheduler).rotate (machine.waiters? parking) = .ok rotation)
    (turns : rotation.switch = some switch) :
    Starts index (machine.runtime index).config.timerInterval machine
      (machine.schedule index parking)
      (Timer.set? (Gate.period (machine.runtime index).config.timerInterval)) := by
  simp only [schedule, present, rotated, turns, Gate.arm_signal signal]
  cases set : Timer.set? (Gate.period (machine.runtime index).config.timerInterval) with
  | none => exact .refuses rfl
  | some timer =>
      have parked : (machine.setWaiters parking rotation.waiting).outcome = machine.outcome := by
        unfold setWaiters
        split <;> rfl
      dsimp only
      split
      all_goals
        refine .takes parked ?_
        change ((setRuntime _ index _).runtime index).gate.arming = _
        rw [runtime_setRuntime_self]
        rfl

/-- Starting the timer comes to what the timer is set to. -/
theorem Arms.starts (arms : machine.Arms index action)
    (signal : (machine.runtime index).gate.kind = .signal) :
    Starts index (machine.runtime index).config.timerInterval machine (machine.perform action)
      (Timer.set? (Gate.period (machine.runtime index).config.timerInterval)) := by
  cases arms with
  | activates absent idle => exact enroll_starts signal absent idle _
  | decides present rotated turns => exact schedule_starts signal present rotated turns

section unarmed

theorem arming_setRuntime (machine : Machine n k C ν) (home : Fin n) {index : Fin n}
    {runtime : Runtime n k C ν}
    (same : runtime.gate.arming = (machine.runtime index).gate.arming) :
    ((machine.setRuntime index runtime).runtime home).gate.arming =
      (machine.runtime home).gate.arming := by
  rw [runtime_setRuntime]
  split
  · rename_i equal
    rw [same, equal]
  · rfl

theorem arming_schedule {parking : Option (Fin k)} {other : Fin n}
    (unarmed : ¬machine.Arms index (.schedule other parking)) :
    ((machine.schedule other parking).runtime index).gate.arming =
      (machine.runtime index).gate.arming := by
  by_cases here : other = index
  · subst here
    simp only [schedule]
    split
    · rfl
    · rename_i scheduler present
      split
      · rfl
      · rename_i rotation rotated
        cases turns : rotation.switch with
        | some switch => exact absurd (.decides present rotated turns) unarmed
        | none =>
            change ((setRuntime _ other _).runtime other).gate.arming = _
            rw [runtime_setRuntime_self]
            exact congrArg (fun runtimes => (runtimes other).gate.arming)
              (machine.setWaiters_frame parking rotation.waiting).1
  · rw [machine.schedule_others parking (Ne.symm here)]

theorem arming_enroll {entry : C} {other : Fin n}
    (unarmed : ¬machine.Arms index (.enroll other entry)) :
    ((machine.enroll other entry).runtime index).gate.arming =
      (machine.runtime index).gate.arming := by
  simp only [enroll]
  split
  · rfl
  · rename_i absent
    split
    · rfl
    · rename_i idle
      change ((machine.activate other).runtime index).gate.arming = _
      by_cases here : other = index
      · subst here
        have refusing : (machine.runtime other).gate.kind = .refusing :=
          Decidable.byContradiction fun installs => unarmed
            (.activates (Option.not_isSome_iff_eq_none.mp absent)
              (Option.not_isSome_iff_eq_none.mp idle) installs)
        simp only [activate, Gate.install, refusing]
        rfl
      · rw [machine.activate_others other index (Ne.symm here)]

/-- Nothing else starts a timer. -/
theorem perform_unarmed (unarmed : ¬machine.Arms index action) :
    ((machine.perform action).runtime index).gate.arming =
      (machine.runtime index).gate.arming := by
  have untended (same : (machine.runtime index).Reseats ((machine.perform action).runtime index)) :
      ((machine.perform action).runtime index).gate.arming =
        (machine.runtime index).gate.arming := by
    obtain ⟨disarms, scheduler, same⟩ := same
    rw [same]
    rfl
  cases action with
  | schedule other parking => exact arming_schedule unarmed
  | enroll other entry => exact arming_enroll unarmed
  | close other =>
      have same : (machine.runtime other).gate.close.1.arming =
          (machine.runtime other).gate.arming := by
        unfold Gate.close
        split <;> rfl
      simp only [perform, closeGate]
      split <;> rename_i closing <;> rw [closing] at same <;>
        exact machine.arming_setRuntime index same
  | reopen other =>
      simp only [perform, reopenGate]
      split <;> rename_i reopening <;>
        exact machine.arming_setRuntime index (congrArg (·.1.arming) reopening).symm
  | closed | reopened => exact machine.arming_setRuntime index rfl
  | discard other =>
      simp only [perform, discard]
      split <;> exact arming_setRuntime _ index rfl
  | _ => exact untended (machine.perform_reseats index rfl)

end unarmed

end Machine

namespace Moment

/-- The move starts the timer of the runtime `index`. -/
def Arms (index : Fin n) (moment : Moment n k C ν) : Prop :=
  moment.move = .work ∧ ∃ action rest, moment.machine.todo = action :: rest ∧
    (moment.machine.withTodo rest).Arms index action

/-- What it comes to that the timer of the runtime `index` is started with `interval`. -/
inductive Starts (index : Fin n) (interval : Duration) (moment : Moment n k C ν) : Prop
  | runs (drives : interval.Drives)
      (timer : Timer.set? (Gate.period interval) =
        some (.running interval.seconds.toNat (interval.nanos / 1000)))
      (goes : moment.after.outcome = none)
      (armed : (moment.after.runtime index).gate.arming =
        ((moment.machine.runtime index).gate.tally.arms + 1, interval))
  | stops (empty : interval.seconds = 0) (positive : 0 < interval.nanos)
      (short : interval.nanos < 1000)
      (timer : Timer.set? (Gate.period interval) = some .stopped)
      (goes : moment.after.outcome = none)
      (armed : (moment.after.runtime index).gate.arming =
        ((moment.machine.runtime index).gate.tally.arms + 1, interval))
  | fails (long : Int64.maxValue.toInt < interval.seconds.toNat)
      (timer : Timer.set? (Gate.period interval) = none)
      (ends : moment.after.outcome = some (.aborted (.gate Gate.unarmed)))

/-- The timer of the runtime `index` is started with `interval`, or else left alone. -/
structure Timed (index : Fin n) (interval : Duration) (moment : Moment n k C ν) : Prop where
  starts : moment.Arms index → moment.Starts index interval
  keeps : ¬moment.Arms index → (moment.after.runtime index).gate.arming =
    (moment.machine.runtime index).gate.arming

variable {moment : Moment n k C ν} {interval : Duration}

theorem starts_of_arms (going : moment.machine.outcome = none)
    (signal : (moment.machine.runtime index).gate.kind = .signal)
    (nonzero : (moment.machine.runtime index).config.timerInterval ≠ .zero)
    (arms : moment.Arms index) :
    moment.Starts index (moment.machine.runtime index).config.timerInterval := by
  obtain ⟨library, action, rest, todo, arms⟩ := arms
  have after : moment.after = (moment.machine.withTodo rest).perform action := by
    rw [Moment.after, library]
    exact Machine.step_eq going todo
  have started := arms.starts signal
  rw [← after] at started
  -- settings and gate are those of the machine that has all its work left
  change Machine.Starts index (moment.machine.runtime index).config.timerInterval _ _ (Timer.set?
    (Gate.period (moment.machine.runtime index).config.timerInterval)) at started
  generalize (moment.machine.runtime index).config.timerInterval = interval at nonzero started ⊢
  have sets := Gate.sets interval
  generalize timer : Timer.set? (Gate.period interval) = set at started sets
  cases sets with
  | runs drives =>
      cases started with
      | takes goes armed => exact .runs drives timer (goes.trans going) armed
  | stops empty short =>
      cases started with
      | takes goes armed =>
          have positive : 0 < interval.nanos := by
            refine Nat.pos_of_ne_zero fun none => nonzero ?_
            cases interval
            cases empty
            cases none
            rfl
          exact .stops empty positive short timer (goes.trans going) armed
  | fails long =>
      cases started with
      | refuses ends => exact .fails long timer ends

theorem keeps_of_unarmed (going : moment.machine.outcome = none) (unarmed : ¬moment.Arms index) :
    (moment.after.runtime index).gate.arming =
      (moment.machine.runtime index).gate.arming := by
  by_cases library : moment.move = .work
  · rw [Moment.after, library]
    cases todo : moment.machine.todo with
    | nil => simp only [Machine.make, Machine.step, going, todo]
    | cons action rest =>
        have unarmed : ¬(moment.machine.withTodo rest).Arms index action :=
          fun arms => unarmed ⟨library, action, rest, todo, arms⟩
        have kept := Machine.perform_unarmed unarmed
        rwa [← Machine.step_eq going todo] at kept
  · rw [Moment.after, (moment.machine.make_own library).1]

end Moment

variable {past : List (Moment n k C ν)}

/-- A runtime has had its settings and its kind of gate all along. -/
theorem Course.kept (course : Course past machine) (index : Fin n) : ∀ moment ∈ past,
    moment.machine.outcome = none ∧
      (moment.machine.runtime index).Keeps (machine.runtime index) := by
  induction course with
  | start => exact List.forall_mem_nil _
  | @move past machine move course going suits ih =>
      have kept := machine.make_keeps index move
      refine List.forall_mem_cons.mpr ⟨⟨going, kept⟩, fun moment member => ?_⟩
      obtain ⟨went, earlier⟩ := ih moment member
      exact ⟨went, earlier.trans kept⟩

theorem Config.interval_ne_zero {config : Config} (valid : config.validate = .ok ()) :
    config.timerInterval ≠ .zero := by
  have judged := config.validate_cases
  rw [valid] at judged
  cases judged with
  | valid interval => exact interval

/-- Whenever the timer of a gate that is driven by signals is started, with settings that pass
their check, it runs if the interval is a period for it. If not, it is stopped by an interval
that is shorter than a microsecond, and one of 2 ^ 63 seconds or more ends the process. -/
theorem Course.starts_timer (course : Course past machine)
    (signal : (machine.runtime index).gate.kind = .signal)
    (valid : (machine.runtime index).config.validate = .ok ()) :
    ∀ moment ∈ past, moment.Timed index (machine.runtime index).config.timerInterval := by
  intro moment member
  obtain ⟨going, kept⟩ := course.kept index moment member
  have nonzero := Config.interval_ne_zero valid
  rw [kept.config] at nonzero ⊢
  exact ⟨Moment.starts_of_arms going (kept.gate.kind.symm.trans signal) nonzero,
    Moment.keeps_of_unarmed going⟩

/-- Documents and the environment give whole microseconds, and few enough. So whoever reads the
settings from there gets a timer that runs; an interval that stops the timer or ends the process
can only have been set by the program. -/
theorem Config.ofDocuments_drives {environment : Environment}
    {documents : Option (List Yaml.Node)} {config : Config}
    (read : ofDocuments environment documents = .ok config) : config.timerInterval.Drives := by
  have of_section {options : Yaml.Node} (read : ofSection environment options = .ok config) :
      config.timerInterval.Drives := by
    obtain ⟨settings, valid⟩ := ofSection_ok read
    have nonzero := interval_ne_zero valid
    have yields := Key.read_iff.mp (settings .timerInterval)
    rw [setting] at yields
    generalize config.timerInterval = interval at nonzero yields ⊢
    generalize Key.timerInterval.noticed environment options = given at yields
    cases yields with
    | standard => exact Duration.drives_iff.mpr (by decide)
    | timerInterval => exact Duration.drives_ofMicros nonzero
  unfold ofDocuments at read
  split at read
  · cases read
  · split at read
    · exact of_section read
    · cases read
    · cases read
  · cases read

/-- A context with one runtime, whose gate is driven by signals, with the given interval. -/
def paced (interval : Duration) : Machine 1 0 Unit Nat :=
  .start #v[.new { Config.standard with timerInterval := interval } (.new .signal Gate.never)] ()

theorem Course.paced (interval : Duration) : Course [] (paced interval) := by
  refine .start (fun index => ?_) ()
  match index with
  | 0 => exact ⟨_, _, _, rfl⟩

/-- The context makes a thread and hands the processor to it. -/
def handing : List (Move 1 0 Unit Nat) :=
  Move.calling (.create sole ()) 5 ++ Move.calling (.yield sole) 2

/-- Half a microsecond. -/
def Duration.brief : Duration := { seconds := 0, nanos := 500 }

/-- The least number of seconds that is negative to the timer. -/
def Duration.endless : Duration := .ofParts 9223372036854775808 0

/-- An activation and a decision have started the timer twice. With the standard interval it
runs, half a microsecond stops it each time, and with 2 ^ 63 seconds the first start ends the
process, although all three intervals pass the check of settings. -/
theorem starts_timer_handing :
    ((∀ moment ∈ trail [] (paced (.ofMillis 15)) handing, moment.Timed sole (.ofMillis 15)) ∧
      (((paced (.ofMillis 15)).play handing).runtime sole).gate.arming = (2, .ofMillis 15) ∧
      Timer.set? (Gate.period (.ofMillis 15)) = some (.running 0 15000)) ∧
    ((∀ moment ∈ trail [] (paced .brief) handing, moment.Timed sole .brief) ∧
      (((paced .brief).play handing).runtime sole).gate.arming = (2, .brief) ∧
      Timer.set? (Gate.period .brief) = some .stopped) ∧
    (∀ moment ∈ trail [] (paced .endless) (Move.calling (.create sole ()) 2),
      moment.Timed sole .endless) ∧
    ((paced .endless).play (Move.calling (.create sole ()) 2)).outcome =
      some (.aborted (.gate Gate.unarmed)) := by
  have usual := (Course.paced (.ofMillis 15)).play handing (by decide)
  have brief := (Course.paced .brief).play handing (by decide)
  have endless := (Course.paced .endless).play (Move.calling (.create sole ()) 2) (by decide)
  exact ⟨⟨usual.starts_timer rfl rfl, rfl, rfl⟩, ⟨brief.starts_timer rfl rfl, rfl, rfl⟩,
    endless.starts_timer rfl rfl, rfl⟩

end UserThreads
