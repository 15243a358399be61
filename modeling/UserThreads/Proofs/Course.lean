import UserThreads.Proofs.Contexts
import UserThreads.Proofs.Fixtures

/-!
Courses of programs that use many runtimes on one OS thread: any thread may turn to any
runtime that has not been given up, and thread 0 of a runtime may give it up.
-/

namespace UserThreads

variable {n k : Nat} {C ν : Type}

/-- The call can be made: the runtime that it works on has not been given up, and only its
thread 0 gives it up. -/
def Call.Reaches (machine : Machine n k C ν) : Call n k C ν → Prop
  | .create runtime _ | .yield runtime | .exit runtime _ | .join runtime _
  | .tryJoin runtime _ | .current runtime | .numReady runtime | .numCompleted runtime
  | .passGate runtime | .lock runtime _ | .unlock runtime _ | .destroy runtime _ =>
      (machine.runtime runtime).live = true
  | .dropRuntime runtime =>
      (machine.runtime runtime).live = true ∧ (machine.runtime runtime).current = .main
  | .init _ | .dropMutex _ => True

instance (machine : Machine n k C ν) :
    (request : Call n k C ν) → Decidable (request.Reaches machine)
  | .create .. | .yield _ | .exit .. | .join .. | .tryJoin .. | .current _ | .numReady _
  | .numCompleted _ | .passGate _ | .lock .. | .unlock .. | .destroy .. =>
      inferInstanceAs (Decidable (_ = true))
  | .dropRuntime _ => inferInstanceAs (Decidable (_ ∧ _))
  | .init _ | .dropMutex _ => inferInstanceAs (Decidable True)

/-- Own code moves where it runs, on the runtimes that there are, and the library works
everywhere else. -/
def Move.Suits (machine : Machine n k C ν) : Move n k C ν → Prop
  | .work => machine.inOwnCode = false
  | .ask request => machine.inOwnCode = true ∧ request.Reaches machine
  | .think _ | .leave _ | .panic => machine.inOwnCode = true

instance (machine : Machine n k C ν) : (move : Move n k C ν) → Decidable (move.Suits machine)
  | .work | .think _ | .leave _ | .panic => inferInstanceAs (Decidable (_ = _))
  | .ask _ => inferInstanceAs (Decidable (_ ∧ _))

/-- The runs of programs with any number of runtimes, all of which begin without threads. -/
inductive Course : List (Moment n k C ν) → Machine n k C ν → Prop
  | start {runtimes : Vector (Runtime n k C ν) n}
      (fresh : ∀ index, ∃ config kind plan, runtimes.get index = .new config (.new kind plan))
      (code : C) : Course [] (.start runtimes code)
  | move {past : List (Moment n k C ν)} {machine : Machine n k C ν} {move : Move n k C ν}
      (course : Course past machine) (going : machine.outcome = none)
      (suits : move.Suits machine) : Course (⟨machine, move⟩ :: past) (machine.make move)

/-- Whether the given moves can be made one after the other. -/
def Machine.permits (machine : Machine n k C ν) : List (Move n k C ν) → Bool
  | [] => true
  | move :: moves => machine.outcome.isNone && decide (move.Suits machine) &&
      (machine.make move).permits moves

theorem Course.play {past : List (Moment n k C ν)} {machine : Machine n k C ν}
    (course : Course past machine) (moves : List (Move n k C ν))
    (permitted : machine.permits moves = true) :
    Course (trail past machine moves) (machine.play moves) := by
  induction moves generalizing past machine with
  | nil => exact course
  | cons move moves ih =>
      simp only [Machine.permits, Bool.and_eq_true, Option.isNone_iff_eq_none,
        decide_eq_true_eq] at permitted
      exact ih (course.move permitted.1.1 permitted.1.2) permitted.2

theorem Move.Suits.own {machine : Machine n k C ν} {move : Move n k C ν}
    (suits : move.Suits machine) (own : move ≠ .work) : machine.inOwnCode = true := by
  cases move with
  | work => exact absurd rfl own
  | ask => exact suits.1
  | think | leave | panic => exact suits

/-- Installs the gate and starts its timer. -/
def Gate.start (gate : Gate) (interval : Duration) : Except Failure Gate :=
  match gate.install with
  | .error failure => .error failure
  | .ok gate => gate.arm interval

theorem Gate.silent_of_uninstalled {gate : Gate} (uninstalled : gate.installed = false) :
    gate.close.2 = false := by
  simp only [close, uninstalled]
  split <;> rfl

/-- Work that neither sets a runtime up nor gives one up. -/
def Action.ordinary : Action n k C ν → Bool
  | .enroll .. | .dropRuntime _ | .deactivate _ | .discard _ => false
  | _ => true

/-- The entry of the thread that is to be made, and the runtime that it is made on. -/
def Action.makes? : Action n k C ν → Option (Fin n × C)
  | .enroll index entry | .issue index entry => some (index, entry)
  | _ => none

variable {action : Action n k C ν} {parking : Option (Fin k)}

theorem Action.ordinary_keeps (ordinary : action.ordinary = true) :
    action.surrenders = false ∧ action.renews? = none := by
  cases action <;> first | exact ⟨rfl, rfl⟩ | cases ordinary

namespace Machine

/-- A piece of work brings in ordinary work alone, and makes no threads but its own. -/
theorem perform_pushes (before : Machine n k C ν)
    (apart : ∀ index parking, action ≠ .schedule index parking)
    (keeping : action.surrenders = false) :
    ∃ pushed, (before.perform action).todo = pushed ++ before.todo ∧
      ∀ piece ∈ pushed, piece.ordinary = true ∧
        (piece.makes? = none ∨ piece.makes? = action.makes?) := by
  cases action with
  | schedule index parking => exact absurd rfl (apart index parking)
  | dropRuntime | deactivate | discard => cases keeping
  | reap | tryReap =>
      simp only [perform, tryReaping, reapOnce]
      split
      · exact ⟨_, rfl, by simp [Action.ordinary, Action.makes?]⟩
      · obtain ⟨_, _, _, rfl, _, _⟩ := reap_eq ‹_›
        split
        · exact ⟨[], rfl, by simp⟩
        · exact ⟨_, rfl, by simp [Action.ordinary, Action.makes?]⟩
  | handOn | wakeAll =>
      simp only [perform, handOn, wakeAll, popWaiter, wake]
      split <;> obtain ⟨-, rfl⟩ := Prod.mk.inj ‹_›
      all_goals repeat' split
      all_goals exact ⟨_, rfl, by simp [Action.ordinary, Action.makes?]⟩
  | close | reopen | timer | begin | enter | enroll | issue | finish | initMutex | lock | claim
  | claimAgain | woken | unlock | destroy | drain | dropMutex =>
      simp only [perform, closeGate, reopenGate, enterTimer, begin, enter, enroll, activate,
        issue, finish, exitProcess, initMutex, lock, claim, claimAgain, blockCurrent, woken,
        unlock, destroy, drain, dropMutex, refuseUse]
      repeat' split
      all_goals first
        | exact ⟨[], rfl, by simp⟩
        | exact ⟨_, rfl, by simp [Action.ordinary, Action.makes?]⟩
  | reply | closed | reopened | readCurrent | resumed => exact ⟨[], rfl, by simp⟩
  | own | countReady | countCompleted | acquire | refuseUnlock | releaseDestroyed | refuse =>
      exact ⟨_, rfl, by simp [Action.ordinary, Action.makes?]⟩

/-- The timer does not come in unless it is due. -/
theorem closeGate_silent (before : Machine n k C ν) {index : Fin n}
    (silent : (before.runtime index).gate.close.2 = false) :
    before.closeGate index = before.setGate index (before.runtime index).gate.close.1 := by
  unfold closeGate
  split <;> rename_i closing <;> rw [closing] at silent ⊢
  cases silent

theorem reopenGate_quiet (before : Machine n k C ν) {index : Fin n}
    (quiet : (before.runtime index).gate.afterOpening = 0) :
    before.reopenGate index = before.setGate index (before.runtime index).gate.reopen.1 := by
  unfold reopenGate
  split <;> rename_i reopening
  · cases (Gate.reopen_quietly quiet reopening).1
  · rw [reopening]

/-- The machine once the runtime `index`, whose gate has been started, drives it. -/
def activated (before : Machine n k C ν) (index : Fin n) (gate : Gate) : Machine n k C ν :=
  let driven := before.setRuntime index { before.runtime index with
    gate, scheduler := some (.start (.main ⟨before.todo, before.code⟩)), current := .main }
  { driven with active := some index }

theorem runtime_activated (before : Machine n k C ν) (index other : Fin n) (gate : Gate) :
    (before.activated index gate).runtime other =
      if index = other then { before.runtime index with
        gate, scheduler := some (.start (.main ⟨before.todo, before.code⟩)), current := .main }
      else before.runtime other := before.runtime_setRuntime index other _

theorem readyOn_setRuntime (before : Machine n k C ν) {index other : Fin n}
    {runtime : Runtime n k C ν} (nobody : ∀ scheduler, runtime.scheduler = some scheduler →
      scheduler.ready.elements = []) {block : Block (Context n k C ν) ν}
    (member : block ∈ (before.setRuntime index runtime).readyOn other) :
    block ∈ before.readyOn other := by
  rw [readyOn, runtime_setRuntime] at member
  split at member
  · cases member
  · rename_i scheduler seated
    split at seated
    · rw [nobody scheduler seated] at member
      cases member
    · exact readyOn_eq seated ▸ member

theorem readyOn_activated (before : Machine n k C ν) {index other : Fin n} {gate : Gate}
    {block : Block (Context n k C ν) ν}
    (member : block ∈ (before.activated index gate).readyOn other) :
    block ∈ before.readyOn other := by
  refine before.readyOn_setRuntime ?_ member
  rintro scheduler ⟨⟩
  rfl

/-- A runtime is activated unless its gate cannot be installed or its timer not be started. -/
theorem activate_eq (before : Machine n k C ν) (index : Fin n) :
    match (before.runtime index).gate.start (before.runtime index).config.timerInterval with
    | .ok gate => ∃ log, before.activate index = { before.activated index gate with log }
    | .error failure => ∃ log, before.activate index =
        { before with log, outcome := some (.aborted (.gate failure)) } := by
  simp only [Gate.start, activate]
  cases (before.runtime index).gate.install with
  | error failure => exact ⟨_, rfl⟩
  | ok gate =>
      dsimp only
      cases gate.arm (before.runtime index).config.timerInterval with
      | error failure => exact ⟨_, rfl⟩
      | ok gate => exact ⟨_, rfl⟩

end Machine

/-- What a machine that goes on comes to when a thread is to be made on the runtime `index`. -/
inductive Enrolls (index : Fin n) (entry : C) (before after : Machine n k C ν) : Prop
  | enrolled (present : (before.runtime index).scheduler.isSome = true)
      (same : after = before.push [.issue index entry])
  | refused (absent : (before.runtime index).scheduler = none)
      (driven : before.active.isSome = true)
      (same : after = (before.report .otherRuntimeActive).finishWith index
        (.failed ⟨Failure.busy, .otherRuntimeActive⟩))
  | activated {gate : Gate} {log : List LogEvent}
      (absent : (before.runtime index).scheduler = none) (idle : before.active = none)
      (starts : (before.runtime index).gate.start (before.runtime index).config.timerInterval =
        .ok gate)
      (same : after = Machine.push { before.activated index gate with log } [.issue index entry])

namespace Machine

theorem enroll_cases (before : Machine n k C ν) {index : Fin n} {entry : C}
    (goes : (before.enroll index entry).outcome = none) :
    Enrolls index entry before (before.enroll index entry) := by
  unfold enroll at goes ⊢
  split
  · rename_i present
    exact .enrolled present rfl
  · rename_i absent
    rw [if_neg absent] at goes
    have absent := Option.not_isSome_iff_eq_none.mp absent
    split
    · rename_i driven
      exact .refused absent driven rfl
    · rename_i idle
      rw [if_neg idle] at goes
      have idle := Option.not_isSome_iff_eq_none.mp idle
      have activates := before.activate_eq index
      split at activates
      · rename_i starts
        obtain ⟨log, activates⟩ := activates
        exact .activated absent idle starts (congrArg (push · _) activates)
      · obtain ⟨log, activates⟩ := activates
        rw [activates] at goes
        cases goes

/-- The machine once the runtime `index` has been given up. -/
def freed (before : Machine n k C ν) (index : Fin n) : Machine n k C ν :=
  before.setRuntime index { before.runtime index with scheduler := none, live := false }

theorem readyOn_freed (before : Machine n k C ν) {index other : Fin n}
    {block : Block (Context n k C ν) ν} (member : block ∈ (before.freed index).readyOn other) :
    block ∈ before.readyOn other := by
  refine before.readyOn_setRuntime ?_ member
  rintro scheduler ⟨⟩

theorem discard_eq (before : Machine n k C ν) (index : Fin n) :
    before.discard index = push { before.freed index with
      log := if (before.runtime index).current = .main then before.log
        else .runtimeLeaked (before.runtime index).current :: before.log } [.reply .done] := by
  simp only [discard]
  split <;> rfl

theorem schedule_others (before : Machine n k C ν) {index other : Fin n}
    (parking : Option (Fin k)) (apart : other ≠ index) :
    (before.schedule index parking).runtime other = before.runtime other := by
  have parked (waiting : Option (WaitQueue (Context n k C ν) ν)) :
      (before.setWaiters parking waiting).runtime = before.runtime :=
    (before.setWaiters_frame parking waiting).1
  have others (runtime : Runtime n k C ν) (waiting : Option (WaitQueue (Context n k C ν) ν)) :
      ((before.setWaiters parking waiting).setRuntime index runtime).runtime other =
        before.runtime other := by
    rw [runtime_setRuntime, if_neg apart.symm, parked]
  simp only [schedule]
  split
  · rfl
  · split
    · rfl
    · split
      · exact others _ _
      · split
        · exact congrFun (parked _) other
        · split <;> exact others _ _

end Machine

/-- What a decision on the runtime `index` does to a machine with any number of runtimes. -/
inductive Rescheduled (index : Fin n) (parking : Option (Fin k)) (before after : Machine n k C ν) :
    Prop
  | idle (absent : (before.runtime index).scheduler = none) (same : after = before)
  | turns {scheduler : Scheduler (Context n k C ν) ν} {rotation : Rotation (Context n k C ν) ν}
      (present : (before.runtime index).scheduler = some scheduler)
      (decides : (before.save scheduler).Decides (before.waiters? parking) rotation)
      (scheduled : Machine.Scheduled index parking before rotation after)
      (others : ∀ other, other ≠ index → after.runtime other = before.runtime other)
      (resumes : (⟨after.todo, after.code⟩ : Context n k C ν) = match rotation.switch with
        | none => ⟨before.todo, before.code⟩
        | some switch =>
            if switch.outgoing = switch.incoming then ⟨before.todo, before.code⟩
            else rotation.scheduler.current.context)

theorem Machine.schedule_cases (before : Machine n k C ν) {index : Fin n}
    (goes : (before.schedule index parking).outcome = none) :
    Rescheduled index parking before (before.schedule index parking) := by
  cases present : (before.runtime index).scheduler with
  | none => exact .idle present (before.schedule_of_none present)
  | some scheduler =>
      obtain ⟨rotation, rotated, scheduled⟩ := before.schedule_rotated present goes
      refine .turns present (Scheduler.decides_of_rotate rotated) scheduled
        (fun other => before.schedule_others parking) ?_
      rw [before.schedule_code present rotated goes]
      cases decided : rotation.switch with
      | none => exact congrArg (Context.mk · _) (scheduled.stayed decided).2
      | some switch =>
          rw [(scheduled.switched switch decided).2]
          dsimp only
          split <;> rfl

/-- Whoever runs after a decision ran before it, or was in line. -/
theorem Rescheduled.resumed {index : Fin n} {before after : Machine n k C ν}
    (turn : Rescheduled index parking before after) :
    after.todo = before.todo ∧ after.code = before.code ∨
      ∃ block ∈ before.readyOn index,
        after.todo = block.context.todo ∧ after.code = block.context.code := by
  cases turn with
  | idle absent same => exact .inl ⟨congrArg _ same, congrArg _ same⟩
  | turns present decides scheduled others resumes =>
      rw [Machine.readyOn_eq present]
      have same {context : Context n k C ν} (resumes : ⟨after.todo, after.code⟩ = context) :
          after.todo = context.todo ∧ after.code = context.code :=
        ⟨congrArg Context.todo resumes, congrArg Context.code resumes⟩
      split at resumes
      · exact .inl (same resumes)
      · split at resumes
        · exact .inl (same resumes)
        · rcases decides.seated List.mem_cons_self with ready | filed
          · exact .inr ⟨_, ready, same resumes⟩
          · exact .inl (same (resumes.trans filed.context))

/-- The first of two runtimes. -/
def former : Fin 2 := ⟨0, Nat.zero_lt_two⟩

/-- The second of two runtimes. -/
def latter : Fin 2 := ⟨1, Nat.one_lt_two⟩

/-- A context with two runtimes and one mutex. The first runtime has the settings `config`
and the gate of the second one is of the kind `kind`. -/
def paired (config : Config) (kind : GateKind) (code : C) : Machine 2 1 C Nat :=
  .start #v[.new config (.new .cooperative Gate.never), .new .standard (.new kind Gate.never)] code

theorem Course.paired (config : Config) (kind : GateKind) (code : C) :
    Course [] (paired config kind code) := by
  refine .start (fun index => ?_) code
  match index with
  | 0 | 1 => exact ⟨_, _, _, rfl⟩

end UserThreads
