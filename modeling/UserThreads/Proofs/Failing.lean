import UserThreads.Proofs.Contexts
import UserThreads.Proofs.Destruction

/-!
Locks that fail: whoever is parked on a mutex when it is destroyed has nothing left but to
report it, in a bounded number of moves none of which touches the mutex.
-/

namespace UserThreads

variable {n k : Nat} {C ν : Type} {home : Fin n} {mutex : Fin k} {me thread : ThreadId}
  {past since older : List (Moment n k C ν)} {mark : Moment n k C ν} {machine : Machine n k C ν}
  {rest : List (Action n k C ν)} {context : Context n k C ν}
  {block : Block (Context n k C ν) ν}

theorem Left.alive {todo : List (Action n k C ν)} (left : Left home machine thread todo) :
    ∃ context, Alive home machine thread context ∧ context.todo = todo := by
  cases left with
  | runnable runnable =>
      cases runnable with
      | running => exact ⟨_, .running, rfl⟩
      | ready member => exact ⟨_, .ready member, rfl⟩
  | parked member => exact ⟨_, .parked member, rfl⟩

/-- By this move a call of destroy marks the mutex, which was usable until then. -/
structure Moment.Marks (home : Fin n) (mutex : Fin k) (moment : Moment n k C ν) : Prop where
  head : moment.machine.todo.head? = some (.destroy home mutex)
  usable : (moment.machine.cells mutex).status = .initialized

/-- A run in which the mutex was marked as destroyed and was not initialized since. -/
structure DestroyMarked (home : Fin n) (mutex : Fin k) (since : List (Moment n k C ν))
    (mark : Moment n k C ν) (older : List (Moment n k C ν)) (machine : Machine n k C ν) :
    Prop where
  run : Run home (since ++ mark :: older) machine
  marks : mark.Marks home mutex
  kept : ∀ moment ∈ since, moment.revives mutex = false

/-- The mutex is being marked as destroyed. -/
structure Marking (home : Fin n) (mutex : Fin k) (mark : Moment n k C ν)
    (older : List (Moment n k C ν)) : Prop where
  run : Run home older mark.machine
  going : mark.machine.outcome = none
  works : mark.move = .work
  todo : ∃ rest, mark.machine.todo = .destroy home mutex :: rest
  usable : (mark.machine.cells mutex).status = .initialized
  goes : mark.after.outcome = none

/-- A move is made on a mutex that was marked as destroyed. -/
structure MoveOnMarked (home : Fin n) (mutex : Fin k) (since : List (Moment n k C ν))
    (mark : Moment n k C ν) (older : List (Moment n k C ν)) (moment : Moment n k C ν) :
    Prop where
  onward : DestroyMarked home mutex since mark older moment.machine
  going : moment.machine.outcome = none
  fits : moment.move.Fits home moment.machine
  goes : moment.after.outcome = none
  keeps : moment.revives mutex = false

namespace Marking

variable (marking : Marking home mutex mark older)

include marking

theorem fits : mark.move.Fits home mark.machine := by
  obtain ⟨rest, todo⟩ := marking.todo
  rw [marking.works]
  exact Machine.inOwnCode_eq todo

theorem pending : pending? mutex mark.machine.todo = some (.destroy home mutex) := by
  obtain ⟨rest, todo⟩ := marking.todo
  have concerned : (Action.destroy home mutex : Action n k C ν).concerns mutex = true :=
    beq_self_eq_true mutex
  exact todo ▸ pending_head concerned

/-- Whoever marks the mutex releases it next if it is the owner, and else waits for it. -/
theorem handles : ∃ rest pushed, mark.after.todo = pushed ++ rest ∧ pending? mutex rest = none ∧
    Handles home mutex (mark.thread home) (mark.machine.cells mutex) (.destroy home mutex)
      (mark.after.cells mutex) pushed := by
  have fits := marking.fits
  obtain ⟨run, going, works, ⟨behind, todo⟩, usable, goes⟩ := marking
  obtain ⟨marked, move⟩ := mark
  subst works
  cases (run.sound going).works going fits goes mutex with
  | decides other => cases todo.symm.trans other
  | aside other apart elsewhere =>
      cases todo.symm.trans other
      simp [Action.concerns] at elsewhere
  | handles other concerned errand serves asked handles becomes left =>
      cases todo.symm.trans other
      exact ⟨_, _, left, pending_behind mutex asked, becomes ▸ handles⟩

theorem cells :
    mark.after.cells mutex = { mark.machine.cells mutex with status := .destroyed } := by
  obtain ⟨rest, pushed, -, -, handles⟩ := marking.handles
  generalize mark.after.cells mutex = after at handles
  cases handles with
  | destroyOwned | destroy => rfl
  | destroyRefused unusable => exact absurd marking.usable unusable

end Marking

namespace DestroyMarked

/-- What holds once the mutex is marked, and is kept by each move after that, holds from
then on. -/
theorem induct {P : List (Moment n k C ν) → Machine n k C ν → Prop}
    (begins : Marking home mutex mark older → P [] mark.after)
    (goes : ∀ since moment, MoveOnMarked home mutex since mark older moment →
      P since moment.machine → P (moment :: since) moment.after)
    (onward : DestroyMarked home mutex since mark older machine) (going : machine.outcome = none) :
    P since machine := by
  obtain ⟨run, marks, kept⟩ := onward
  induction since generalizing machine with
  | nil =>
      cases run with
      | @move _ machine move run before fits =>
          obtain ⟨rest, todo⟩ := List.head?_eq_some_iff.mp marks.head
          exact begins ⟨run, before, fits.works todo rfl, ⟨rest, todo⟩, marks.usable, going⟩
  | cons moment since ih =>
      cases run with
      | @move _ machine move run before fits =>
          have earlier := fun other member => kept other (List.mem_cons_of_mem _ member)
          exact goes since ⟨machine, move⟩ ⟨⟨run, marks, earlier⟩, before, fits, going,
            kept _ List.mem_cons_self⟩ (ih before run earlier)

theorem destroyed (onward : DestroyMarked home mutex since mark older machine)
    (going : machine.outcome = none) : (machine.cells mutex).status = .destroyed := by
  refine onward.induct (P := fun _ machine => (machine.cells mutex).status = .destroyed)
    (fun marking => ?_) ?_ going
  · rw [marking.cells]
  · rintro since ⟨before, move⟩ ⟨onward, going, fits, goes, keeps⟩ destroyed
    have sound := onward.run.sound going
    by_cases library : move = .work
    · subst library
      change (before.step.cells mutex).status = _
      cases sound.works going fits goes mutex with
      | decides todo cells => exact cells.status.trans destroyed
      | aside todo apart elsewhere cells => exact cells ▸ destroyed
      | handles todo concerned errand serves asked handles becomes =>
          rw [becomes]
          exact handles.destroyed (Moment.vain keeps todo) destroyed
    · change ((before.make move).cells mutex).status = _
      rw [(sound.speaks fits library goes mutex).mutexes]
      exact destroyed

end DestroyMarked

/-- What a thread has left of a lock that fails because the mutex was destroyed, with a bound
on its moves up to its own code. -/
inductive Failing (home : Fin n) (mutex : Fin k) (me : ThreadId) (rest : List (Action n k C ν)) :
    Nat → List (Action n k C ν) → Prop
  | waking : Failing home mutex me rest 10 (.reopen home :: .woken home mutex me :: rest)
  | woken : Failing home mutex me rest 9 (.woken home mutex me :: rest)
  | close : Failing home mutex me rest 8 (.close home :: .refuse home "lock" .destroyed :: rest)
  | timer : Failing home mutex me rest 7
      (.timer :: .closed home :: .refuse home "lock" .destroyed :: rest)
  | timerCloses : Failing home mutex me rest 6
      (.close home :: .schedule home none :: .closed home ::
        .refuse home "lock" .destroyed :: rest)
  | timerSchedules : Failing home mutex me rest 5
      (.schedule home none :: .closed home :: .refuse home "lock" .destroyed :: rest)
  | closed : Failing home mutex me rest 4 (.closed home :: .refuse home "lock" .destroyed :: rest)
  | refuse : Failing home mutex me rest 3 (.refuse home "lock" .destroyed :: rest)
  | leaving : Failing home mutex me rest 2
      (.reopen home :: .reply (.failed ⟨Failure.busy, .mutexNotInitialized .destroyed⟩) :: rest)
  | replying : Failing home mutex me rest 1
      (.reply (.failed ⟨Failure.busy, .mutexNotInitialized .destroyed⟩) :: rest)

/-- The timer that closes the gate finds it closed. -/
theorem stage_interrupted {errand : Option (Move n k C ν)} {closed : Bool}
    {behind : List (Action n k C ν)}
    (stage : Stage home me errand closed
      (.close home :: .schedule home none :: .closed home :: behind)) : closed = true := by
  generalize shape : Action.close home :: .schedule home none :: .closed home :: behind = todo
    at stage
  cases stage with
  | initial | own | begin | beginning | enter => cases shape
  | guarded asked doing way =>
      cases way with
      | close => cases doing <;> cases shape
      | timerCloses => rfl
      | timer | timerSchedules | closed => cases shape
      | through => cases doing <;> cases shape
  | piece asked doing => cases doing <;> cases shape

namespace Failing

variable {rank : Nat}

theorem foreign (failing : Failing home mutex me rest rank machine.todo) :
    ∃ action behind, machine.todo = action :: behind ∧ action.isOwn = false := by
  generalize machine.todo = todo at failing
  cases failing <;> exact ⟨_, _, rfl, rfl⟩

/-- Only the reply leads back to own code, and it is the last move. -/
theorem early (failing : Failing home mutex me rest rank machine.todo)
    (asked : Errand home (.ask (.lock home mutex)) rest) (going : machine.outcome = none)
    (away : machine.step.inOwnCode = false) : 1 < rank := by
  generalize left : machine.todo = todo at failing
  cases failing with
  | replying =>
      have back : machine.step.todo = rest := by
        rw [Machine.step_eq going left]
        rfl
      cases asked <;> simp [Machine.inOwnCode, back, Action.isOwn] at away
  | _ => decide

/-- A lock that fails does nothing to the mutex. -/
theorem spares (failing : Failing home mutex (machine.thread home) rest rank machine.todo)
    (sound : Sound home past machine) (going : machine.outcome = none)
    (library : machine.inOwnCode = false) (goes : machine.step.outcome = none)
    (destroyed : (machine.cells mutex).status = .destroyed) :
    Machine.SameCells mutex machine machine.step := by
  cases sound.works going library goes mutex with
  | decides todo cells => exact cells
  | aside todo apart elsewhere cells => constructor <;> rw [cells]
  | @handles action _ _ _ _ todo concerned errand serves asked handles becomes =>
      -- All that it does with the mutex is to look whether it is still usable.
      obtain rfl : action = .woken home mutex (machine.thread home) := by
        rw [todo] at failing
        cases failing <;> first | rfl | cases concerned
      cases handles with
      | woken usable => exact absurd (usable.symm.trans destroyed) (by decide)
      | wokenRefused => constructor <;> rw [becomes]

/-- What is left after the next move, unless that is a decision. -/
theorem step (failing : Failing home mutex (machine.thread home) rest rank machine.todo)
    (run : Run home past machine) (going : machine.outcome = none)
    (destroyed : (machine.cells mutex).status = .destroyed)
    (apart : ∀ parking behind, machine.todo ≠ .schedule home parking :: behind)
    (more : 1 < rank) :
    ∃ fewer, fewer < rank ∧ Failing home mutex (machine.thread home) rest fewer
      machine.step.todo := by
  have sound := run.sound going
  generalize left : machine.todo = todo at failing
  cases failing with
  | waking => exact ⟨9, by decide, (run.reopens going left mutex).2.1 ▸ .woken⟩
  | leaving => exact ⟨1, by decide, (run.reopens going left mutex).2.1 ▸ .replying⟩
  | replying => exact absurd more (by decide)
  | timerSchedules => exact absurd left (apart _ _)
  | woken =>
      have refused : machine.step.todo = .close home :: .refuse home "lock" .destroyed :: rest := by
        rw [Machine.step_eq going left]
        simp only [Machine.perform, Machine.woken, Machine.cells_withTodo, destroyed,
          Machine.refuseUse]
        rfl
      exact ⟨8, by decide, refused ▸ .close⟩
  | close =>
      rw [Machine.step_eq going left]
      rcases (machine.withTodo (.refuse home "lock" .destroyed :: rest)).closeGate_cases home with
        ⟨-, same | ⟨-, fired⟩⟩
      · exact ⟨3, by decide, same ▸ .refuse⟩
      · exact ⟨7, by decide, fired ▸ .timer⟩
  | timerCloses =>
      have shut := stage_interrupted (left ▸ sound.stage)
      rw [Machine.step_eq going left]
      rcases (machine.withTodo (.schedule home none :: .closed home ::
        .refuse home "lock" .destroyed :: rest)).closeGate_cases home with
        ⟨-, same | ⟨opened, -⟩⟩
      · exact ⟨5, by decide, same ▸ .timerSchedules⟩
      · exact absurd (shut.symm.trans opened) (by decide)
  | timer =>
      rw [Machine.step_eq going left]
      simp only [Machine.perform, Machine.enterTimer]
      split
      · exact ⟨4, by decide, .closed⟩
      · rename_i index driven
        cases sound.driven index driven
        exact ⟨6, by decide, .timerCloses⟩
  | closed =>
      rw [Machine.step_eq going left]
      exact ⟨3, by decide, .refuse⟩
  | refuse =>
      rw [Machine.step_eq going left]
      exact ⟨2, by decide, .leaving⟩

/-- Whoever fails keeps failing, and comes closer to its own code by each move. -/
theorem next (failing : Failing home mutex (machine.thread home) rest rank machine.todo)
    (asked : Errand home (.ask (.lock home mutex)) rest) (run : Run home past machine)
    (going : machine.outcome = none) (goes : machine.step.outcome = none)
    (destroyed : (machine.cells mutex).status = .destroyed)
    (away : machine.step.inOwnCode = false)
    (alive : Alive home machine.step (machine.thread home) context) :
    ∃ fewer, fewer < rank ∧ Failing home mutex (machine.thread home) rest fewer context.todo := by
  have sound := run.sound going
  obtain ⟨action, behind, todo, foreign⟩ := failing.foreign
  have library : Move.Fits home machine .work := (Machine.inOwnCode_eq todo).trans foreign
  by_cases decides : ∃ parking behind, machine.todo = .schedule home parking :: behind
  · obtain ⟨parking, behind, todo⟩ := decides
    have evolves : Evolves home machine .work (machine.thread home) context :=
      sound.evolves going library goes alive
    cases evolves with
    | acts stays => exact absurd todo (stays rfl parking behind)
    | waits alive other => exact absurd rfl other
    | begins working issues => cases todo.symm.trans issues
    | pauses working same =>
        rw [same] at failing
        cases failing with
        | timerSchedules => exact ⟨4, by decide, .closed⟩
  · have apart (parking : Option (Fin k)) (same : action = .schedule home parking) : False :=
      decides ⟨parking, behind, same ▸ todo⟩
    obtain ⟨later, stays⟩ := sound.proceeds going todo apart library goes
    have same := later.alive_running (stays.thread.symm ▸ alive : Alive home machine.step _ context)
    rw [same]
    exact failing.step run going destroyed (fun _ _ left => decides ⟨_, _, left⟩)
      (failing.early asked going away)

end Failing

/-- How many of the moves the thread has made. -/
def turns (home : Fin n) (thread : ThreadId) (moments : List (Moment n k C ν)) : Nat :=
  moments.countP fun moment => decide (moment.thread home = thread)

/-- The thread has not come back to its own code, and has left the mutex to others. -/
def Unanswered (home : Fin n) (mutex : Fin k) (thread : ThreadId)
    (moments : List (Moment n k C ν)) : Prop :=
  ∀ moment ∈ moments, moment.thread home = thread →
    Machine.SameCells mutex moment.machine moment.after ∧ moment.after.inOwnCode = false

/-- The thread's call of lock, which it had made `before`, has been refused by this move. -/
structure Moment.Refuses (home : Fin n) (mutex : Fin k) (thread : ThreadId)
    (before : List (Moment n k C ν)) (moment : Moment n k C ν) : Prop where
  makes : moment.thread home = thread
  errand : errand? home thread before = some (.ask (.lock home mutex))
  spares : Machine.SameCells mutex moment.machine moment.after
  answers : moment.Answers (.failed ⟨Failure.busy, .mutexNotInitialized .destroyed⟩)

/-- The thread's call of lock, which it had made `before`, was refused within ten moves of
its own, of which none has claimed the mutex or changed its owner. -/
def Answered (home : Fin n) (mutex : Fin k) (thread : ThreadId) (before : List (Moment n k C ν)) :
    List (Moment n k C ν) → Prop :=
  Since (fun returning moments => Unanswered home mutex thread moments ∧
    turns home thread moments < 10 ∧ returning.Refuses home mutex thread (moments ++ before))
    fun _ => True

/-- The thread's call of lock, which it had made `before`, is refused within ten moves of
its own, of which none claims the mutex or changes its owner. -/
inductive Refused (home : Fin n) (mutex : Fin k) (thread : ThreadId)
    (before moments : List (Moment n k C ν)) : Prop
  | underway (waits : Unanswered home mutex thread moments) (few : turns home thread moments < 10)
  | answered (answered : Answered home mutex thread before moments)

/-- Whoever is parked on a mutex is in the middle of a call of lock. -/
theorem Sound.parked_waking (sound : Sound home past machine)
    (member : block ∈ machine.parkedOn mutex) :
    errand? home block.id past = some (.ask (.lock home mutex)) ∧
      ∃ rest, Errand home (.ask (.lock home mutex)) rest ∧
        block.context.todo = .reopen home :: .woken home mutex block.id :: rest := by
  cases present : (machine.runtime home).scheduler with
  | none =>
      rw [(sound.unpopulated present).parked] at member
      cases member
  | some scheduler =>
      have parkedAt := (sound.populated scheduler present).parked mutex block member
      obtain ⟨-, move, errand, resumes⟩ := stage_resumes parkedAt.stage
      generalize block.context.todo = todo at resumes
      cases resumes with
      | waking asked => exact ⟨errand, _, asked, rfl⟩

/-- The thread has only its failure left, up to which not many of its moves are missing. -/
structure Refusing (home : Fin n) (mutex : Fin k) (me : ThreadId) (rest : List (Action n k C ν))
    (before moments : List (Moment n k C ν)) (machine : Machine n k C ν) : Prop where
  waits : Unanswered home mutex me moments
  few : turns home me moments < 10
  errand : errand? home me (moments ++ before) = some (.ask (.lock home mutex))
  left : ∀ context, Alive home machine me context →
    ∃ rank, Failing home mutex me rest rank context.todo ∧ turns home me moments + rank ≤ 10

namespace Refusing

variable {before moments : List (Moment n k C ν)} {move : Move n k C ν}

theorem starts (sound : Sound home past machine) (going : machine.outcome = none)
    (fits : move.Fits home machine) (goes : (machine.make move).outcome = none)
    (member : block ∈ machine.parkedOn mutex) :
    ∃ rest, Errand home (.ask (.lock home mutex)) rest ∧
      Refusing home mutex block.id rest (⟨machine, move⟩ :: past) [] (machine.make move) := by
  obtain ⟨errand, rest, asked, left⟩ := sound.parked_waking member
  have other := sound.apart_parked member
  refine ⟨rest, asked, ⟨fun moment member => (nomatch member), Nat.zero_lt_succ 9, ?_, ?_⟩⟩
  · have apart : Moment.thread home ⟨machine, move⟩ ≠ block.id := other.symm
    exact (errand_of_other apart).trans errand
  · intro context alive
    have earlier := sound.alive_before going fits goes other (by simp [errand]) alive
    rw [sound.alive_parked member earlier, left]
    exact ⟨10, .waking, Nat.le_refl 10⟩

/-- The moves of the others do not matter. -/
theorem aside (refusing : Refusing home mutex me rest before moments machine)
    (sound : Sound home (moments ++ before) machine) (going : machine.outcome = none)
    (fits : move.Fits home machine) (goes : (machine.make move).outcome = none)
    (other : me ≠ machine.thread home) :
    Refusing home mutex me rest before (⟨machine, move⟩ :: moments) (machine.make move) := by
  have apart : Moment.thread home ⟨machine, move⟩ ≠ me := other.symm
  have same : turns home me (⟨machine, move⟩ :: moments) = turns home me moments :=
    List.countP_cons_of_neg (by simpa using apart)
  constructor
  case waits =>
    intro moment member self
    rcases List.mem_cons.mp member with rfl | member
    · exact absurd self apart
    · exact refusing.waits moment member self
  case few => exact same ▸ refusing.few
  case errand => exact (errand_of_other apart).trans refusing.errand
  case left =>
    intro context alive
    rw [same]
    exact refusing.left context
      (sound.alive_before going fits goes other (by simp [refusing.errand]) alive)

/-- By its own moves the thread comes closer to its failure. -/
theorem acts (refusing : Refusing home mutex (machine.thread home) rest before moments machine)
    (asked : Errand home (.ask (.lock home mutex)) rest)
    (run : Run home (moments ++ before) machine) (going : machine.outcome = none)
    (fits : move.Fits home machine) (goes : (machine.make move).outcome = none)
    (destroyed : (machine.cells mutex).status = .destroyed) :
    Refusing home mutex (machine.thread home) rest before (⟨machine, move⟩ :: moments)
        (machine.make move) ∨
      Moment.Refuses home mutex (machine.thread home) (moments ++ before) ⟨machine, move⟩ := by
  have sound := run.sound going
  obtain ⟨rank, failing, bound⟩ := refusing.left _ .running
  have failing : Failing home mutex (machine.thread home) rest rank machine.todo := failing
  obtain ⟨action, behind, todo, foreign⟩ := failing.foreign
  obtain rfl := fits.works todo foreign
  have spares := failing.spares sound going fits goes destroyed
  by_cases back : machine.step.inOwnCode = true
  · obtain ⟨answer, host, left, replied⟩ :=
      sound.returns going fits goes refusing.errand (.inl rfl) back
    rw [left] at failing
    cases failing
    exact .inr ⟨rfl, refusing.errand, spares, fits, back, replied⟩
  · have away := eq_false_of_ne_true back
    have self : Moment.thread home ⟨machine, .work⟩ = machine.thread home := rfl
    have one : turns home (machine.thread home) (⟨machine, .work⟩ :: moments) =
        turns home (machine.thread home) moments + 1 :=
      List.countP_cons_of_pos (decide_eq_true self)
    have closer (context : Context n k C ν)
        (alive : Alive home machine.step (machine.thread home) context) :=
      failing.next asked run going goes destroyed away alive
    left
    constructor
    case waits =>
      intro moment member same
      rcases List.mem_cons.mp member with rfl | member
      · exact ⟨spares, away⟩
      · exact refusing.waits moment member same
    case few =>
      have early := failing.early asked going away
      omega
    case errand => exact (errand_work ..).trans refusing.errand
    case left =>
      intro context alive
      obtain ⟨fewer, less, failing⟩ := closer context alive
      exact ⟨fewer, failing, by omega⟩

end Refusing

/-- The lock of whoever was parked on the mutex when it was marked fails. -/
theorem DestroyMarked.refuses (onward : DestroyMarked home mutex since mark older machine)
    (going : machine.outcome = none) (member : block ∈ mark.machine.parkedOn mutex) :
    Refused home mutex block.id (mark :: older) since := by
  suffices fate : (∃ rest, Errand home (.ask (.lock home mutex)) rest ∧
      Refusing home mutex block.id rest (mark :: older) since machine) ∨
        Answered home mutex block.id (mark :: older) since by
    rcases fate with ⟨rest, -, refusing⟩ | answered
    · exact .underway refusing.waits refusing.few
    · exact .answered answered
  refine onward.induct (P := fun since machine => (∃ rest,
    Errand home (.ask (.lock home mutex)) rest ∧
      Refusing home mutex block.id rest (mark :: older) since machine) ∨
        Answered home mutex block.id (mark :: older) since) ?_ ?_ going
  · intro marking
    exact .inl (Refusing.starts (marking.run.sound marking.going) marking.going marking.fits
      marking.goes member)
  · rintro since ⟨before, move⟩ ⟨onward, going, fits, goes, -⟩ (⟨rest, asked, refusing⟩ | answered)
    · by_cases self : block.id = before.thread home
      · rw [self] at refusing ⊢
        rcases refusing.acts asked onward.run going fits goes (onward.destroyed going) with
          refusing | refuses
        · exact .inl ⟨rest, asked, refusing⟩
        · exact .inr (.inl ⟨refusing.waits, refusing.few, refuses⟩)
      · exact .inl ⟨rest, asked, refusing.aside (onward.run.sound going) going fits goes self⟩
    · exact .inr (.inr ⟨answered, trivial⟩)

end UserThreads
