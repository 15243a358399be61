import UserThreads.Proofs.Counter

/-!
The turns of own code in the program that counts, and what its runs keep.
-/

namespace UserThreads

variable {n k : Nat} {ν : Type} {home : Fin n} {mutex : Fin k} {rounds first counter : Nat}
  {before newer : List (Moment n k Job ν)} {start machine : Machine n k Job ν}
  {request : Call n k Job ν} {thread : ThreadId} {job : Job}

namespace Kept

/-- A turn of own code changes nothing but what it says and what its thread stands for. -/
theorem speak {later : List (Moment n k Job ν)} {after : Machine n k Job ν} {counter' : Nat}
    (kept : Kept home mutex rounds first before newer machine counter)
    (sound : Sound home (newer ++ before) machine)
    (runtimes : after.runtime = machine.runtime) (mutexes : after.cells = machine.cells)
    (errands : ∀ thread, thread ≠ machine.thread home →
      errand? home thread (later ++ before) = errand? home thread (newer ++ before))
    (made : issued (later ++ before) = issued (newer ++ before))
    (others : ∀ thread, thread ≠ machine.thread home →
      (storers home later).count thread = (storers home newer).count thread)
    (stores : ∀ thread ∈ storers home later, thread ∈ issued (newer ++ before))
    (counts : counter' = counter ∨ (machine.cells mutex).owner? = some (machine.thread home))
    (fares : Fares home mutex rounds before later (machine.cells mutex) counter'
      (machine.thread home) ⟨after.todo, after.code⟩)
    (owner : (machine.cells mutex).owner? = some (machine.thread home) →
      exitValue? home (machine.thread home) (later ++ before) = none)
    (ends : ∀ value, exitValue? home (machine.thread home) (later ++ before) = some value →
      machine.thread home ∈ issued (newer ++ before) →
        (storers home later).count (machine.thread home) = rounds)
    (total : counter' = first + (storers home later).length)
    (granted : Granted home mutex before later) :
    Kept home mutex rounds first before later after counter' := by
  constructor
  case usable => exact mutexes ▸ kept.usable
  case fares =>
    intro thread context alive
    rw [mutexes]
    rcases sound.alive_spoken runtimes mutexes alive with ⟨rfl, rfl⟩ | ⟨alive, other⟩
    · exact fares
    · have earlier := kept.fares thread context alive
      constructor
      case doing =>
        rw [errands thread other]
        exact earlier.doing
      case smooth =>
        rw [errands thread other]
        exact earlier.smooth
      case owns =>
        rw [errands thread other]
        exact earlier.owns
      case share =>
        rw [made, others thread other]
        exact earlier.share
      case current =>
        intro left value holding
        rcases counts with rfl | owned
        · exact earlier.current left value holding
        · -- Whoever has read the counter would own the mutex too.
          have own : (machine.cells mutex).owner? = some thread :=
            earlier.owns.mpr (by simp [Critical, holding])
          exact absurd (Option.some.inj (own.symm.trans owned)) other
  case owner =>
    intro thread owned
    rw [mutexes] at owned
    obtain ⟨member, exit⟩ := kept.owner thread owned
    by_cases self : thread = machine.thread home
    · subst self
      exact ⟨made ▸ member, owner owned⟩
    · exact ⟨made ▸ member, by rw [exitValue?, errands thread self]; exact exit⟩
  case ends =>
    intro thread member value exit
    rw [made] at member
    by_cases self : thread = machine.thread home
    · subst self
      exact ends value exit member
    · rw [exitValue?, errands thread self] at exit
      rw [others thread self]
      exact kept.ends thread member value exit
  case stores => exact made.symm ▸ stores
  case distinct => exact made.symm ▸ kept.distinct
  case total => exact total
  case granted => exact granted

end Kept

/-- Nothing comes back by a move of own code. -/
theorem Granted.own {move : Move n k Job ν} (granted : Granted home mutex before newer)
    (inside : machine.inOwnCode = true) : Granted home mutex before (⟨machine, move⟩ :: newer) := by
  intro moment older request answer suffix uses answers errand
  rcases List.suffix_cons_iff.mp suffix with same | earlier
  · cases same
    exact absurd (inside.symm.trans answers.1) (by decide)
  · exact granted moment older request answer earlier uses answers errand

theorem errand_speaking {move : Move n k Job ν} {past : List (Moment n k Job ν)}
    (other : thread ≠ machine.thread home) :
    errand? home thread (⟨machine, move⟩ :: past) = errand? home thread past := by
  have apart : Moment.thread home ⟨machine, move⟩ ≠ thread := other.symm
  exact errand_of_other apart

namespace Kept

theorem asks (kept : Kept home mutex rounds first before newer machine counter)
    (sound : Sound home (newer ++ before) machine) {host : Option (Fin n)}
    (own : machine.todo = [.own host]) (minds : request.Minds home mutex rounds) :
    Kept home mutex rounds first before (trail newer machine [.ask request])
      (machine.play [.ask request]) counter := by
  have running := kept.running
  have inside : machine.inOwnCode = true := Machine.inOwnCode_eq own
  have errand : errand? home (machine.thread home)
      (⟨machine, .ask request⟩ :: (newer ++ before)) = some (.ask request) :=
    errand_of_enters ⟨machine, .ask request⟩ rfl
  have exit : exitValue? home (machine.thread home)
      (⟨machine, .ask request⟩ :: (newer ++ before)) = none := by
    rw [exitValue?, errand]
    cases request with
    | exit runtime value => exact absurd rfl (minds.stays runtime value)
    | _ => rfl
  have left : (machine.play [.ask request]).todo = request.actions ++ [.own host] :=
    congrArg (request.actions ++ ·) own
  refine kept.speak sound rfl rfl (fun _ => errand_speaking) (issued_own (by simp))
    (fun _ _ => rfl) kept.stores (.inl rfl) ?fares (fun _ => exit)
    (fun value ends => absurd (exit.symm.trans ends) (by simp)) kept.total
    (kept.granted.own inside)
  rw [left]
  constructor
  case doing =>
    refine .inr fun move asked => ?_
    cases errand.symm.trans asked
    exact .asks minds
  case smooth =>
    intro other asked uses
    cases errand.symm.trans asked
    exact absurd uses minds.unused
  case owns =>
    have locked : some (.ask request) ≠ some (.ask (.lock home mutex) : Move n k Job ν) := by
      intro same
      cases same
      exact minds.unused .lock
    refine running.owns.trans ?_
    change Critical home mutex _ _ ↔ Critical home mutex
      (errand? home _ (⟨machine, .ask request⟩ :: (newer ++ before))) ⟨_, machine.code⟩
    rw [errand, own]
    unfold Critical
    cases machine.code with
    | main | holding | stored => rfl
    | outside left => rw [pending_append rfl, minds.elsewhere]; rfl
    | inside left => exact ⟨fun _ asks => absurd asks locked, fun _ _ => .inl ⟨host, rfl⟩⟩
  case share => exact running.share
  case current => exact running.current

/-- A thread goes on to another job and calls for the mutex or gives it back. -/
theorem calls {next : Job} (kept : Kept home mutex rounds first before newer machine counter)
    (sound : Sound home (newer ++ before) machine) {host : Option (Fin n)}
    (own : machine.todo = [.own host]) (uses : request.Uses home mutex)
    (doing : Doing home mutex rounds next (.ask request))
    (owns : (machine.cells mutex).owner? = some (machine.thread home) ↔
      Critical home mutex (some (.ask request)) ⟨request.actions ++ [.own host], next⟩)
    (share : machine.thread home ∈ issued (newer ++ before) ∧
      (storers home newer).count (machine.thread home) + next.owed = rounds)
    (unread : ∀ left value, next ≠ .holding left value) (unwritten : ∀ left, next ≠ .stored left) :
    Kept home mutex rounds first before (trail newer machine [.think next, .ask request])
      (machine.play [.think next, .ask request]) counter := by
  have inside : machine.inOwnCode = true := Machine.inOwnCode_eq own
  have inside' : (machine.make (.think next)).inOwnCode = true := inside
  have errand : errand? home (machine.thread home) (⟨machine.make (.think next), .ask request⟩ ::
      ⟨machine, .think next⟩ :: (newer ++ before)) = some (.ask request) :=
    errand_of_enters ⟨machine.make (.think next), .ask request⟩ rfl
  have exit : exitValue? home (machine.thread home)
      (⟨machine.make (.think next), .ask request⟩ :: ⟨machine, .think next⟩ ::
        (newer ++ before)) = none := by
    rw [exitValue?, errand]
    cases uses <;> rfl
  have stored : storers home (trail newer machine [.think next, .ask request]) =
      storers home newer := by
    cases next with
    | stored left => exact absurd rfl (unwritten left)
    | _ => rfl
  have left : (machine.play [.think next, .ask request]).todo = request.actions ++ [.own host] :=
    congrArg (request.actions ++ ·) own
  refine kept.speak sound rfl rfl (fun _ other => ?errands) ?made
    (fun _ _ => by rw [stored]) (stored ▸ kept.stores) (.inl rfl) ?fares (fun _ => exit)
    (fun value ends => absurd (exit.symm.trans ends) (by simp)) (stored ▸ kept.total)
    ((kept.granted.own inside).own inside')
  case errands =>
    have other' : _ ≠ (machine.make (.think next)).thread home := other
    exact (errand_speaking other').trans (errand_speaking other)
  case made => exact (issued_own (by simp)).trans (issued_own (by simp))
  case fares =>
    rw [left]
    constructor
    case doing =>
      refine .inr fun move asked => ?_
      cases errand.symm.trans asked
      exact doing
    case smooth =>
      intro _ _ _
      refine .append ?_ (.own host)
      cases uses <;> simp [Smooth, Call.actions, Action.fails]
    case owns =>
      change _ ↔ Critical home mutex (errand? home _ (⟨machine.make (.think next), .ask request⟩ ::
        ⟨machine, .think next⟩ :: (newer ++ before))) ⟨_, next⟩
      rw [errand]
      exact owns
    case share =>
      rw [stored]
      exact .inr share
    case current => exact fun left value holding => absurd holding (unread left value)

/-- A thread that has the mutex goes on to another job, and may have written the counter. -/
theorem thinks {next : Job} {counter' : Nat}
    (kept : Kept home mutex rounds first before newer machine counter)
    (sound : Sound home (newer ++ before) machine) {host : Option (Fin n)}
    (own : machine.todo = [.own host])
    (owned : (machine.cells mutex).owner? = some (machine.thread home))
    (critical : ∀ errand : Option (Move n k Job ν),
      Critical home mutex errand ⟨[.own host], next⟩)
    (share : (storers home (⟨machine, .think next⟩ :: newer)).count (machine.thread home) +
      next.owed = rounds)
    (read : ∀ left value, next = .holding left value → value = counter')
    (total : counter' = first + (storers home (⟨machine, .think next⟩ :: newer)).length) :
    Kept home mutex rounds first before (trail newer machine [.think next])
      (machine.play [.think next]) counter' := by
  have inside : machine.inOwnCode = true := Machine.inOwnCode_eq own
  obtain ⟨member, exit⟩ := kept.owner _ owned
  have stays : errand? home (machine.thread home) (⟨machine, .think next⟩ :: (newer ++ before)) =
      errand? home (machine.thread home) (newer ++ before) := errand_of_stays rfl
  have exit' : exitValue? home (machine.thread home)
      (⟨machine, .think next⟩ :: (newer ++ before)) = none := by
    rw [exitValue?, stays]
    exact exit
  have stored : storers home (⟨machine, .think next⟩ :: newer) = storers home newer ∨
      storers home (⟨machine, .think next⟩ :: newer) =
        machine.thread home :: storers home newer := by
    cases next with
    | stored left => exact .inr rfl
    | _ => exact .inl rfl
  have made : issued (⟨machine, .think next⟩ :: (newer ++ before)) = issued (newer ++ before) :=
    issued_own (by simp)
  refine kept.speak sound rfl rfl (fun _ => errand_speaking) made ?others ?stores
    (.inr owned) ?fares (fun _ => exit')
    (fun value ends => absurd (exit'.symm.trans ends) (by simp)) total (kept.granted.own inside)
  case others =>
    intro thread other
    change (storers home (⟨machine, .think next⟩ :: newer)).count thread = _
    rcases stored with same | grown
    · rw [same]
    · rw [grown, List.count_cons_of_ne other.symm]
  case stores =>
    intro thread stores
    change thread ∈ storers home (⟨machine, .think next⟩ :: newer) at stores
    rcases stored with same | grown
    · exact kept.stores thread (same ▸ stores)
    · rw [grown] at stores
      rcases List.mem_cons.mp stores with rfl | stores
      · exact member
      · exact kept.stores thread stores
  case fares =>
    have left : (machine.play [.think next]).todo = [.own host] := own
    rw [left]
    constructor
    case doing => exact .inl ⟨host, rfl⟩
    case smooth => exact fun _ _ _ => .own host
    case owns => exact iff_of_true owned (critical _)
    case share => exact .inr ⟨made.symm ▸ member, share⟩
    case current => exact read

theorem leaves (kept : Kept home mutex rounds first before newer machine counter)
    (sound : Sound home (newer ++ before) machine) {host : Option (Fin n)} {value : ν}
    (own : machine.todo = [.own host]) (code : machine.code = .outside 0)
    (goes : (machine.make (.leave value)).outcome = none) :
    Kept home mutex rounds first before (trail newer machine [.leave value])
      (machine.play [.leave value]) counter := by
  have running := kept.running
  have inside : machine.inOwnCode = true := Machine.inOwnCode_eq own
  have after : machine.play [.leave value] = (machine.withTodo []).push
      [.close home, .reopen home, .close home, .finish home value] := by
    have fits : Move.Fits home machine (.leave value) := inside
    obtain ⟨-, -, said⟩ := sound.said fits (by simp) goes
    cases said with
    | leave left => exact left
  have errand : errand? home (machine.thread home)
      (⟨machine, .leave value⟩ :: (newer ++ before)) = some (.leave value) :=
    errand_of_enters ⟨machine, .leave value⟩ rfl
  have unowned : (machine.cells mutex).owner? ≠ some (machine.thread home) := by
    intro owned
    have critical := running.owns.mp owned
    rw [own] at critical
    simp [Critical, code, pending?, Action.concerns] at critical
  have share := running.share.resolve_left (by simp [code])
  refine kept.speak sound (by rw [after]; rfl) (by rw [after]; rfl) (fun _ => errand_speaking)
    (issued_own (by simp)) (fun _ _ => rfl) kept.stores (.inl rfl) ?fares
    (fun owned => absurd owned unowned) (fun _ _ _ => ?ends) kept.total (kept.granted.own inside)
  case ends =>
    have count := share.2
    rw [code] at count
    exact count
  case fares =>
    rw [after]
    constructor
    case doing =>
      refine .inr fun move left => ?_
      cases errand.symm.trans left
      change Doing home mutex rounds machine.code _
      rw [code]
      exact .leaves
    case smooth =>
      intro request left
      cases errand.symm.trans left
    case owns =>
      refine iff_of_false unowned ?_
      simp [Critical, code, Machine.withTodo, Machine.push, pending?, Action.concerns]
    case share => exact .inr share
    case current =>
      intro left value holding
      cases code.symm.trans holding

theorem turn {moves : List (Move n k Job ν)} {counter' : Nat}
    (kept : Kept home mutex rounds first before newer machine counter)
    (sound : Sound home (newer ++ before) machine)
    (turn : Turn home mutex rounds machine.code counter moves counter')
    (inside : machine.inOwnCode = true) (goes : (machine.play moves).outcome = none) :
    Kept home mutex rounds first before (trail newer machine moves) (machine.play moves)
      counter' := by
  obtain ⟨host, rest, own⟩ := Machine.own_of_inOwnCode inside
  obtain ⟨-, rfl, -⟩ := sound.own_todo own
  have owns := kept.running.owns
  have share := kept.running.share
  have current := kept.running.current
  generalize code : machine.code = job at turn
  simp only [Critical, own, code, pending?, List.find?_cons, Action.concerns,
    List.find?_nil] at owns
  simp only [code] at share current
  cases turn with
  | asks minds => exact kept.asks sound own minds
  | @locks left =>
      have share := share.resolve_left Job.noConfusion
      refine kept.calls sound own .lock .locks ?_ share (by simp) (by simp)
      refine iff_of_false (fun owned => ?_) ?_
      · cases owns.mp owned
      · simp [Critical, Call.actions]
  | @reads left =>
      have owned := owns.mpr fun _ => .inl ⟨host, rfl⟩
      have share := share.resolve_left Job.noConfusion
      refine kept.thinks sound own owned (fun _ => trivial) share.2 ?_ kept.total
      intro left value same
      cases same
      rfl
  | @writes left value =>
      have owned := owns.mpr trivial
      obtain ⟨member, count⟩ := share.resolve_left Job.noConfusion
      obtain rfl := current left value rfl
      have stored : storers home (⟨machine, .think (.stored left)⟩ :: newer) =
          machine.thread home :: storers home newer := rfl
      refine kept.thinks sound own owned (fun _ => trivial) ?_ (by simp) ?_
      · rw [stored, List.count_cons_self]
        simp only [Job.owed] at count ⊢
        omega
      · have total := kept.total
        rw [stored, List.length_cons]
        omega
  | @unlocks left =>
      have owned := owns.mpr trivial
      have share := share.resolve_left Job.noConfusion
      refine kept.calls sound own .unlock .unlocks (iff_of_true owned ?_) share (by simp) (by simp)
      simp [Critical, Call.actions, pending?, Action.concerns]
  | leaves => exact kept.leaves sound own code goes

end Kept

theorem Ready.kept (ready : Ready home mutex before start) (begun : Run home before start)
    (going : start.outcome = none) (rounds first : Nat) :
    Kept home mutex rounds first before [] start first := by
  have sound := begun.sound going
  obtain ⟨host, rest, own⟩ := Machine.own_of_inOwnCode ready.own
  obtain ⟨-, rfl, -⟩ := sound.own_todo own
  have unowned : (start.cells mutex).owner? = none := by
    have marked := begun.marked going mutex
    rw [own] at marked
    exact unowned_of_free marked ready.opened
  constructor
  case usable => exact ready.usable
  case fares =>
    intro thread context alive
    have main := begun.alone going ready.alone .running
    obtain rfl := (begun.alone going ready.alone alive).trans main.symm
    obtain rfl := sound.alive_running alive
    rw [own]
    constructor
    case doing => exact .inl ⟨host, rfl⟩
    case smooth => exact fun _ _ _ => .own host
    case owns => simp [unowned, Critical, ready.code]
    case share => exact .inl ready.code
    case current =>
      intro left value holding
      cases ready.code.symm.trans holding
  case owner =>
    intro thread owned
    rw [unowned] at owned
    cases owned
  case ends =>
    intro thread member
    rw [List.nil_append, ready.alone] at member
    cases member
  case stores =>
    intro thread member
    cases member
  case distinct =>
    rw [List.nil_append, ready.alone]
    exact List.nodup_nil
  case total => rfl
  case granted =>
    intro moment older request answer suffix
    cases List.suffix_nil.mp suffix

theorem Turn.begins {moves : List (Move n k Job ν)} {after : Nat}
    (turn : Turn home mutex rounds job counter moves after)
    (allowed : machine.allows home moves = true) :
    machine.outcome = none ∧ machine.inOwnCode = true := by
  have first {move : Move n k Job ν} {others : List (Move n k Job ν)}
      (allowed : machine.allows home (move :: others) = true) (own : move ≠ .work) :
      machine.outcome = none ∧ machine.inOwnCode = true := by
    simp only [Machine.allows, Bool.and_eq_true, Option.isNone_iff_eq_none,
      decide_eq_true_eq] at allowed
    exact ⟨allowed.1.1, allowed.1.2.own own⟩
  cases turn <;> exact first allowed (by simp)

theorem Counting.run (counting : Counting home mutex rounds start first newer machine counter)
    (begun : Run home before start) : Run home (newer ++ before) machine := by
  induction counting with
  | start => exact begun
  | work counting going library ih => exact ih.move going library
  | @turn newer machine counter after moves counting turn allowed ih =>
      have played := ih.play moves allowed
      rw [trail_eq, ← List.append_assoc, ← trail_eq] at played
      exact played

theorem Counting.kept (counting : Counting home mutex rounds start first newer machine counter)
    (begun : Run home before start) (ready : Ready home mutex before start)
    (going : machine.outcome = none) :
    Kept home mutex rounds first before newer machine counter := by
  induction counting with
  | start => exact ready.kept begun going rounds first
  | work counting before library ih =>
      exact (ih before).work (counting.run begun) before library going
  | turn counting turn allowed ih =>
      obtain ⟨before, inside⟩ := turn.begins allowed
      exact (ih before).turn ((counting.run begun).sound before) turn inside going

end UserThreads
