import UserThreads.Proofs.Rounds

/-!
The policy of the scheduler over whole runs: every decision goes to the ready thread
that has survived the fewest rounds, and of equals to the one that has been in line
longest.
-/

namespace UserThreads

variable {n k : Nat} {C ν : Type}

/-- `first` is younger than everybody else in line, or as old and further ahead. -/
def ComesFirst (age : ThreadId → Nat) (line : List ThreadId) (first : ThreadId) : Prop :=
  first ∈ line ∧ ∀ other ∈ line, other ≠ first →
    age first < age other ∨ age first = age other ∧ [first, other].Sublist line

instance (age : ThreadId → Nat) (line : List ThreadId) (first : ThreadId) :
    Decidable (ComesFirst age line first) := inferInstanceAs (Decidable (_ ∧ _))

/-- One block goes out before another. -/
def Before {κ : Type} (line : List ThreadId) (left right : Block κ ν) : Prop :=
  left.age < right.age ∨ left.age = right.age ∧ [left.id, right.id].Sublist line

variable {home : Fin n} {past : List (Moment n k C ν)} {machine after : Machine n k C ν}
  {action : Action n k C ν} {rest : List (Action n k C ν)} {parking : Option (Fin k)}
  {scheduler : Scheduler (Context n k C ν) ν} {rotation : Rotation (Context n k C ν) ν}

section queue

variable {κ : Type} {older : List ThreadId} {blocks : List (Block κ ν)}

/-- Whoever gets in line goes out behind everybody of the same or a lower age. -/
theorem pairwise_insertByAge (block : Block κ ν) (ordered : blocks.Pairwise (Before older))
    (lined : ∀ other ∈ blocks, other.id ∈ older) :
    (OrderedQueue.insertByAge block blocks).Pairwise (Before (older ++ [block.id])) := by
  have longer {left right : Block κ ν} (earlier : Before older left right) :
      Before (older ++ [block.id]) left right :=
    earlier.imp_right fun same => ⟨same.1, same.2.trans (List.sublist_append_left _ _)⟩
  induction blocks with
  | nil => exact List.pairwise_singleton _ _
  | cons first others ih =>
      obtain ⟨leads, ordered'⟩ := List.pairwise_cons.mp ordered
      have lined' (other : Block κ ν) (member : other ∈ others) : other.id ∈ older :=
        lined other (List.mem_cons_of_mem _ member)
      simp only [OrderedQueue.insertByAge]
      split
      · rename_i younger
        change first.age ≤ block.age at younger
        refine List.pairwise_cons.mpr ⟨fun other member => ?_, ih ordered' lined'⟩
        rcases OrderedQueue.mem_insertByAge.mp member with rfl | member
        · rcases Nat.lt_or_eq_of_le younger with less | equal
          · exact .inl less
          · have ahead := List.singleton_sublist.mpr (lined first List.mem_cons_self)
            exact .inr ⟨equal, ahead.append (List.Sublist.refl _)⟩
        · exact longer (leads other member)
      · rename_i less
        change ¬ first.age ≤ block.age at less
        refine List.pairwise_cons.mpr ⟨fun other member => .inl ?_, ordered.imp longer⟩
        rcases List.mem_cons.mp member with rfl | member
        · omega
        · rcases leads other member with below | ⟨equal, -⟩ <;> omega

theorem comesFirst_of_ordered {age : ThreadId → Nat} {first : Block κ ν}
    (ordered : (first :: blocks).Pairwise (Before older))
    (ages : ∀ block ∈ first :: blocks, block.age = age block.id)
    (lined : ∀ thread, thread ∈ older ↔ thread ∈ (first :: blocks).map Block.id) :
    ComesFirst age older first.id := by
  refine ⟨(lined first.id).mpr List.mem_cons_self, fun other member apart => ?_⟩
  obtain ⟨block, held, rfl⟩ := List.mem_map.mp ((lined other).mp member)
  have behind := (List.mem_cons.mp held).resolve_left fun same => apart (congrArg Block.id same)
  rw [← ages first List.mem_cons_self, ← ages block held]
  exact (List.pairwise_cons.mp ordered).1 block behind

end queue

/-- The blocks of all threads are as old as the rounds say, and the ready ones stand
in line as the policy asks. -/
structure InTurn (home : Fin n) (past : List (Moment n k C ν)) (machine : Machine n k C ν) :
    Prop where
  ages : ∀ block ∈ machine.held home, block.age = rounds block.id past
  unborn : ∀ thread, machine.Unborn home thread → rounds thread past = 0
  ordered : (machine.readyOn home).Pairwise (Before (line home past))

/-- The order in which threads go out is kept by whoever stays in line. -/
theorem ordered_after (moment : Moment n k C ν) (new : Option ThreadId)
    {blocks : List (Block (Context n k C ν) ν)}
    (ordered : blocks.Pairwise (Before (line home past ++ new.toList)))
    (fresh : ∀ thread ∈ new, thread ∉ line home past)
    (known : ∀ block ∈ blocks, block.id ∈ line home past ++ new.toList)
    (distinct : (blocks.map Block.id).Nodup) (ready : moment.after.readyOn home = blocks) :
    (moment.after.readyOn home).Pairwise (Before (line home (moment :: past))) := by
  have grown : line home (moment :: past) =
      (line home past ++ new.toList).filter (· ∈ blocks.map Block.id) := by
    rw [line, ready]
    refine lineAfter_eq distinct fresh fun thread member => ?_
    obtain ⟨block, held, rfl⟩ := List.mem_map.mp member
    exact known block held
  rw [ready, grown]
  refine ordered.imp_of_mem fun {left right} first second earlier => ?_
  refine earlier.imp_right fun same => ⟨same.1, ?_⟩
  have kept := same.2.filter (· ∈ blocks.map Block.id)
  rwa [List.filter_eq_self.mpr] at kept
  intro thread member
  rcases List.mem_cons.mp member with rfl | member
  · exact decide_eq_true (List.mem_map_of_mem first)
  · obtain rfl := List.mem_singleton.mp member
    exact decide_eq_true (List.mem_map_of_mem second)

theorem InTurn.start {runtimes : Vector (Runtime n k C ν) n} {config : Config}
    {kind : GateKind} {plan : Nat → Bool}
    (fresh : runtimes.get home = .new config (.new kind plan)) (code : C) :
    InTurn home [] (.start runtimes code) := by
  constructor
  case ages => simp [Machine.held, fresh, Runtime.new]
  case unborn => exact fun thread _ => rfl
  case ordered => simp [Machine.readyOn, fresh, Runtime.new]

/-- Work other than a decision, and moves of own code, keep the line and the ages. -/
theorem InTurn.keep (inTurn : InTurn home past machine) (moment : Moment n k C ν)
    (lined : Lined home past machine) (none : moment.survivor? = none)
    (held : ∀ block ∈ moment.after.held home,
      (∃ earlier ∈ machine.held home, block.id = earlier.id ∧ block.age = earlier.age) ∨
        machine.Unborn home block.id ∧ block.age = 0)
    (unborn : ∀ thread, moment.after.Unborn home thread → machine.Unborn home thread)
    (ready : moment.after.readyOn home = machine.readyOn home ∨
      ∃ block, moment.after.readyOn home = OrderedQueue.insertByAge block (machine.readyOn home))
    (distinct : ((moment.after.readyOn home).map Block.id).Nodup) :
    InTurn home (moment :: past) moment.after := by
  have known (block : Block (Context n k C ν) ν) (member : block ∈ machine.readyOn home) :
      block.id ∈ line home past := (lined.ready _).mpr (List.mem_map_of_mem member)
  constructor
  case ages =>
    intro block member
    rw [rounds_of_none none]
    rcases held block member with ⟨earlier, inside, id, age⟩ | ⟨unborn, age⟩
    · rw [age, id, inTurn.ages earlier inside]
    · rw [age, inTurn.unborn _ unborn]
  case unborn =>
    intro thread future
    rw [rounds_of_none none, inTurn.unborn thread (unborn thread future)]
  case ordered =>
    rcases ready with same | ⟨block, joined⟩
    · have ordered : (machine.readyOn home).Pairwise
          (Before (line home past ++ (Option.none : Option ThreadId).toList)) :=
        (List.append_nil (line home past)).symm ▸ inTurn.ordered
      refine ordered_after moment _ ordered (by simp) ?_ (same ▸ distinct) same
      exact fun block member => List.mem_append_left _ (known block member)
    · have fresh : block.id ∉ line home past := by
        intro member
        rw [joined, ((OrderedQueue.insertByAge_perm block _).map Block.id).nodup_iff,
          List.map_cons, List.nodup_cons] at distinct
        exact distinct.1 ((lined.ready _).mp member)
      refine ordered_after moment (some block.id)
        (pairwise_insertByAge block inTurn.ordered known) ?_ ?_ (joined ▸ distinct) joined
      · rintro thread ⟨⟩
        exact fresh
      · intro other member
        rcases OrderedQueue.mem_insertByAge.mp member with rfl | member
        · exact List.mem_append_right _ (List.mem_singleton.mpr rfl)
        · exact List.mem_append_left _ (known other member)

namespace Scheduler

variable {κ : Type}

theorem stays_alone {scheduler : Scheduler κ ν} {waiting : Option (WaitQueue κ ν)}
    {rotation : Rotation κ ν} (alone : scheduler.ready.elements = [])
    (rotated : scheduler.rotate waiting = .ok rotation) :
    rotation.scheduler = { scheduler with current := scheduler.current.unblock } ∧
      rotation.waiting = waiting ∧ rotation.switch = none := by
  have stayed : scheduler.rotate waiting = .ok (scheduler.stay waiting) :=
    if_pos (OrderedQueue.isEmpty_iff.mpr alone)
  cases stayed.symm.trans rotated
  unfold stay Block.unblock
  split <;> exact ⟨rfl, rfl, rfl⟩

end Scheduler

/-- The running thread gets in line by a decision if it is still ready. -/
def Scheduler.returning? {κ : Type} (scheduler : Scheduler κ ν) : Option ThreadId :=
  if scheduler.current.status = .ready then some scheduler.current.id else none

theorem Scheduler.Decides.outgoing {κ : Type} {scheduler : Scheduler κ ν}
    {waiting : Option (WaitQueue κ ν)} {rotation : Rotation κ ν} {thread : ThreadId}
    (decides : scheduler.Decides waiting rotation)
    (survives : rotation.survivor? scheduler.current = some thread) :
    thread = scheduler.current.id := by
  unfold Rotation.survivor? at survives
  split at survives
  · cases survives
  · cases decides <;> cases survives <;> rfl

namespace InTurn

theorem aged (inTurn : InTurn home past machine)
    (populated : Populated home past machine scheduler)
    (todo : machine.todo = .schedule home parking :: rest)
    (present : (machine.runtime home).scheduler = some scheduler)
    (rotated : ((machine.withTodo rest).save scheduler).rotate
      ((machine.withTodo rest).waiters? parking) = .ok rotation)
    {block : Block (Context n k C ν) ν}
    (place : block ∈ scheduler.ready.elements ++ scheduler.completed.elements ++ machine.parked ∨
      ((machine.withTodo rest).save scheduler).Filed rotation block) :
    block.age = rounds block.id (⟨machine, .work⟩ :: past) := by
  have survivor := survivor_decided todo present rotated
  have decides := Scheduler.decides_of_rotate rotated
  rw [rounds_cons, survivor]
  rcases place with member | ⟨id, -, age⟩
  · have held : block ∈ machine.held home := by
      rw [Machine.held, present]
      exact List.mem_cons_of_mem _ member
    rw [if_neg fun survives => populated.apart member (decides.outgoing survives)]
    exact inTurn.ages block held
  · have before : scheduler.current.age = _ := inTurn.ages _ (Machine.held_current present)
    rw [age, id]
    exact congrArg (· + _) before

/-- The queue that a decision which switches takes the first thread from. -/
theorem queue_ordered (inTurn : InTurn home past machine) (lined : Lined home past machine)
    (present : (machine.runtime home).scheduler = some scheduler)
    (decides : ((machine.withTodo rest).save scheduler).Decides
      ((machine.withTodo rest).waiters? parking) rotation)
    (others : scheduler.ready.elements ≠ []) :
    rotation.switch = some ⟨scheduler.current.id, rotation.scheduler.current.id⟩ ∧
      (rotation.scheduler.current :: rotation.scheduler.ready.elements).Pairwise
        (Before (line home past ++ scheduler.returning?.toList)) ∧
      ∀ thread, thread ∈ line home past ++ scheduler.returning?.toList ↔ thread ∈
        (rotation.scheduler.current :: rotation.scheduler.ready.elements).map Block.id := by
  have ordered := inTurn.ordered
  have ready := lined.ready
  rw [Machine.readyOn_eq present] at ordered ready
  cases decides with
  | stays alone => exact absurd alone others
  | @requeues age first remaining event status filed =>
      have returning : scheduler.returning? = some scheduler.current.id := if_pos status
      refine ⟨rfl, ?_, fun thread => ?_⟩
      · have inserted := pairwise_insertByAge
          (((machine.withTodo rest).save scheduler).current.aged age) ordered
          fun block member => (ready _).mpr (List.mem_map_of_mem member)
        rw [returning]
        exact filed ▸ inserted
      · rw [← filed, List.mem_append, ready, returning]
        simp only [List.mem_map, OrderedQueue.mem_insertByAge]
        constructor
        · rintro (⟨block, member, rfl⟩ | member)
          · exact ⟨block, .inr member, rfl⟩
          · exact ⟨_, .inl rfl, (List.mem_singleton.mp member).symm⟩
        · rintro ⟨block, rfl | member, rfl⟩
          · exact .inr (List.mem_singleton.mpr rfl)
          · exact .inl ⟨block, member, rfl⟩
  | completes status next | parks place status next =>
      have returning : scheduler.returning? = none := by
        refine if_neg fun other => ?_
        exact absurd (status.symm.trans other) (by decide)
      change scheduler.ready.elements = _ at next
      rw [returning, Option.toList_none, List.append_nil]
      exact ⟨rfl, next ▸ ordered, fun thread => next ▸ ready thread⟩

theorem decide (inTurn : InTurn home past machine) (lined : Lined home past machine)
    (sound : Sound home past machine) (going : machine.outcome = none)
    (todo : machine.todo = .schedule home parking :: rest) (goes : machine.step.outcome = none) :
    InTurn home (⟨machine, .work⟩ :: past) machine.step := by
  have distinct := (sound.schedule going todo goes).ready_distinct
  have step := Machine.step_eq going todo
  cases present : (machine.runtime home).scheduler with
  | none =>
      have undecided : machine.step = machine.withTodo rest := by
        rw [step]
        exact (machine.withTodo rest).schedule_of_none present
      have none : Moment.survivor? ⟨machine, .work⟩ = none := by
        simp [Moment.survivor?, Machine.deciding?, todo, present]
      have same : machine.step.held home = machine.held home := by rw [undecided]; rfl
      refine inTurn.keep ⟨machine, .work⟩ lined none ?_ ?_ (.inl ?_) distinct
      · exact fun block member => .inl ⟨block, same ▸ member, rfl, rfl⟩
      · intro thread unborn scheduler now
        rw [present] at now
        cases now
      · change machine.step.readyOn home = _
        rw [undecided]
        rfl
  | some scheduler =>
      have populated := sound.populated scheduler present
      have after : machine.step = (machine.withTodo rest).schedule home parking := step
      rw [after] at goes distinct
      obtain ⟨rotation, rotated, scheduled⟩ :=
        Machine.schedule_rotated (machine.withTodo rest) present goes
      have decides := Scheduler.decides_of_rotate rotated
      have ready := Machine.readyOn_eq scheduled.scheduler
      change InTurn home (⟨machine, .work⟩ :: past) (machine.make .work)
      constructor
      case ages =>
        intro block member
        change block ∈ machine.step.held home at member
        rw [after, Machine.mem_held scheduled.scheduler, ← or_assoc, ← List.mem_cons] at member
        refine inTurn.aged populated todo present rotated ?_
        rcases member with member | member | ⟨mutex, member⟩
        · exact (decides.seated member).imp_left fun member =>
            List.mem_append_left _ (List.mem_append_left _ member)
        · exact (decides.completed member).imp_left fun member =>
            List.mem_append_left _ (List.mem_append_right _ member)
        · exact (scheduled.parked decides member).imp_left fun member =>
            List.mem_append_right _ (Machine.mem_parked.mpr ⟨mutex, member⟩)
      case unborn =>
        intro thread unborn
        change machine.step.Unborn home thread at unborn
        have nextId : rotation.scheduler.nextId = scheduler.nextId := by cases decides <;> rfl
        have future := unborn _ (after ▸ scheduled.scheduler)
        rw [nextId] at future
        rw [rounds_cons, survivor_decided todo present rotated, if_neg]
        · refine inTurn.unborn thread fun other now => ?_
          obtain rfl := Option.some.inj (present.symm.trans now)
          exact future
        · intro survives
          obtain rfl : thread = scheduler.current.id := decides.outgoing survives
          exact absurd populated.born (Nat.not_lt.mpr future)
      case ordered =>
        change (machine.step.readyOn home).Pairwise _
        by_cases others : scheduler.ready.elements = []
        · have alone : rotation.scheduler.ready.elements = [] := by
            have others : ((machine.withTodo rest).save scheduler).ready.elements = [] := others
            obtain ⟨stayed, -, -⟩ := Scheduler.stays_alone others rotated
            rw [stayed]
            exact others
          rw [after, ready, alone]
          exact List.Pairwise.nil
        · obtain ⟨-, ordered, members⟩ := inTurn.queue_ordered lined present decides others
          refine ordered_after ⟨machine, .work⟩ _ (List.pairwise_cons.mp ordered).2
            ?fresh ?known (ready ▸ distinct) ?stands
          case fresh =>
            intro thread returns member
            obtain ⟨block, inside, same⟩ := List.mem_map.mp ((lined.ready thread).mp member)
            rw [Machine.readyOn_eq present] at inside
            unfold Scheduler.returning? at returns
            split at returns
            · cases returns
              exact populated.apart_ready inside same
            · cases returns
          case known =>
            intro block member
            exact (members block.id).mpr (List.mem_map_of_mem (List.mem_cons_of_mem _ member))
          case stands =>
            change machine.step.readyOn home = _
            rw [after, ready]

end InTurn

theorem Run.inTurn (run : Run home past machine) (going : machine.outcome = none) :
    InTurn home past machine := by
  induction run with
  | start fresh code => exact .start fresh code
  | @move past machine move run before fits ih =>
      have sound := run.sound before
      have inTurn := ih before
      have lined := run.lined before
      have distinct := (sound.move before fits going).ready_distinct
      by_cases library : move = .work
      · subst library
        cases sound.next with
        | decides todo => exact inTurn.decide lined sound before todo going
        | works todo apart =>
            have shift := sound.shift before todo (apart home) going
            exact inTurn.keep ⟨machine, .work⟩ lined (survivor_work todo apart)
              (fun block => shift.held fun absent => (sound.unpopulated absent).parked)
              (fun thread => shift.unborn) shift.readyOn distinct
      · obtain ⟨runtimes, mutexes, -⟩ := machine.make_own library
        have held : (machine.make move).held home = machine.held home := by
          rw [Machine.held, runtimes, Machine.parked_congr fun mutex =>
            congrArg (fun cells => (cells mutex).waiters.threads.elements) mutexes, Machine.held]
        refine inTurn.keep ⟨machine, move⟩ lined (survivor_own library) ?_ ?_
          (.inl ?_) distinct
        · exact fun block member => .inl ⟨block, held ▸ member, rfl, rfl⟩
        · exact fun thread unborn scheduler now => unborn scheduler (runtimes ▸ now)
        · change (machine.make move).readyOn home = _
          rw [Machine.readyOn, runtimes, Machine.readyOn]

/-- What the policy asks of a decision that comes to `rotation`. -/
structure FollowsPolicy (home : Fin n) (past : List (Moment n k C ν)) (machine : Machine n k C ν)
    (scheduler : Scheduler (Context n k C ν) ν) (rotation : Rotation (Context n k C ν) ν) :
    Prop where
  lined : (line home past).Perm ((machine.readyOn home).map Block.id)
  ages : ∀ block ∈ machine.held home, block.age = rounds block.id past
  /-- With nobody in line the running thread goes on, and nobody grows older. -/
  stays : line home past = [] → rotation.switch = none ∧
    machine.step.outcome = none ∧ machine.step.thread home = machine.thread home ∧
      (machine.step.held home).map (fun block => (block.id, block.age)) =
        (machine.held home).map (fun block => (block.id, block.age)) ∧
      ∀ thread, rounds thread (⟨machine, .work⟩ :: past) = rounds thread past
  /-- Otherwise the running thread is a round older, unless it has exited. It gets in
  line behind all others if it is ready, and whoever comes first goes on. -/
  switches : line home past ≠ [] → ∃ incoming,
    rotation.switch = some ⟨machine.thread home, incoming⟩ ∧
      ComesFirst (rounds · (⟨machine, .work⟩ :: past))
        (line home past ++ scheduler.returning?.toList) incoming ∧
      (∀ thread, rounds thread (⟨machine, .work⟩ :: past) = rounds thread past +
        if thread = machine.thread home ∧ scheduler.current.status ≠ .completed then 1 else 0) ∧
      (machine.step.outcome = none → machine.step.thread home = incoming)
  later : machine.step.outcome = none →
    ∀ block ∈ machine.step.held home, block.age = rounds block.id (⟨machine, .work⟩ :: past)

/-- The running thread can always be filed. -/
theorem Populated.decides (populated : Populated home past machine scheduler)
    (inTurn : InTurn home past machine)
    (todo : machine.todo = .schedule home parking :: rest)
    (present : (machine.runtime home).scheduler = some scheduler)
    (few : decisions (⟨machine, .work⟩ :: past) < Block.ageLimit) :
    ∃ rotation, ((machine.withTodo rest).save scheduler).rotate
      ((machine.withTodo rest).waiters? parking) = .ok rotation := by
  apply Scheduler.rotate_exists
  · change scheduler.current.age + 1 < Block.ageLimit
    have decides : Moment.decides ⟨machine, .work⟩ = true := by
      simp [Moment.decides, Machine.deciding?, todo, present]
    have limit := rounds_le_decisions scheduler.current.id past
    rw [inTurn.ages _ (Machine.held_current present)]
    rw [decisions, List.countP_cons_of_pos decides, ← decisions] at few
    omega
  · intro blocked
    cases populated.standing with
    | ready status | completed status => exact absurd (status.symm.trans blocked) (by decide)
    | blocked _ _ deciding =>
        cases todo.symm.trans deciding
        rfl

theorem Machine.schedule_stays (before : Machine n k C ν)
    (present : (before.runtime home).scheduler = some scheduler)
    (rotated : (before.save scheduler).rotate (before.waiters? parking) = .ok rotation)
    (unswitched : rotation.switch = none) :
    (before.schedule home parking).outcome = before.outcome := by
  simp only [schedule, present, rotated, unswitched]
  change (before.setWaiters parking rotation.waiting).outcome = _
  unfold setWaiters
  split <;> rfl

/-- As long as ages are in range, every decision follows the policy. -/
theorem Run.follows_policy (run : Run home past machine) (going : machine.outcome = none)
    (todo : machine.todo = .schedule home parking :: rest)
    (present : (machine.runtime home).scheduler = some scheduler)
    (few : decisions (⟨machine, .work⟩ :: past) < Block.ageLimit) :
    ∃ rotation, machine.deciding? = some ((machine.withTodo rest).save scheduler, .ok rotation) ∧
      FollowsPolicy home past machine scheduler rotation := by
  have sound := run.sound going
  have lined := run.lined going
  have inTurn := run.inTurn going
  have populated := sound.populated scheduler present
  obtain ⟨rotation, rotated⟩ := populated.decides inTurn todo present few
  have decides := Scheduler.decides_of_rotate rotated
  have after : machine.step = (machine.withTodo rest).schedule home parking :=
    Machine.step_eq going todo
  have perm : (line home past).Perm ((machine.readyOn home).map Block.id) :=
    (List.perm_ext_iff_of_nodup lined.distinct sound.ready_distinct).mpr lined.ready
  refine ⟨rotation, by simp only [Machine.deciding?, todo, present, Option.map_some, rotated], ?_⟩
  constructor
  case lined => exact perm
  case ages => exact inTurn.ages
  case stays =>
    intro empty
    have alone : ((machine.withTodo rest).save scheduler).ready.elements = [] := by
      have unready := perm.length_eq
      rw [empty, Machine.readyOn_eq present, List.length_map] at unready
      exact List.length_eq_zero_iff.mp unready.symm
    obtain ⟨stayed, unparked, unswitched⟩ := Scheduler.stays_alone alone rotated
    have goes : ((machine.withTodo rest).schedule home parking).outcome = none :=
      ((machine.withTodo rest).schedule_stays present rotated unswitched).trans going
    obtain ⟨rotation', rotated', scheduled⟩ :=
      Machine.schedule_rotated (machine.withTodo rest) present goes
    cases rotated.symm.trans rotated'
    rw [after]
    refine ⟨unswitched, goes, (scheduled.stayed unswitched).1, ?_, ?_⟩
    · have parked := Machine.parked_congr fun mutex => scheduled.unparked unparked mutex
      rw [Machine.held, scheduled.scheduler, parked, stayed, Machine.held, present]
      simp only [List.map_cons, Block.unblock_id, Block.unblock_age]
      rfl
    · refine rounds_of_none ?_
      rw [survivor_decided todo present rotated, Rotation.survivor?, unswitched]
      split <;> rfl
  case switches =>
    intro occupied
    have others : scheduler.ready.elements ≠ [] := by
      intro alone
      rw [Machine.readyOn_eq present, alone] at perm
      exact occupied perm.eq_nil
    obtain ⟨switch, ordered, members⟩ := inTurn.queue_ordered lined present decides others
    have running := populated.current
    refine ⟨_, running ▸ switch, comesFirst_of_ordered ordered ?_ members, fun thread => ?_, ?_⟩
    · intro block member
      refine inTurn.aged populated todo present rotated ((decides.seated member).imp_left ?_)
      exact fun member => List.mem_append_left _ (List.mem_append_left _ member)
    · rw [rounds_cons, survivor_decided todo present rotated, Rotation.survivor?, switch, ← running]
      change _ + (if (if scheduler.current.status = .completed then none else _) = _
        then 1 else 0) = _
      by_cases exited : scheduler.current.status = .completed
      · simp [exited]
      · simp [exited, eq_comm]
    · intro goes
      rw [after] at goes ⊢
      obtain ⟨rotation', rotated', scheduled⟩ :=
        Machine.schedule_rotated (machine.withTodo rest) present goes
      cases rotated.symm.trans rotated'
      exact (scheduled.switched _ switch).1
  case later =>
    exact fun goes => (inTurn.decide lined sound going todo goes).ages

/-- The context makes a thread and yields to it, and the thread is about to give the
processor back. -/
def exchange : List (Move 1 1 Unit Nat) :=
  Move.calling (.create sole ()) 5 ++ Move.calling (.yield sole) 5 ++ Move.calling (.yield sole) 1

/-- A decision goes to the context, which is as old as the thread that yields and
ahead of it. -/
theorem follows_policy_exchange :
    let past := trail [] (lone 0) exchange
    let machine := (lone 0).play exchange
    ∃ scheduler rotation, decisions (⟨machine, .work⟩ :: past) < Block.ageLimit ∧
      line sole past = [.main] ∧ rotation.switch = some ⟨⟨1⟩, .main⟩ ∧
      FollowsPolicy sole past machine scheduler rotation := by
  have run := Run.play (.start rfl ()) exchange (by decide : (lone 0).allows sole _ = true)
  have few : decisions (⟨(lone 0).play exchange, .work⟩ :: trail [] (lone 0) exchange) <
      Block.ageLimit := by decide
  obtain ⟨rotation, decided, follows⟩ := run.follows_policy rfl rfl rfl few
  refine ⟨_, rotation, few, rfl, ?_, follows⟩
  obtain ⟨incoming, switch, -⟩ := follows.switches (by decide)
  cases decided
  rfl

/-- The rounds survived before a decision do not settle it: the thread has survived
none and the context one, but the context goes on. -/
theorem main_precedes_younger :
    let past := trail [] (lone 0) exchange
    let machine := (lone 0).play exchange
    Run sole past machine ∧ machine.outcome = none ∧
      (machine.deciding?.bind fun (scheduler, decision) =>
        decision.toOption.bind fun rotation => rotation.switch.map (scheduler.current.status, ·)) =
          some (.ready, ⟨⟨1⟩, .main⟩) ∧
      machine.step.thread sole = .main ∧
      rounds ⟨1⟩ past = 0 ∧ rounds .main past = 1 ∧
      ¬ComesFirst (rounds · past) (line sole past ++ [⟨1⟩]) .main := by
  refine ⟨Run.play (.start rfl ()) exchange (by decide), rfl, rfl, rfl, rfl, rfl, by decide⟩

end UserThreads
