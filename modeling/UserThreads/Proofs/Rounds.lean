import UserThreads.Proofs.Shift

/-!
Rounds and the line: how many rounds each thread has survived, and in which order
threads got in line for the processor, read off the moves made so far.
-/

namespace UserThreads

variable {n k : Nat} {C ν : Type}

/-- The decision that is to be made next, with the scheduler that makes it. -/
def Machine.deciding? (machine : Machine n k C ν) :
    Option (Scheduler (Context n k C ν) ν × Except Fault (Rotation (Context n k C ν) ν)) :=
  match machine.todo with
  | .schedule index parking :: rest =>
      (machine.runtime index).scheduler.map fun scheduler =>
        let saved := (machine.withTodo rest).save scheduler
        (saved, saved.rotate ((machine.withTodo rest).waiters? parking))
  | _ => none

/-- The thread that survives a round by a decision: it is taken out for another one,
or for itself, and has not exited. -/
def Rotation.survivor? {κ : Type} (rotation : Rotation κ ν) (outgoing : Block κ ν) :
    Option ThreadId :=
  if outgoing.status = .completed then none else rotation.switch.map Switch.outgoing

namespace Moment

def decides (moment : Moment n k C ν) : Bool :=
  match moment.move with
  | .work => moment.machine.deciding?.isSome
  | _ => false

def survivor? (moment : Moment n k C ν) : Option ThreadId :=
  match moment.move, moment.machine.deciding? with
  | .work, some (scheduler, .ok rotation) => rotation.survivor? scheduler.current
  | _, _ => none

end Moment

/-- The number of decisions made. -/
def decisions (past : List (Moment n k C ν)) : Nat := past.countP Moment.decides

/-- The rounds that a thread has survived. -/
def rounds (thread : ThreadId) (past : List (Moment n k C ν)) : Nat :=
  (past.filterMap Moment.survivor?).count thread

/-- A line of threads after a move that leaves `waiting` in it: those that stay keep
their order, and those that are new stand behind them. -/
def lineAfter (line waiting : List ThreadId) : List ThreadId :=
  line.filter (· ∈ waiting) ++ waiting.filter (· ∉ line)

/-- The ready threads in the order in which they got in line. -/
def line (home : Fin n) : List (Moment n k C ν) → List ThreadId
  | [] => []
  | moment :: past => lineAfter (line home past) ((moment.after.readyOn home).map Block.id)

variable {home : Fin n} {past : List (Moment n k C ν)} {machine after : Machine n k C ν}
  {action : Action n k C ν} {rest : List (Action n k C ν)} {parking : Option (Fin k)}
  {scheduler : Scheduler (Context n k C ν) ν} {rotation : Rotation (Context n k C ν) ν}

section line

variable {older waiting : List ThreadId} {thread : ThreadId}

theorem mem_lineAfter : thread ∈ lineAfter older waiting ↔ thread ∈ waiting := by
  by_cases member : thread ∈ older <;> simp [lineAfter, member]

theorem nodup_lineAfter (lined : older.Nodup) (distinct : waiting.Nodup) :
    (lineAfter older waiting).Nodup := by
  refine List.nodup_append.mpr ⟨lined.filter _, distinct.filter _, ?_⟩
  rintro thread stays other comes rfl
  simp only [List.mem_filter, decide_eq_true_eq] at stays comes
  exact comes.2 stays.1

/-- If at most one thread gets in line, it stands behind all others. -/
theorem lineAfter_eq {new : Option ThreadId} (distinct : waiting.Nodup)
    (fresh : ∀ thread ∈ new, thread ∉ older)
    (known : ∀ thread ∈ waiting, thread ∈ older ++ new.toList) :
    lineAfter older waiting = (older ++ new.toList).filter (· ∈ waiting) := by
  rw [lineAfter, List.filter_append]
  congr 1
  have newcomer (thread : ThreadId) (member : thread ∈ waiting) (strange : thread ∉ older) :
      new = some thread := by
    have found := (List.mem_append.mp (known thread member)).resolve_left strange
    exact Option.mem_toList.mp found
  cases new with
  | none =>
      refine List.filter_eq_nil_iff.mpr fun thread member strange => ?_
      cases newcomer thread member (of_decide_eq_true strange)
  | some comer =>
      by_cases member : comer ∈ waiting
      · have alone : (waiting.filter (· ∉ older)).Perm [comer] := by
          refine (List.perm_ext_iff_of_nodup (distinct.filter _) (by simp)).mpr ?_
          intro thread
          rw [List.mem_filter, List.mem_singleton, decide_eq_true_eq]
          constructor
          · rintro ⟨member, strange⟩
            exact (Option.some.inj (newcomer thread member strange)).symm
          · rintro rfl
            exact ⟨member, fresh thread rfl⟩
        rw [List.perm_singleton.mp alone]
        simp [member]
      · rw [List.filter_eq_nil_iff.mpr]
        · simp [member]
        · intro thread inside strange
          cases newcomer thread inside (of_decide_eq_true strange)
          exact member inside

end line

theorem rounds_cons (thread : ThreadId) (moment : Moment n k C ν) :
    rounds thread (moment :: past) =
      rounds thread past + if moment.survivor? = some thread then 1 else 0 := by
  rw [rounds, List.filterMap_cons, rounds]
  cases survives : moment.survivor? with
  | none => simp
  | some other => by_cases same : other = thread <;> simp [same]

theorem rounds_of_none {moment : Moment n k C ν} (none : moment.survivor? = none)
    (thread : ThreadId) : rounds thread (moment :: past) = rounds thread past := by
  rw [rounds_cons, none, if_neg (by simp), Nat.add_zero]

theorem Moment.decides_of_survivor {moment : Moment n k C ν} {thread : ThreadId}
    (survives : moment.survivor? = some thread) : moment.decides = true := by
  unfold survivor? at survives
  split at survives
  · rename_i _ _ working decided
    simp [decides, working, decided]
  · cases survives

theorem rounds_le_decisions (thread : ThreadId) (past : List (Moment n k C ν)) :
    rounds thread past ≤ decisions past := by
  induction past with
  | nil => exact Nat.le_refl 0
  | cons moment past ih =>
      rw [rounds_cons, decisions, List.countP_cons, ← decisions]
      split
      · rename_i survives
        rw [if_pos (Moment.decides_of_survivor survives)]
        omega
      · omega

theorem survivor_own {move : Move n k C ν} (own : move ≠ .work) :
    Moment.survivor? ⟨machine, move⟩ = none := by
  cases move with
  | work => exact absurd rfl own
  | _ => rfl

theorem survivor_work (todo : machine.todo = action :: rest)
    (apart : ∀ index parking, action ≠ .schedule index parking) :
    Moment.survivor? ⟨machine, .work⟩ = none := by
  have undecided : machine.deciding? = none := by
    rw [Machine.deciding?, todo]
    cases action with
    | schedule => exact absurd rfl (apart _ _)
    | _ => rfl
  simp [Moment.survivor?, undecided]

theorem survivor_decided (todo : machine.todo = .schedule home parking :: rest)
    (present : (machine.runtime home).scheduler = some scheduler)
    (rotated : ((machine.withTodo rest).save scheduler).rotate
      ((machine.withTodo rest).waiters? parking) = .ok rotation) :
    Moment.survivor? ⟨machine, .work⟩ =
      rotation.survivor? ((machine.withTodo rest).save scheduler).current := by
  have decided : machine.deciding? =
      some ((machine.withTodo rest).save scheduler, .ok rotation) := by
    rw [Machine.deciding?, todo]
    simp only [present, Option.map_some, rotated]
  simp [Moment.survivor?, decided]

namespace Machine

/-- The blocks of the threads that a runtime holds and of those parked on mutexes. -/
def held (machine : Machine n k C ν) (home : Fin n) : List (Block (Context n k C ν) ν) :=
  match (machine.runtime home).scheduler with
  | none => []
  | some scheduler => scheduler.current ::
      (scheduler.ready.elements ++ scheduler.completed.elements ++ machine.parked)

theorem mem_held (present : (machine.runtime home).scheduler = some scheduler)
    {block : Block (Context n k C ν) ν} : block ∈ machine.held home ↔
      block = scheduler.current ∨ block ∈ scheduler.ready.elements ∨
        block ∈ scheduler.completed.elements ∨ ∃ mutex, block ∈ machine.parkedOn mutex := by
  simp only [held, present, List.mem_cons, List.mem_append, mem_parked, or_assoc]

section held

variable {block : Block (Context n k C ν) ν}

theorem held_current (present : (machine.runtime home).scheduler = some scheduler) :
    scheduler.current ∈ machine.held home := (mem_held present).mpr (.inl rfl)

theorem held_ready (present : (machine.runtime home).scheduler = some scheduler)
    (member : block ∈ scheduler.ready.elements) : block ∈ machine.held home :=
  (mem_held present).mpr (.inr (.inl member))

theorem held_completed (present : (machine.runtime home).scheduler = some scheduler)
    (member : block ∈ scheduler.completed.elements) : block ∈ machine.held home :=
  (mem_held present).mpr (.inr (.inr (.inl member)))

theorem held_parked {mutex : Fin k} (present : (machine.runtime home).scheduler = some scheduler)
    (member : block ∈ machine.parkedOn mutex) : block ∈ machine.held home :=
  (mem_held present).mpr (.inr (.inr (.inr ⟨mutex, member⟩)))

end held

/-- The number of a thread has not been given to any. -/
def Unborn (home : Fin n) (machine : Machine n k C ν) (thread : ThreadId) : Prop :=
  ∀ scheduler, (machine.runtime home).scheduler = some scheduler →
    scheduler.nextId.toNat ≤ thread.number.toNat

end Machine

/-- The line holds the ready threads. -/
structure Lined (home : Fin n) (past : List (Moment n k C ν)) (machine : Machine n k C ν) :
    Prop where
  distinct : (line home past).Nodup
  ready : ∀ thread, thread ∈ line home past ↔ thread ∈ (machine.readyOn home).map Block.id

/-- Nobody waits in two places. -/
theorem Sound.waiting_distinct (sound : Sound home past machine) :
    ((machine.readyOn home ++ machine.parked).map Block.id).Nodup := by
  cases present : (machine.runtime home).scheduler with
  | none =>
      have nobody : machine.parked = [] := by
        refine List.eq_nil_iff_forall_not_mem.mpr fun block member => ?_
        obtain ⟨mutex, member⟩ := Machine.mem_parked.mp member
        rw [(sound.unpopulated present).parked] at member
        cases member
      simp [Machine.readyOn, present, nobody]
  | some scheduler =>
      have distinct := (sound.populated scheduler present).distinct
      rw [Machine.readyOn_eq present]
      have numbers : (((scheduler.ready.elements ++ machine.parked).map Block.id).map
          fun thread => thread.number.toNat).Nodup := by
        rw [List.map_map]
        refine List.Nodup.sublist ?_ (List.nodup_append.mp distinct).1
        refine (List.Sublist.map _ ?_).trans (List.sublist_cons_self ..)
        exact (List.sublist_append_left ..).append (List.Sublist.refl _)
      exact List.Pairwise.of_map _ (fun _ _ apart same => apart (same ▸ rfl)) numbers

theorem Sound.ready_distinct (sound : Sound home past machine) :
    ((machine.readyOn home).map Block.id).Nodup := by
  have distinct := sound.waiting_distinct
  rw [List.map_append] at distinct
  exact (List.nodup_append.mp distinct).1

theorem Sound.parked_distinct (sound : Sound home past machine) (mutex : Fin k) :
    ((machine.parkedOn mutex).map Block.id).Nodup := by
  have distinct := sound.waiting_distinct
  obtain ⟨before, after, split⟩ := List.append_of_mem (List.mem_finRange mutex)
  rw [List.map_append, Machine.parked, split, List.flatMap_append, List.flatMap_cons,
    List.map_append, List.map_append] at distinct
  have behind := (List.nodup_append.mp (List.nodup_append.mp distinct).2.1).2.1
  exact (List.nodup_append.mp behind).1

theorem Run.lined (run : Run home past machine) (going : machine.outcome = none) :
    Lined home past machine := by
  have distinct := (run.sound going).ready_distinct
  induction run with
  | start fresh code =>
      refine ⟨List.nodup_nil, fun thread => ?_⟩
      simp [line, Machine.readyOn, fresh, Runtime.new]
  | move run before fits ih =>
      have lined := ih before (run.sound before).ready_distinct
      exact ⟨nodup_lineAfter lined.distinct distinct, fun thread => mem_lineAfter⟩

namespace Shift

/-- At most one thread gets in line by a piece of work other than a decision. -/
theorem readyOn (shift : Shift home machine after action) :
    after.readyOn home = machine.readyOn home ∨
      ∃ block, after.readyOn home = OrderedQueue.insertByAge block (machine.readyOn home) := by
  cases shift with
  | keeps same | drops same => exact .inl (by rw [Machine.readyOn, same, Machine.readyOn])
  | activates absent present =>
      exact .inl (by rw [Machine.readyOn, present, Machine.readyOn, absent]; rfl)
  | begins present seated | blocks present seated | completes present seated
  | reaps present seated =>
      exact .inl (by rw [Machine.readyOn_eq seated, Machine.readyOn_eq present])
  | issues present seated | wakes present seated =>
      rw [Machine.readyOn_eq seated, Machine.readyOn_eq present]
      exact .inr ⟨_, rfl⟩

theorem unborn (shift : Shift home machine after action) {thread : ThreadId}
    (unborn : after.Unborn home thread) : machine.Unborn home thread := by
  intro scheduler now
  cases shift with
  | keeps same | drops same => exact unborn scheduler (same.trans now)
  | activates absent => simp [absent] at now
  | issues present seated next =>
      obtain rfl := Option.some.inj (present.symm.trans now)
      have later := unborn _ seated
      exact Nat.le_trans (Nat.le_of_lt (next ▸ Nat.lt_succ_self _)) later
  | begins present seated | blocks present seated | completes present seated
  | reaps present seated | wakes present seated =>
      obtain rfl := Option.some.inj (present.symm.trans now)
      have later := unborn _ seated
      exact later

/-- No thread grows older by a piece of work other than a decision. -/
theorem held (shift : Shift home machine after action)
    (unparked : (machine.runtime home).scheduler = none → ∀ mutex, machine.parkedOn mutex = [])
    {block : Block (Context n k C ν) ν} (member : block ∈ after.held home) :
    (∃ earlier ∈ machine.held home, block.id = earlier.id ∧ block.age = earlier.age) ∨
      machine.Unborn home block.id ∧ block.age = 0 := by
  have stays {earlier : Block (Context n k C ν) ν} (inside : earlier ∈ machine.held home)
      (id : block.id = earlier.id) (age : block.age = earlier.age) :
      (∃ earlier ∈ machine.held home, block.id = earlier.id ∧ block.age = earlier.age) ∨
        machine.Unborn home block.id ∧ block.age = 0 := .inl ⟨earlier, inside, id, age⟩
  cases shift with
  | keeps same parked =>
      have unchanged : after.held home = machine.held home := by
        rw [Machine.held, same, Machine.parked_congr parked, Machine.held]
      exact stays (unchanged ▸ member) rfl rfl
  | drops same unparkedOn elsewhere =>
      rename_i mutex
      cases present : (machine.runtime home).scheduler with
      | none => simp [Machine.held, same, present] at member
      | some scheduler =>
          have fewer {other : Fin k} (inside : block ∈ after.parkedOn other) :
              block ∈ machine.parkedOn other := by
            by_cases equal : other = mutex
            · rw [equal, unparkedOn] at inside
              cases inside
            · exact elsewhere other equal ▸ inside
          rw [Machine.mem_held (same.trans present)] at member
          refine stays ((Machine.mem_held present).mpr ?_) rfl rfl
          exact member.imp_right
            (.imp_right (.imp_right fun ⟨other, inside⟩ => ⟨other, fewer inside⟩))
  | activates absent seated parked =>
      rw [Machine.mem_held seated] at member
      rcases member with rfl | member | member | ⟨mutex, member⟩
      · exact .inr ⟨fun scheduler now => by simp [absent] at now, rfl⟩
      · cases member
      · cases member
      · rw [parked, unparked absent mutex] at member
        cases member
  | issues present seated next parked =>
      rw [Machine.mem_held seated] at member
      rcases member with rfl | member | member | ⟨mutex, member⟩
      · exact stays (Machine.held_current present) rfl rfl
      · rcases OrderedQueue.mem_insertByAge.mp member with rfl | member
        · refine .inr ⟨fun scheduler now => ?_, rfl⟩
          obtain rfl := Option.some.inj (present.symm.trans now)
          exact Nat.le_refl _
        · exact stays (Machine.held_ready present member) rfl rfl
      · exact stays (Machine.held_completed present member) rfl rfl
      · rw [parked] at member
        exact stays (Machine.held_parked present member) rfl rfl
  | begins present seated parked | blocks present seated parked | completes present seated parked =>
      rw [Machine.mem_held seated] at member
      rcases member with rfl | member | member | ⟨mutex, member⟩
      · exact stays (Machine.held_current present) rfl rfl
      · exact stays (Machine.held_ready present member) rfl rfl
      · exact stays (Machine.held_completed present member) rfl rfl
      · rw [parked] at member
        exact stays (Machine.held_parked present member) rfl rfl
  | reaps present seated taken parked =>
      rw [Machine.mem_held seated] at member
      rcases member with rfl | member | member | ⟨mutex, member⟩
      · exact stays (Machine.held_current present) rfl rfl
      · exact stays (Machine.held_ready present member) rfl rfl
      · have inside := taken.mem_iff.mpr (List.mem_cons_of_mem _ member)
        exact stays (Machine.held_completed present inside) rfl rfl
      · rw [parked] at member
        exact stays (Machine.held_parked present member) rfl rfl
  | wakes present seated first elsewhere =>
      rename_i mutex scheduler waiter
      rw [Machine.mem_held seated] at member
      rcases member with rfl | member | member | ⟨other, member⟩
      · exact stays (Machine.held_current present) rfl rfl
      · rcases OrderedQueue.mem_insertByAge.mp member with rfl | member
        · have inside : waiter ∈ machine.parkedOn mutex := first ▸ List.mem_cons_self
          exact stays (Machine.held_parked present inside) rfl rfl
        · exact stays (Machine.held_ready present member) rfl rfl
      · exact stays (Machine.held_completed present member) rfl rfl
      · have inside : block ∈ machine.parkedOn other := by
          by_cases equal : other = mutex
          · subst equal
            exact first ▸ List.mem_cons_of_mem _ member
          · exact elsewhere other equal ▸ member
        exact stays (Machine.held_parked present inside) rfl rfl

end Shift

/-- The running thread's block after a decision. -/
structure Scheduler.Filed {κ : Type} (scheduler : Scheduler κ ν) (rotation : Rotation κ ν)
    (block : Block κ ν) : Prop where
  id : block.id = scheduler.current.id
  context : block.context = scheduler.current.context
  age : block.age = scheduler.current.age +
    if rotation.survivor? scheduler.current = some scheduler.current.id then 1 else 0

namespace Scheduler.Decides

variable {κ : Type} {scheduler : Scheduler κ ν} {waiting : Option (WaitQueue κ ν)}
  {rotation : Rotation κ ν} {block : Block κ ν}

theorem seated (decides : scheduler.Decides waiting rotation)
    (member : block ∈ rotation.scheduler.current :: rotation.scheduler.ready.elements) :
    block ∈ scheduler.ready.elements ∨ scheduler.Filed rotation block := by
  cases decides with
  | stays alone =>
      rcases List.mem_cons.mp member with rfl | member
      · exact .inr ⟨Block.unblock_id _, Block.unblock_context _, by simp [Rotation.survivor?]⟩
      · exact .inl member
  | requeues status filed older =>
      rcases OrderedQueue.mem_insertByAge.mp (filed ▸ member) with rfl | member
      · exact .inr ⟨rfl, rfl, by simp [Rotation.survivor?, status, Block.aged, older]⟩
      · exact .inl member
  | completes status next | parks place status next => exact .inl (next ▸ member)

theorem completed (decides : scheduler.Decides waiting rotation)
    (member : block ∈ rotation.scheduler.completed.elements) :
    block ∈ scheduler.completed.elements ∨ scheduler.Filed rotation block := by
  cases decides with
  | stays | requeues | parks => exact .inl member
  | completes status next same =>
      rcases OrderedQueue.mem_insertByAge.mp member with rfl | member
      · exact .inr ⟨rfl, rfl, by simp [Rotation.survivor?, status, Block.aged, same]⟩
      · exact .inl member

end Scheduler.Decides

namespace Machine.Scheduled

theorem parked (scheduled : Scheduled home parking machine rotation after)
    (decides : (machine.save scheduler).Decides (machine.waiters? parking) rotation)
    {mutex : Fin k} {block : Block (Context n k C ν) ν} (member : block ∈ after.parkedOn mutex) :
    block ∈ machine.parkedOn mutex ∨ (machine.save scheduler).Filed rotation block := by
  cases decides with
  | stays | requeues | completes => exact .inl (scheduled.unparked rfl mutex ▸ member)
  | parks place status next older =>
      obtain ⟨index, rfl, rfl⟩ := Option.map_eq_some_iff.mp place
      by_cases same : mutex = index
      · subst same
        rw [scheduled.joined rfl] at member
        rcases OrderedQueue.mem_insertByAge.mp member with rfl | member
        · exact .inr ⟨rfl, rfl, by simp [Rotation.survivor?, status, Block.aged, older]⟩
        · exact .inl member
      · exact .inl (scheduled.elsewhere rfl same ▸ member)

end Machine.Scheduled

end UserThreads
