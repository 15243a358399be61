import Mathlib.Algebra.GroupWithZero.Nat
import UserThreads.Proofs.Ascending
import UserThreads.Proofs.Rotation

/-!
How long a ready thread waits among threads that do nothing but give way to each other.
-/

namespace UserThreads.Scheduler

variable {κ ν : Type} {scheduler : Scheduler κ ν} {thread : Block κ ν}
  {before after : List (Block κ ν)}

/-- The threads that take turns. -/
def circle (scheduler : Scheduler κ ν) : List ThreadId :=
  scheduler.current.id :: scheduler.ready.elements.map Block.id

/-- Every thread may run, and each has a block of its own in its place by age. -/
structure Circling (scheduler : Scheduler κ ν) : Prop where
  distinct : scheduler.circle.Nodup
  ascending : OrderedQueue.Ascending scheduler.ready.elements
  willing : ∀ block ∈ scheduler.current :: scheduler.ready.elements, block.status = .ready

/-- The scheduler after this many decisions on which nothing else is done. -/
def rotations : Nat → Scheduler κ ν → Except Fault (Scheduler κ ν)
  | 0, scheduler => .ok scheduler
  | count + 1, scheduler =>
      match scheduler.rotate none with
      | .error fault => .error fault
      | .ok rotation => rotations count rotation.scheduler

/-- The decision that gives `thread` its turn, when the threads of `before` are ahead of it: each
younger thread is chosen until it is as old. -/
def turn (scheduler : Scheduler κ ν) (before : List (Block κ ν)) (thread : Block κ ν) : Nat :=
  1 + (thread.age - scheduler.current.age - 1) +
    ((scheduler.ready.elements.filter fun other => decide (other.age < thread.age)).map
      fun other => thread.age - other.age).sum +
    (before.filter fun other => other.age == thread.age).length

/-- The decisions by which others are chosen before a thread of age `age` is. -/
def delay (current : Block κ ν) (before : List (Block κ ν)) (age : Nat) : Nat :=
  (age - current.age - 1) + (before.map fun other => age - other.age - 1 + 1).sum

/-- The others are ahead of a thread until they are as old, and those of its age once. -/
theorem sum_overtakes {age : Nat} (early : ∀ other ∈ before, other.age ≤ age) :
    (before.map fun other => age - other.age - 1 + 1).sum =
      ((before.filter fun other => decide (other.age < age)).map fun other => age - other.age).sum +
      (before.filter fun other => other.age == age).length := by
  induction before with
  | nil => rfl
  | cons first rest ih =>
      have counted := ih fun other member => early other (List.mem_cons_of_mem _ member)
      rcases Nat.lt_or_eq_of_le (early first List.mem_cons_self) with less | same
      · have other : (first.age == age) = false := beq_false_of_ne (Nat.ne_of_lt less)
        simp only [List.map_cons, List.filter_cons, less, other, decide_true, if_true,
          List.sum_cons, counted]
        simp only [Bool.false_eq_true, if_false]
        omega
      · simp only [List.map_cons, List.filter_cons, same, Nat.lt_irrefl, decide_false,
          BEq.rfl, if_true, List.sum_cons, List.length_cons, counted]
        simp only [Bool.false_eq_true, if_false]
        omega

theorem turn_eq (sorted : OrderedQueue.Ascending scheduler.ready.elements)
    (line : scheduler.ready.elements = before ++ thread :: after) :
    scheduler.turn before thread = delay scheduler.current before thread.age + 1 := by
  rw [line] at sorted
  obtain ⟨-, later, ahead⟩ := List.pairwise_append.mp sorted
  have nobody : (thread :: after).filter (fun other => decide (other.age < thread.age)) = [] := by
    refine List.filter_eq_nil_iff.mpr fun other member => ?_
    simp only [decide_eq_true_eq, Nat.not_lt]
    rcases List.mem_cons.mp member with rfl | member
    · exact Nat.le_refl _
    · exact (List.pairwise_cons.mp later).1 other member
  have early (other : Block κ ν) (member : other ∈ before) : other.age ≤ thread.age :=
    ahead other member thread List.mem_cons_self
  rw [turn, delay, line, List.filter_append, nobody, List.append_nil, sum_overtakes early]
  omega

section decision

/-- What a decision among circling threads comes to. -/
theorem Circling.rotated (circling : Circling scheduler) {rotation : Rotation κ ν}
    (rotated : scheduler.rotate none = .ok rotation) :
    scheduler.ready.elements = [] ∧ rotation.scheduler = scheduler ∨
      OrderedQueue.insertByAge (scheduler.current.aged (scheduler.current.age + 1))
        scheduler.ready.elements =
        rotation.scheduler.current :: rotation.scheduler.ready.elements := by
  have willing := circling.willing scheduler.current List.mem_cons_self
  cases decides_of_rotate rotated with
  | stays alone =>
      have kept : scheduler.current.unblock = scheduler.current := if_neg (by simp [willing])
      refine .inl ⟨alone, ?_⟩
      rw [kept]
  | requeues status filed older => exact .inr (older ▸ filed)
  | completes status => cases willing.symm.trans status
  | parks place => cases place

theorem Circling.next (circling : Circling scheduler) {rotation : Rotation κ ν}
    (rotated : scheduler.rotate none = .ok rotation) :
    Circling rotation.scheduler ∧ rotation.scheduler.circle.Perm scheduler.circle := by
  rcases circling.rotated rotated with ⟨-, same⟩ | filed
  · rw [same]
    exact ⟨circling, .refl _⟩
  · have arranged := OrderedQueue.insertByAge_perm
      (scheduler.current.aged (scheduler.current.age + 1)) scheduler.ready.elements
    have sorted : OrderedQueue.Ascending (OrderedQueue.insertByAge
        (scheduler.current.aged (scheduler.current.age + 1)) scheduler.ready.elements) :=
      OrderedQueue.ascending_insertByAge circling.ascending
    rw [filed] at arranged sorted
    have circle : rotation.scheduler.circle.Perm scheduler.circle := arranged.map Block.id
    refine ⟨⟨circle.nodup_iff.mpr circling.distinct, (List.pairwise_cons.mp sorted).2, ?_⟩, circle⟩
    intro block member
    rcases List.mem_cons.mp (arranged.mem_iff.mp member) with rfl | member
    · exact circling.willing scheduler.current List.mem_cons_self
    · exact circling.willing block (List.mem_cons_of_mem _ member)

theorem Circling.decides (circling : Circling scheduler)
    (room : scheduler.current.age + 1 < Block.ageLimit) :
    ∃ rotation, scheduler.rotate none = .ok rotation := by
  have willing := circling.willing scheduler.current List.mem_cons_self
  exact rotate_exists room fun blocked => by cases willing.symm.trans blocked

/-- A decision fails only if the running thread is as old as can be. -/
theorem Circling.faults (circling : Circling scheduler) {fault : Fault}
    (faulted : scheduler.rotate none = .error fault) :
    fault = .ageOverflow ∧ Block.ageLimit ≤ scheduler.current.age + 1 := by
  have willing := circling.willing scheduler.current List.mem_cons_self
  by_cases room : scheduler.current.age + 1 < Block.ageLimit
  · obtain ⟨rotation, rotated⟩ := circling.decides room
    rw [rotated] at faulted
    cases faulted
  · refine ⟨?_, Nat.le_of_not_gt room⟩
    unfold rotate at faulted
    split at faulted
    · cases faulted
    · simp only [outgoing?, Block.growOlder?, willing, room, if_false, reduceCtorEq] at faulted
      cases faulted
      rfl

/-- The running thread is filed among those ahead of a thread that waits, or behind it. -/
theorem filed_around (younger : ∀ other ∈ before, other.age ≤ thread.age) :
    ∃ before' after',
      OrderedQueue.insertByAge (scheduler.current.aged (scheduler.current.age + 1))
        (before ++ thread :: after) = before' ++ thread :: after' ∧
      (∀ other ∈ before', other.age ≤ thread.age) ∧
      delay scheduler.current before thread.age =
        (before'.map fun other => thread.age - other.age - 1 + 1).sum := by
  by_cases early : scheduler.current.age + 1 < thread.age
  · refine ⟨_, after, OrderedQueue.insertByAge_ahead early, fun other member => ?_, ?_⟩
    · rcases OrderedQueue.mem_insertByAge.mp member with rfl | member
      · exact Nat.le_of_lt early
      · exact younger other member
    · rw [((OrderedQueue.insertByAge_perm _ before).map _).sum_nat, List.map_cons, List.sum_cons,
        delay]
      simp only [Block.aged]
      omega
  · let outgoing := scheduler.current.aged (scheduler.current.age + 1)
    have late : Aged.age thread ≤ Aged.age outgoing := Nat.le_of_not_gt early
    refine ⟨before, OrderedQueue.insertByAge outgoing after, ?_, younger, ?_⟩
    · rw [OrderedQueue.insertByAge_behind fun other member =>
        Nat.le_trans (younger other member) late, OrderedQueue.insertByAge, if_pos late]
    · rw [delay]
      omega

/-- The decision either chooses a thread that waits or lets one of those ahead of it go first. -/
theorem Circling.approaches (circling : Circling scheduler)
    (line : scheduler.ready.elements = before ++ thread :: after) {rotation : Rotation κ ν}
    (rotated : scheduler.rotate none = .ok rotation) :
    delay scheduler.current before thread.age = 0 ∧ rotation.scheduler.current = thread ∨
      rotation.scheduler.current.age ≤ thread.age ∧ ∃ before' after',
        rotation.scheduler.ready.elements = before' ++ thread :: after' ∧
        delay scheduler.current before thread.age =
          delay rotation.scheduler.current before' thread.age + 1 := by
  rcases circling.rotated rotated with ⟨alone, -⟩ | filed
  · simp [line] at alone
  · have ahead := (List.pairwise_append.mp (line ▸ circling.ascending)).2.2
    obtain ⟨before', after', filing, young, delayed⟩ :=
      filed_around fun other member => ahead other member thread List.mem_cons_self
    rw [line, filing] at filed
    cases before' with
    | nil =>
        obtain ⟨chosen, -⟩ := List.cons_eq_cons.mp filed
        exact .inl ⟨delayed, chosen.symm⟩
    | cons first rest =>
        obtain ⟨chosen, rest'⟩ := List.cons_eq_cons.mp filed
        refine .inr ⟨chosen ▸ young first List.mem_cons_self, rest, after', rest'.symm, ?_⟩
        rw [delayed, ← chosen, delay, List.map_cons, List.sum_cons]
        omega

end decision

section run

theorem Circling.later (circling : Circling scheduler) {count : Nat} {reached : Scheduler κ ν}
    (rotated : rotations count scheduler = .ok reached) :
    Circling reached ∧ reached.circle.Perm scheduler.circle := by
  fun_induction rotations count scheduler with
  | case1 scheduler =>
      cases rotated
      exact ⟨circling, .refl _⟩
  | case2 => cases rotated
  | case3 count scheduler rotation decided ih =>
      obtain ⟨circling', circle⟩ := circling.next decided
      obtain ⟨circling'', circle'⟩ := ih circling' rotated
      exact ⟨circling'', circle'.trans circle⟩

theorem Circling.fails (circling : Circling scheduler) {count : Nat} {fault : Fault}
    (faulted : rotations count scheduler = .error fault) : fault = .ageOverflow := by
  fun_induction rotations count scheduler with
  | case1 => cases faulted
  | case2 count scheduler fault' decided =>
      cases faulted
      exact (circling.faults decided).1
  | case3 count scheduler rotation decided ih => exact ih (circling.next decided).1 faulted

theorem rotations_add (first second : Nat) (scheduler : Scheduler κ ν) :
    rotations (first + second) scheduler =
      match rotations first scheduler with
      | .error fault => .error fault
      | .ok reached => rotations second reached := by
  induction first generalizing scheduler with
  | zero => rw [Nat.zero_add, rotations]
  | succ first ih =>
      rw [Nat.succ_add, rotations, rotations]
      cases scheduler.rotate none with
      | error fault => rfl
      | ok rotation => exact ih rotation.scheduler

/-- A thread that waits is not the running one. -/
theorem Circling.waiting (circling : Circling scheduler)
    (line : scheduler.ready.elements = before ++ thread :: after) :
    scheduler.current.id ≠ thread.id := by
  intro same
  refine (List.nodup_cons.mp circling.distinct).1 ?_
  rw [same, line]
  exact List.mem_map_of_mem (by simp)

theorem Circling.others_first (circling : Circling scheduler)
    (line : scheduler.ready.elements = before ++ thread :: after) {count : Nat}
    (early : count ≤ delay scheduler.current before thread.age) {reached : Scheduler κ ν}
    (rotated : rotations count scheduler = .ok reached) :
    ∃ before' after', reached.ready.elements = before' ++ thread :: after' ∧
      delay scheduler.current before thread.age =
        delay reached.current before' thread.age + count := by
  fun_induction rotations count scheduler generalizing before after with
  | case1 scheduler =>
      cases rotated
      exact ⟨before, after, line, rfl⟩
  | case2 => cases rotated
  | case3 count scheduler rotation decided ih =>
      rcases circling.approaches line decided with ⟨due, -⟩ | ⟨-, before', after', line', nearer⟩
      · omega
      · obtain ⟨before'', after'', line'', nearer'⟩ :=
          ih (circling.next decided).1 line' (by omega) rotated
        exact ⟨before'', after'', line'', by omega⟩

theorem Circling.chosen (circling : Circling scheduler)
    (line : scheduler.ready.elements = before ++ thread :: after) {reached : Scheduler κ ν}
    (rotated : rotations (delay scheduler.current before thread.age + 1) scheduler = .ok reached) :
    reached.current = thread := by
  rw [rotations_add] at rotated
  cases first : rotations (delay scheduler.current before thread.age) scheduler with
  | error fault =>
      rw [first] at rotated
      cases rotated
  | ok next =>
      obtain ⟨before', after', line', due⟩ := circling.others_first line (Nat.le_refl _) first
      simp only [first, rotations] at rotated
      cases decided : next.rotate none with
      | error fault => simp only [decided, reduceCtorEq] at rotated
      | ok rotation =>
          simp only [decided, Except.ok.injEq] at rotated
          rcases (circling.later first).1.approaches line' decided with
            ⟨-, chosen⟩ | ⟨-, _, _, -, more⟩
          · rw [← rotated, chosen]
          · omega

/-- No age overflows before the turn of a thread that may grow older itself. -/
theorem Circling.reaches (circling : Circling scheduler)
    (line : scheduler.ready.elements = before ++ thread :: after)
    (room : scheduler.current.age + 1 < Block.ageLimit) (room' : thread.age + 1 < Block.ageLimit) :
    ∃ reached, rotations (delay scheduler.current before thread.age + 1) scheduler =
      .ok reached := by
  generalize due : delay scheduler.current before thread.age = count
  induction count generalizing scheduler before after with
  | zero =>
      obtain ⟨rotation, decided⟩ := circling.decides room
      exact ⟨rotation.scheduler, by rw [rotations, decided]; rfl⟩
  | succ count ih =>
      obtain ⟨rotation, decided⟩ := circling.decides room
      rcases circling.approaches line decided with
        ⟨none, -⟩ | ⟨younger, before', after', line', nearer⟩
      · omega
      · obtain ⟨reached, rotated⟩ :=
          ih (circling.next decided).1 line' (by omega) (by omega)
        exact ⟨reached, by rw [rotations, decided]; exact rotated⟩

theorem Circling.comes (circling : Circling scheduler)
    (line : scheduler.ready.elements = before ++ thread :: after)
    (noOverflow : rotations (scheduler.turn before thread) scheduler ≠ .error .ageOverflow) :
    ∃ reached, rotations (scheduler.turn before thread) scheduler = .ok reached ∧
      reached.current = thread := by
  cases rotated : rotations (scheduler.turn before thread) scheduler with
  | error fault => exact absurd (circling.fails rotated ▸ rotated) noOverflow
  | ok reached =>
      rw [turn_eq circling.ascending line] at rotated
      exact ⟨reached, rfl, circling.chosen line rotated⟩

/-- Nobody starves: each thread of the circle is chosen once more. -/
theorem Circling.again {scheduler : Scheduler κ ν} (circling : Circling scheduler) {id : ThreadId}
    (member : id ∈ scheduler.circle) : ∃ count, 0 < count ∧
      (rotations count scheduler ≠ .error .ageOverflow →
        ∃ reached, rotations count scheduler = .ok reached ∧ reached.current.id = id) := by
  -- A thread in the line comes when its turn does, and the running one is in the line next.
  have inLine {scheduler : Scheduler κ ν} (circling : Circling scheduler)
      (member : id ∈ scheduler.ready.elements.map Block.id) : ∃ count, 0 < count ∧
        (rotations count scheduler ≠ .error .ageOverflow →
          ∃ reached, rotations count scheduler = .ok reached ∧ reached.current.id = id) := by
    obtain ⟨thread, present, rfl⟩ := List.mem_map.mp member
    obtain ⟨before, after, line⟩ := List.append_of_mem present
    refine ⟨scheduler.turn before thread, by rw [turn]; omega, fun noOverflow => ?_⟩
    obtain ⟨reached, rotated, chosen⟩ := circling.comes line noOverflow
    exact ⟨reached, rotated, congrArg Block.id chosen⟩
  cases decided : scheduler.rotate none with
  | error fault =>
      obtain ⟨rfl, -⟩ := circling.faults decided
      exact ⟨1, Nat.one_pos, fun noOverflow => absurd (by rw [rotations, decided]) noOverflow⟩
  | ok rotation =>
      obtain ⟨circling', circle⟩ := circling.next decided
      rcases List.mem_cons.mp (circle.mem_iff.mpr member) with chosen | member'
      · exact ⟨1, Nat.one_pos, fun _ =>
          ⟨rotation.scheduler, by rw [rotations, decided]; rfl, chosen.symm⟩⟩
      · obtain ⟨count, -, comes⟩ := inLine circling' member'
        have further : rotations (count + 1) scheduler = rotations count rotation.scheduler := by
          rw [rotations, decided]
        exact ⟨count + 1, Nat.succ_pos _, further ▸ comes⟩

/-- How long `thread` waits behind the threads of `before`. -/
structure Waits (scheduler : Scheduler κ ν) (before : List (Block κ ν)) (thread : Block κ ν) :
    Prop where
  /-- Until its turn others run. -/
  before_turn : ∀ count < scheduler.turn before thread, ∀ reached,
    rotations count scheduler = .ok reached → reached.current.id ≠ thread.id
  at_turn : rotations (scheduler.turn before thread) scheduler ≠ .error .ageOverflow →
    ∃ reached, rotations (scheduler.turn before thread) scheduler = .ok reached ∧
      reached.current = thread
  /-- No age overflows if neither the running thread nor this one is as old as can be. -/
  room : scheduler.current.age + 1 < Block.ageLimit → thread.age + 1 < Block.ageLimit →
    rotations (scheduler.turn before thread) scheduler ≠ .error .ageOverflow
  level : (∀ other ∈ scheduler.ready.elements, other.age = scheduler.current.age) →
    scheduler.turn before thread ≤ scheduler.ready.elements.length
  /-- However often has been decided, each thread has its turn once more. -/
  no_starvation : ∀ count reached, rotations count scheduler = .ok reached →
    ∀ id ∈ scheduler.circle, ∃ further, 0 < further ∧
      (rotations (count + further) scheduler ≠ .error .ageOverflow →
        ∃ reached', rotations (count + further) scheduler = .ok reached' ∧
          reached'.current.id = id)

/-- Among threads that do nothing but give way a ready one waits exactly until its turn. -/
theorem waits_for_turn (circling : Circling scheduler)
    (line : scheduler.ready.elements = before ++ thread :: after) :
    Waits scheduler before thread where
  before_turn count early reached rotated := by
    rw [turn_eq circling.ascending line] at early
    obtain ⟨_, _, line', -⟩ := circling.others_first line (Nat.le_of_lt_succ early) rotated
    exact (circling.later rotated).1.waiting line'
  at_turn := circling.comes line
  room young young' := by
    obtain ⟨reached, rotated⟩ := circling.reaches line young young'
    rw [turn_eq circling.ascending line, rotated]
    exact nofun
  level alike := by
    have each (other : Block κ ν) (member : other ∈ before) :
        thread.age - other.age - 1 + 1 = 1 := by
      have first := alike other (by simp [line, member])
      have second := alike thread (by simp [line])
      omega
    have none : thread.age - scheduler.current.age - 1 = 0 := by
      have := alike thread (by simp [line])
      omega
    rw [turn_eq circling.ascending line, delay, none, List.map_congr_left each, line]
    simp only [List.map_const', List.sum_replicate_nat, List.length_append, List.length_cons]
    omega
  no_starvation count reached rotated id member := by
    obtain ⟨circling', circle⟩ := circling.later rotated
    obtain ⟨further, positive, comes⟩ := circling'.again (circle.mem_iff.mpr member)
    have joined : rotations (count + further) scheduler = rotations further reached := by
      rw [rotations_add, rotated]
    exact ⟨further, positive, joined ▸ comes⟩

/-- A ready thread of the given age that has nothing else. -/
def bystander (number : UInt32) (age : Nat) : Block Unit Unit :=
  { Block.new 0 () with id := ⟨number⟩, age }

/-- One younger thread and two of the same age behind a running one. -/
def uneven : Scheduler Unit Unit where
  current := bystander 0 1
  ready := ⟨[bystander 1 0, bystander 2 2, bystander 3 2]⟩
  completed := .empty
  nextId := 4

theorem circling_uneven : Circling uneven where
  distinct := by decide
  ascending := by
    unfold OrderedQueue.Ascending
    decide
  willing := by decide

theorem waits_for_turn_uneven : Circling uneven ∧
    uneven.turn [bystander 1 0, bystander 2 2] (bystander 3 2) = 4 ∧
    Waits uneven [bystander 1 0, bystander 2 2] (bystander 3 2) ∧
    ∃ reached, rotations 4 uneven = .ok reached ∧ reached.current = bystander 3 2 := by
  have waits : Waits uneven [bystander 1 0, bystander 2 2] (bystander 3 2) :=
    waits_for_turn circling_uneven rfl
  exact ⟨circling_uneven, rfl, waits, waits.at_turn (waits.room (by decide) (by decide))⟩

end run

end UserThreads.Scheduler
