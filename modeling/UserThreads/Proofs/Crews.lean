import UserThreads.Proofs.Driving
import UserThreads.Proofs.Rounds

/-!
The crew of a runtime: the threads that its scheduler holds, known by the place where they
were created and by their ids.
-/

namespace UserThreads

variable {n k : Nat} {C ν : Type}

namespace Scheduler

variable {κ : Type}

/-- The blocks of the running, the ready and the completed threads. -/
def crew (scheduler : Scheduler κ ν) : List (Block κ ν) :=
  scheduler.current :: (scheduler.ready.elements ++ scheduler.completed.elements)

theorem mem_crew {scheduler : Scheduler κ ν} {block : Block κ ν} :
    block ∈ scheduler.crew ↔ block = scheduler.current ∨ block ∈ scheduler.ready.elements ∨
      block ∈ scheduler.completed.elements := by
  simp only [crew, List.mem_cons, List.mem_append]

end Scheduler

/-- Where a thread was created, and its id there. The initial context was created on no
runtime. -/
@[ext]
structure Passport (n : Nat) where
  birthplace : Option (Fin n)
  id : ThreadId
  deriving DecidableEq

/-- The passport of thread 0, or of a thread created on the runtime `index`. -/
def Passport.Native (index : Fin n) (passport : Passport n) : Prop :=
  passport = ⟨none, .main⟩ ∨ passport.birthplace = some index ∧ passport.id ≠ .main

namespace Passport.Native

variable {index : Fin n} {passport other : Passport n}

theorem main (native : passport.Native index) :
    passport.birthplace = none ↔ passport.id = .main := by
  rcases native with rfl | ⟨here, apart⟩
  · exact ⟨fun _ => rfl, fun _ => rfl⟩
  · exact ⟨fun none => (nomatch here.symm.trans none), fun main => absurd main apart⟩

theorem home (native : passport.Native index) {home : Fin n}
    (born : passport.birthplace = some home) : home = index := by
  rcases native with rfl | ⟨here, -⟩
  · cases born
  · exact Option.some.inj (born.symm.trans here)

theorem eq (native : passport.Native index) (native' : other.Native index)
    (same : passport.id = other.id) : passport = other := by
  refine Passport.ext ?_ same
  cases born : passport.birthplace with
  | none => exact (native'.main.mpr (same.symm.trans (native.main.mp born))).symm
  | some home =>
      cases born' : other.birthplace with
      | none => cases born.symm.trans (native.main.mpr (same.trans (native'.main.mp born')))
      | some home' => rw [native.home born, native'.home born']

end Passport.Native

/-- A thread's code tells where the thread was created. -/
def Block.passport (birthplace : C → Option (Fin n)) (block : Block (Context n k C ν) ν) :
    Passport n := ⟨birthplace block.context.code, block.id⟩

/-- How often a passport is held. -/
def census (birthplace : C → Option (Fin n)) (blocks : List (Block (Context n k C ν) ν))
    (passport : Passport n) : Nat := (blocks.map (Block.passport birthplace)).count passport

section census

variable {birthplace : C → Option (Fin n)} {passport : Passport n}
  {blocks others : List (Block (Context n k C ν) ν)} {block other : Block (Context n k C ν) ν}

theorem census_append : census birthplace (blocks ++ others) passport =
    census birthplace blocks passport + census birthplace others passport := by
  rw [census, List.map_append, List.count_append, census, census]

theorem census_cons : census birthplace (block :: blocks) passport =
    census birthplace [block] passport + census birthplace blocks passport := by
  rw [← census_append]
  rfl

theorem census_perm (arranged : blocks.Perm others) :
    census birthplace blocks passport = census birthplace others passport :=
  (arranged.map _).count_eq passport

theorem census_pos : 0 < census birthplace blocks passport ↔
    ∃ block ∈ blocks, block.passport birthplace = passport := by
  rw [census, List.count_pos_iff, List.mem_map]

theorem census_single : census birthplace [block] passport =
    if block.passport birthplace = passport then 1 else 0 := by
  rw [census, List.map_singleton, List.count_singleton]
  simp only [beq_iff_eq]

theorem census_congr (same : block.passport birthplace = other.passport birthplace) :
    census birthplace [block] passport = census birthplace [other] passport := by
  rw [census, census, List.map_singleton, List.map_singleton, same]

theorem census_insertByAge : census birthplace (OrderedQueue.insertByAge block blocks) passport =
    census birthplace [block] passport + census birthplace blocks passport :=
  (census_perm (OrderedQueue.insertByAge_perm block blocks)).trans census_cons

theorem census_crew {scheduler : Scheduler (Context n k C ν) ν} :
    census birthplace scheduler.crew passport = census birthplace [scheduler.current] passport +
      census birthplace scheduler.ready.elements passport +
        census birthplace scheduler.completed.elements passport := by
  rw [Scheduler.crew, census_cons, census_append, Nat.add_assoc]

theorem census_makeReady {scheduler : Scheduler (Context n k C ν) ν} :
    census birthplace (scheduler.makeReady block).crew passport =
      census birthplace [block] passport + census birthplace scheduler.crew passport := by
  have same : Block.passport birthplace { block with status := .ready } =
      block.passport birthplace := rfl
  rw [census_crew, census_crew, Scheduler.makeReady, OrderedQueue.elements_push,
    census_insertByAge, census_congr same]
  dsimp only
  omega

theorem crew_makeReady {scheduler : Scheduler (Context n k C ν) ν}
    (member : other ∈ (scheduler.makeReady block).crew) : other ∈ scheduler.crew ∨
      ∀ birthplace : C → Option (Fin n), other.passport birthplace = block.passport birthplace := by
  rcases Scheduler.mem_crew.mp member with running | ready | completed
  · exact .inl (Scheduler.mem_crew.mpr (.inl running))
  · rcases OrderedQueue.mem_insertByAge.mp ready with rfl | ready
    · exact .inr fun _ => rfl
    · exact .inl (Scheduler.mem_crew.mpr (.inr (.inl ready)))
  · exact .inl (Scheduler.mem_crew.mpr (.inr (.inr completed)))

theorem census_parked_exchange {machine after : Machine n k C ν} {mutex : Fin k}
    (same : ∀ other, other ≠ mutex → after.parkedOn other = machine.parkedOn other) :
    census birthplace after.parked passport + census birthplace (machine.parkedOn mutex) passport =
      census birthplace machine.parked passport +
        census birthplace (after.parkedOn mutex) passport := by
  simp only [census, Machine.parked, List.map_flatMap]
  exact count_flatMap_exchange
    (fun mutex => (machine.parkedOn mutex).map (Block.passport birthplace))
    (fun mutex => (after.parkedOn mutex).map (Block.passport birthplace))
    (fun other apart => congrArg (List.map (Block.passport birthplace)) (same other apart))
    (List.nodup_finRange k) (List.mem_finRange mutex) passport

theorem census_parked_congr {machine after : Machine n k C ν}
    (same : ∀ mutex, after.parkedOn mutex = machine.parkedOn mutex) :
    census birthplace after.parked passport = census birthplace machine.parked passport := by
  rw [Machine.parked_congr same]

theorem distinct_of_census {index : Fin n}
    (native : ∀ block ∈ blocks, (block.passport birthplace).Native index)
    (once : ∀ passport, census birthplace blocks passport ≤ 1) :
    (blocks.map Block.id).Nodup := by
  have distinct : (blocks.map (Block.passport birthplace)).Nodup := List.nodup_iff_count.mpr once
  refine List.pairwise_map.mpr ((List.pairwise_map.mp distinct).imp_of_mem ?_)
  intro block other member member' apart same
  exact apart ((native block member).eq (native other member') same)

end census

/-- What is known of the threads that the scheduler of the runtime `index` holds, next to those
that are parked. -/
structure Manned (birthplace : C → Option (Fin n)) (machine : Machine n k C ν) (index : Fin n)
    (scheduler : Scheduler (Context n k C ν) ν) : Prop where
  native : ∀ block ∈ scheduler.crew, (block.passport birthplace).Native index
  once : ∀ passport, census birthplace scheduler.crew passport +
    census birthplace machine.parked passport ≤ 1
  begun : 0 < scheduler.nextId.toNat
  unborn : ∀ passport : Passport n, passport.birthplace = some index →
    scheduler.nextId.toNat ≤ passport.id.number.toNat →
      census birthplace scheduler.crew passport + census birthplace machine.parked passport = 0
  running : birthplace machine.code = birthplace scheduler.current.context.code
  current : (machine.runtime index).current = scheduler.current.id

namespace Manned

variable {birthplace : C → Option (Fin n)} {machine after : Machine n k C ν} {index : Fin n}
  {scheduler scheduler' : Scheduler (Context n k C ν) ν} {action : Action n k C ν}

/-- Where the initial context has become thread 0, and all parked threads are strangers. -/
theorem start {context : Context n k C ν} (main : birthplace context.code = none)
    (code : birthplace machine.code = none) (current : (machine.runtime index).current = .main)
    (strangers : ∀ block ∈ machine.parked, birthplace block.context.code ≠ none ∧
      birthplace block.context.code ≠ some index)
    (once : ∀ passport, census birthplace machine.parked passport ≤ 1) :
    Manned birthplace machine index (.start (.main context)) := by
  have passport : (Block.main context : Block _ ν).passport birthplace = ⟨none, .main⟩ :=
    congrArg (Passport.mk · .main) main
  have crew (held : Passport n) : census birthplace (Scheduler.start (Block.main context :
      Block _ ν)).crew held = if ⟨none, .main⟩ = held then 1 else 0 := by
    rw [← passport, ← census_single]
    rfl
  have absent {held : Passport n} (here : held.birthplace = none ∨ held.birthplace = some index) :
      census birthplace machine.parked held = 0 := by
    refine Nat.eq_zero_of_not_pos fun some => ?_
    obtain ⟨block, member, rfl⟩ := census_pos.mp some
    exact here.elim (strangers block member).1 (strangers block member).2
  constructor
  case native =>
    intro block member
    cases List.mem_singleton.mp member
    exact .inl passport
  case once =>
    intro held
    rw [crew]
    split
    · rename_i here
      subst here
      exact Nat.le_of_eq (congrArg (1 + ·) (absent (.inl rfl)))
    · exact (Nat.zero_add _).symm ▸ once held
  case begun => exact Nat.zero_lt_one
  case unborn =>
    intro held native _
    rw [crew, absent (.inr native), if_neg]
    rintro rfl
    cases native
  case running => exact code.trans main.symm
  case current => exact current

/-- Where no new thread has come in. -/
theorem regroup (manned : Manned birthplace machine index scheduler)
    (native : ∀ block ∈ scheduler'.crew, (block.passport birthplace).Native index)
    (census : ∀ passport, census birthplace scheduler'.crew passport +
      census birthplace after.parked passport ≤ census birthplace scheduler.crew passport +
        census birthplace machine.parked passport)
    (next : scheduler'.nextId = scheduler.nextId)
    (running : birthplace after.code = birthplace scheduler'.current.context.code)
    (current : (after.runtime index).current = scheduler'.current.id) :
    Manned birthplace after index scheduler' where
  native := native
  once := fun passport => Nat.le_trans (census passport) (manned.once passport)
  begun := next ▸ manned.begun
  unborn := fun passport here late =>
    Nat.le_zero.mp (manned.unborn passport here (next ▸ late) ▸ census passport)
  running := running
  current := current

/-- Where the running thread's block has changed in all but its passport. -/
theorem reseat (manned : Manned birthplace machine index scheduler)
    {block : Block (Context n k C ν) ν}
    (same : block.passport birthplace = scheduler.current.passport birthplace)
    (parked : ∀ mutex, after.parkedOn mutex = machine.parkedOn mutex)
    (code : birthplace after.code = birthplace machine.code)
    (current : (after.runtime index).current = (machine.runtime index).current) :
    Manned birthplace after index { scheduler with current := block } := by
  refine manned.regroup ?native ?census rfl ?running ?current
  case native =>
    intro member inside
    rcases List.mem_cons.mp inside with rfl | inside
    · exact same ▸ manned.native _ List.mem_cons_self
    · exact manned.native _ (List.mem_cons_of_mem _ inside)
  case census =>
    refine fun passport => Nat.le_of_eq ?_
    rw [census_parked_congr parked, census_crew, census_crew, census_congr same]
  case running => exact (code.trans manned.running).trans (congrArg Passport.birthplace same).symm
  case current => exact (current.trans manned.current).trans (congrArg Passport.id same).symm

/-- The scheduler that decides knows where the running thread is. -/
theorem save (manned : Manned birthplace machine index scheduler)
    (rest : List (Action n k C ν)) :
    Manned birthplace (machine.withTodo rest) index
      ((machine.withTodo rest).save scheduler) :=
  manned.reseat (Passport.ext manned.running rfl) (fun _ => rfl) rfl rfl

theorem admits (manned : Manned birthplace machine index scheduler)
    {newborn : Block (Context n k C ν) ν} {nextId : UInt32}
    (here : birthplace newborn.context.code = some index) (id : newborn.id = ⟨scheduler.nextId⟩)
    (next : nextId.toNat = scheduler.nextId.toNat + 1)
    (parked : ∀ mutex, after.parkedOn mutex = machine.parkedOn mutex)
    (code : birthplace after.code = birthplace machine.code)
    (current : (after.runtime index).current = (machine.runtime index).current) :
    Manned birthplace after index (Scheduler.makeReady { scheduler with nextId } newborn) := by
  have number : newborn.id.number.toNat = scheduler.nextId.toNat := by rw [id]
  have counts (passport : Passport n) :
      census birthplace (Scheduler.makeReady { scheduler with nextId } newborn).crew passport +
        census birthplace after.parked passport =
      (if newborn.passport birthplace = passport then 1 else 0) +
        (census birthplace scheduler.crew passport +
          census birthplace machine.parked passport) := by
    rw [census_makeReady, census_single, census_parked_congr parked, Nat.add_assoc]
    rfl
  constructor
  case native =>
    intro block member
    rcases crew_makeReady member with member | same
    · exact manned.native block member
    · rw [same birthplace]
      refine .inr ⟨here, fun main => ?_⟩
      rw [show newborn.id = .main from main] at number
      exact absurd manned.begun (by rw [← number]; decide)
  case once =>
    intro passport
    rw [counts]
    split
    · rename_i newcomer
      subst newcomer
      exact Nat.le_of_eq (congrArg (1 + ·) (manned.unborn _ here (Nat.le_of_eq number.symm)))
    · exact (Nat.zero_add _).symm ▸ manned.once passport
  case begun => exact next ▸ Nat.succ_pos _
  case unborn =>
    intro passport native late
    have late : scheduler.nextId.toNat + 1 ≤ passport.id.number.toNat := next ▸ late
    rw [counts, manned.unborn passport native (Nat.le_of_succ_le late), if_neg]
    rintro rfl
    exact absurd late (by rw [Block.passport, number]; omega)
  case running => exact code.trans manned.running
  case current => exact current.trans manned.current

/-- Work on the threads of the runtime `index`. Whoever is woken must belong there. -/
theorem shifts (manned : Manned birthplace machine index scheduler)
    (shift : Shift index machine after action)
    (present : (machine.runtime index).scheduler = some scheduler)
    (present' : (after.runtime index).scheduler = some scheduler')
    (made : ∀ entry, action = .issue index entry → birthplace entry = some index)
    (woken : ∀ mutex waiter, machine.parkedOn mutex = waiter :: after.parkedOn mutex →
      (waiter.passport birthplace).Native index)
    (code : birthplace after.code = birthplace machine.code)
    (current : (after.runtime index).current = (machine.runtime index).current) :
    Manned birthplace after index scheduler' := by
  cases shift with
  | keeps same parked =>
      cases Option.some.inj (present.symm.trans (same.symm.trans present'))
      exact manned.reseat rfl parked code current
  | @drops mutex same unparked elsewhere =>
      cases Option.some.inj (present.symm.trans (same.symm.trans present'))
      refine manned.regroup manned.native (fun passport => ?_) rfl (code.trans manned.running)
        (current.trans manned.current)
      have exchange : census birthplace after.parked passport + _ =
        census birthplace machine.parked passport + _ := census_parked_exchange elsewhere
      rw [unparked] at exchange
      exact Nat.add_le_add_left (Nat.le.intro exchange) _
  | activates absent => cases present.symm.trans absent
  | @issues entry _ nextId seen seated next parked =>
      cases Option.some.inj (present.symm.trans seen)
      cases Option.some.inj (present'.symm.trans seated)
      exact manned.admits (made entry rfl) rfl next parked code current
  | begins seen seated parked | blocks seen seated parked | completes seen seated parked =>
      cases Option.some.inj (present.symm.trans seen)
      cases Option.some.inj (present'.symm.trans seated)
      exact manned.reseat rfl parked code current
  | @reaps _ _ block completed seen seated taken parked =>
      cases Option.some.inj (present.symm.trans seen)
      cases Option.some.inj (present'.symm.trans seated)
      refine manned.regroup (fun member inside => ?_) (fun passport => ?_) rfl
        (code.trans manned.running) (current.trans manned.current)
      · rcases Scheduler.mem_crew.mp inside with running | ready | inside
        · exact manned.native _ (Scheduler.mem_crew.mpr (.inl running))
        · exact manned.native _ (Scheduler.mem_crew.mpr (.inr (.inl ready)))
        · have inside := taken.mem_iff.mpr (List.mem_cons_of_mem _ inside)
          exact manned.native _ (Scheduler.mem_crew.mpr (.inr (.inr inside)))
      · have fewer : census birthplace _ passport = _ := census_perm taken
        rw [census_cons] at fewer
        rw [census_parked_congr parked, census_crew, census_crew]
        dsimp only
        omega
  | @wakes _ mutex _ waiter seen seated first elsewhere =>
      cases Option.some.inj (present.symm.trans seen)
      cases Option.some.inj (present'.symm.trans seated)
      refine manned.regroup (fun member inside => ?_) (fun passport => ?_) rfl
        (code.trans manned.running) (current.trans manned.current)
      · rcases crew_makeReady inside with inside | same
        · exact manned.native member inside
        · exact same birthplace ▸ woken mutex waiter first
      · have exchange : census birthplace after.parked passport + _ =
          census birthplace machine.parked passport + _ := census_parked_exchange elsewhere
        rw [first, census_cons] at exchange
        rw [census_makeReady]
        omega

end Manned

section decisions

variable {birthplace : C → Option (Fin n)} {before machine after : Machine n k C ν}
  {index : Fin n} {scheduler : Scheduler (Context n k C ν) ν} {parking : Option (Fin k)}
  {rotation : Rotation (Context n k C ν) ν} {rest : List (Action n k C ν)}

/-- Threads change places in a decision, but none come or go. -/
theorem census_decided (scheduled : Machine.Scheduled index parking before rotation after)
    (decides : scheduler.Decides (before.waiters? parking) rotation) (passport : Passport n) :
    census birthplace rotation.scheduler.crew passport + census birthplace after.parked passport =
      census birthplace scheduler.crew passport + census birthplace before.parked passport := by
  have aged (age : Nat) : (scheduler.current.aged age).passport birthplace =
      scheduler.current.passport birthplace := rfl
  have line (first : Block (Context n k C ν) ν) (others : List (Block (Context n k C ν) ν)) :
      census birthplace (first :: others) passport =
        census birthplace [first] passport + census birthplace others passport := census_cons
  cases decides with
  | stays alone =>
      have same : scheduler.current.unblock.passport birthplace =
          scheduler.current.passport birthplace := by
        rw [Block.passport, Block.unblock_context, Block.unblock_id, Block.passport]
      rw [census_parked_congr (scheduled.unparked rfl), census_crew, census_crew,
        census_congr same]
  | @requeues age first remaining event status filed =>
      have filed : census birthplace (first :: remaining.elements) passport = _ :=
        congrArg (census birthplace · passport) filed.symm
      rw [line, census_insertByAge, census_congr (aged age)] at filed
      rw [census_parked_congr (scheduled.unparked rfl), census_crew, census_crew]
      dsimp only
      omega
  | @completes age first remaining event status next =>
      rw [census_parked_congr (scheduled.unparked rfl), census_crew, census_crew, next,
        line first remaining.elements, OrderedQueue.elements_push, census_insertByAge,
        census_congr (aged age)]
      dsimp only
      omega
  | @parks age first remaining queue event place status next =>
      obtain ⟨mutex, rfl, rfl⟩ := Option.map_eq_some_iff.mp place
      have exchange : census birthplace after.parked passport + _ =
        census birthplace before.parked passport + _ :=
          census_parked_exchange fun other apart => scheduled.elsewhere rfl apart
      rw [scheduled.joined rfl, census_insertByAge, census_congr (aged age)] at exchange
      rw [census_crew, census_crew, next, line first remaining.elements]
      change _ + census birthplace (before.parkedOn mutex) passport = _ + (_ +
        census birthplace (before.parkedOn mutex) passport) at exchange
      dsimp only
      omega

/-- Whom the scheduler holds after a decision it held before. -/
theorem crew_decided (decides : scheduler.Decides (before.waiters? parking) rotation)
    {block : Block (Context n k C ν) ν} (member : block ∈ rotation.scheduler.crew) :
    ∃ earlier ∈ scheduler.crew, block.id = earlier.id ∧ block.context = earlier.context := by
  have stays (member : block ∈ scheduler.ready.elements ∨ block ∈ scheduler.completed.elements) :
      ∃ earlier ∈ scheduler.crew, block.id = earlier.id ∧ block.context = earlier.context :=
    ⟨block, Scheduler.mem_crew.mpr (.inr member), rfl, rfl⟩
  have filed (filed : scheduler.Filed rotation block) :
      ∃ earlier ∈ scheduler.crew, block.id = earlier.id ∧ block.context = earlier.context :=
    ⟨_, List.mem_cons_self, filed.id, filed.context⟩
  rcases Scheduler.mem_crew.mp member with running | ready | completed
  · exact (decides.seated (running ▸ List.mem_cons_self)).elim (stays ∘ .inl) filed
  · exact (decides.seated (List.mem_cons_of_mem _ ready)).elim (stays ∘ .inl) filed
  · exact (decides.completed completed).elim (stays ∘ .inr) filed

theorem Scheduler.Decides.nextId (decides : scheduler.Decides (before.waiters? parking) rotation) :
    rotation.scheduler.nextId = scheduler.nextId := by
  cases decides <;> rfl

theorem Manned.turns (manned : Manned birthplace before index scheduler)
    (decides : scheduler.Decides (before.waiters? parking) rotation)
    (scheduled : Machine.Scheduled index parking before rotation after)
    (resumes : (⟨after.todo, after.code⟩ : Context n k C ν) = match rotation.switch with
      | none => ⟨before.todo, before.code⟩
      | some switch =>
          if switch.outgoing = switch.incoming then ⟨before.todo, before.code⟩
          else rotation.scheduler.current.context) :
    Manned birthplace after index rotation.scheduler := by
  have native : ∀ block ∈ rotation.scheduler.crew, (block.passport birthplace).Native index := by
    intro block member
    obtain ⟨earlier, inside, id, context⟩ := crew_decided decides member
    have same : block.passport birthplace = earlier.passport birthplace := by
      rw [Block.passport, Block.passport, id, context]
    exact same ▸ manned.native earlier inside
  have went : after.code = before.code ∧ rotation.scheduler.current.id = scheduler.current.id ∨
      after.code = rotation.scheduler.current.context.code := by
    cases decides with
    | stays => exact .inl ⟨congrArg Context.code resumes, Block.unblock_id _⟩
    | requeues | completes | parks =>
        dsimp only at resumes
        split at resumes
        · rename_i same
          exact .inl ⟨congrArg Context.code resumes, same.symm⟩
        · exact .inr (congrArg Context.code resumes)
  refine manned.regroup native (fun passport => ?census) decides.nextId ?running ?current
  case census => exact Nat.le_of_eq (census_decided scheduled decides passport)
  case running =>
    -- A thread that is its own successor goes on: among natives the id tells them apart.
    rcases went with ⟨code, same⟩ | code
    · have passport := (native _ List.mem_cons_self).eq (manned.native _ List.mem_cons_self) same
      rw [code, manned.running]
      exact (congrArg Passport.birthplace passport).symm
    · rw [code]
  case current =>
    cases decides with
    | stays => exact (scheduled.stayed rfl).1.trans (manned.current.trans (Block.unblock_id _).symm)
    | requeues | completes | parks => exact (scheduled.switched _ rfl).1

end decisions

end UserThreads
