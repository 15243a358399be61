import UserThreads.Proofs.Separation

/-!
Runtimes that take turns on one OS thread keep their threads to themselves for as long as no
thread is woken on behalf of another runtime than its own.
-/

namespace UserThreads

variable {n k : Nat} {C ν : Type} {birthplace : C → Option (Fin n)}
  {machine after : Machine n k C ν} {action : Action n k C ν} {rest : List (Action n k C ν)}
  {index : Fin n} {parking : Option (Fin k)} {past : List (Moment n k C ν)}

open Machine (Driven)

/-- What the schedulers hold is their own. -/
structure Isolated (birthplace : C → Option (Fin n)) (machine : Machine n k C ν) : Prop where
  native : ∀ index scheduler, (machine.runtime index).scheduler = some scheduler →
    ∀ block ∈ scheduler.crew, (block.passport birthplace).Native index
  distinct : ∀ index scheduler, (machine.runtime index).scheduler = some scheduler →
    (scheduler.crew.map Block.id).Nodup
  running : ∀ index scheduler, (machine.runtime index).scheduler = some scheduler →
    birthplace machine.code = birthplace scheduler.current.context.code

theorem Separated.isolated (separated : Separated birthplace machine) :
    Isolated birthplace machine where
  native := fun index scheduler present => (separated.manned index scheduler present).native
  distinct := fun index scheduler present =>
    have manned := separated.manned index scheduler present
    distinct_of_census manned.native fun passport =>
      Nat.le_trans (Nat.le_add_right _ _) (manned.once passport)
  running := fun index scheduler present => (separated.manned index scheduler present).running

theorem Moment.of_stray {moment : Moment n k C ν} (strays : moment.stray birthplace = true) :
    moment.move = .work ∧ ∃ action rest index mutex waiter others home,
      moment.machine.todo = action :: rest ∧
        (action = .handOn index mutex ∨ action = .wakeAll index mutex) ∧
          moment.machine.parkedOn mutex = waiter :: others ∧
            birthplace waiter.context.code = some home ∧ home ≠ index := by
  have foreign {mutex : Fin k} {index : Fin n}
      (away : ((moment.machine.parkedOn mutex).head?.bind fun waiter =>
        birthplace waiter.context.code).any (· != index) = true) :
      ∃ waiter others home, moment.machine.parkedOn mutex = waiter :: others ∧
        birthplace waiter.context.code = some home ∧ home ≠ index := by
    cases line : moment.machine.parkedOn mutex with
    | nil => simp [line] at away
    | cons waiter others =>
        cases born : birthplace waiter.context.code with
        | none => simp [line, born] at away
        | some home => exact ⟨waiter, others, home, rfl, born, by simpa [line, born] using away⟩
  unfold Moment.stray at strays
  split at strays <;> rename_i move todo
  · obtain ⟨waiter, others, home, foreign⟩ := foreign strays
    exact ⟨move, _, _, _, _, waiter, others, home, todo, .inl rfl, foreign⟩
  · obtain ⟨waiter, others, home, foreign⟩ := foreign strays
    exact ⟨move, _, _, _, _, waiter, others, home, todo, .inr rfl, foreign⟩
  · cases strays

/-- A stray wake-up brings a thread into the scheduler of another runtime than its own. -/
theorem Moment.stray_mixes {moment : Moment n k C ν} (strays : moment.stray birthplace = true)
    (going : moment.machine.outcome = none) (goes : moment.after.outcome = none) :
    ¬Isolated birthplace moment.after := by
  obtain ⟨work, action, rest, index, mutex, waiter, others, home, todo, wakes, line, born, away⟩ :=
    Moment.of_stray strays
  have stepped : moment.after = (moment.machine.withTodo rest).perform action := by
    rw [Moment.after, work]
    exact Machine.step_eq going todo
  rw [stepped] at goes ⊢
  obtain ⟨scheduler, -, seated⟩ := (moment.machine.withTodo rest).perform_rouses wakes line goes
  intro isolated
  have native := isolated.native index _ seated { waiter with status := .ready }
    (Scheduler.mem_crew.mpr (.inr (.inl (OrderedQueue.mem_insertByAge.mpr (.inl rfl)))))
  exact away (native.home born)

theorem Course.isolated_of_calm (course : Course past machine) (going : machine.outcome = none)
    (traceable : Traceable birthplace past machine)
    (calm : ∀ moment ∈ past, moment.stray birthplace = false) :
    (∀ moment ∈ past, Isolated birthplace moment.machine) ∧ Isolated birthplace machine := by
  refine ⟨?_, (course.separated going traceable calm).isolated⟩
  induction course with
  | start => exact List.forall_mem_nil _
  | @move past machine move course before suits ih =>
      have others := (List.forall_mem_cons.mp calm).2
      exact List.forall_mem_cons.mpr
        ⟨(course.separated before traceable.later others).isolated,
          ih before traceable.later others⟩

theorem Course.calm_of_isolated (course : Course past machine)
    (isolated : ∀ moment ∈ past, Isolated birthplace moment.machine)
    (last : Isolated birthplace machine) (going : machine.outcome = none) :
    ∀ moment ∈ past, moment.stray birthplace = false := by
  induction course with
  | start => exact List.forall_mem_nil _
  | @move past machine move course before suits ih =>
      obtain ⟨newest, others⟩ := List.forall_mem_cons.mp isolated
      refine List.forall_mem_cons.mpr ⟨?_, ih others newest before⟩
      refine Bool.eq_false_iff.mpr fun strays => ?_
      exact absurd last (Moment.stray_mixes strays before going)

section abandoning

/-- A runtime is given up while a thread that was created there is parked. -/
def Moment.abandons (birthplace : C → Option (Fin n)) (moment : Moment n k C ν) : Bool :=
  match moment.move, moment.machine.todo with
  | .work, .deactivate index :: _ =>
      moment.machine.parked.any fun block => birthplace block.context.code == some index
  | _, _ => false

/-- All parked threads are those of the runtime that drives, or thread 0. -/
def Sheltered (birthplace : C → Option (Fin n)) (machine : Machine n k C ν) : Prop :=
  ∀ mutex, ∀ block ∈ machine.parkedOn mutex, ∀ home,
    birthplace block.context.code = some home → machine.active = some home

/-- Who is woken belongs to the runtime that drives, on whose behalf this is done. -/
theorem Sheltered.calm (sheltered : Sheltered birthplace machine) (driven : Driven machine)
    (going : machine.outcome = none) {move : Move n k C ν}
    (goes : (machine.make move).outcome = none) :
    Moment.stray birthplace ⟨machine, move⟩ = false := by
  refine Bool.eq_false_iff.mpr fun strays => ?_
  obtain ⟨work, action, rest, index, mutex, waiter, others, home, todo, wakes, line, born, away⟩ :=
    Moment.of_stray strays
  cases work
  change machine.step.outcome = none at goes
  rw [Machine.step_eq going todo] at goes
  obtain ⟨scheduler, present, -⟩ := (machine.withTodo rest).perform_rouses wakes line goes
  have elsewhere : ∀ index, ¬machine.discards index := by
    rcases wakes with rfl | rfl <;> exact Driven.undiscarded todo (by simp) (by simp)
  have driver := (driven.present_iff elsewhere).mp (Option.isSome_iff_exists.mpr ⟨_, present⟩)
  have shelter := sheltered mutex waiter (line ▸ List.mem_cons_self) home born
  exact away (Option.some.inj (shelter.symm.trans driver))

namespace Sheltered

theorem keep (sheltered : Sheltered birthplace machine) (active : after.active = machine.active)
    (parks : ∀ mutex, ∀ block ∈ after.parkedOn mutex, block ∈ machine.parkedOn mutex) :
    Sheltered birthplace after := fun mutex block member home born =>
  active.trans (sheltered mutex block (parks mutex block member) home born)

/-- The thread that a decision parks is one of the runtime on which it is made. -/
theorem turns (sheltered : Sheltered birthplace machine) (separated : Separated birthplace machine)
    (driven : Driven machine) (todo : machine.todo = .schedule index parking :: rest)
    (turn : Rescheduled index parking (machine.withTodo rest) after) :
    Sheltered birthplace after := by
  cases turn with
  | idle absent same =>
      subst same
      exact sheltered.keep rfl fun _ _ => id
  | @turns scheduler rotation present decides scheduled =>
      intro mutex block member home born
      rcases scheduled.parked decides member with before | filed
      · exact scheduled.active.trans (sheltered mutex block before home born)
      · have manned := separated.manned index scheduler present
        have native := manned.native scheduler.current List.mem_cons_self
        rw [filed.context] at born
        obtain rfl := native.home (manned.running.symm.trans born)
        refine scheduled.active.trans ((driven.present_iff ?_).mp ?_)
        · exact Driven.undiscarded todo (by simp) (by simp)
        · exact Option.isSome_iff_exists.mpr ⟨scheduler, present⟩

theorem step (sheltered : Sheltered birthplace machine) (separated : Separated birthplace machine)
    (driven : Driven machine) (going : machine.outcome = none)
    (kept : Moment.abandons birthplace ⟨machine, .work⟩ = false)
    (goes : machine.step.outcome = none) : Sheltered birthplace machine.step := by
  cases todo : machine.todo with
  | nil =>
      rwa [Machine.step, going, todo]
  | cons action rest =>
      rw [Machine.step_eq going todo] at goes ⊢
      cases action with
      | schedule index parking =>
          exact sheltered.turns separated driven todo ((machine.withTodo rest).schedule_cases goes)
      | enroll index entry =>
          change Sheltered birthplace ((machine.withTodo rest).enroll index entry)
          cases (machine.withTodo rest).enroll_cases goes with
          | enrolled _ same | refused _ _ same =>
              rw [same]
              exact sheltered.keep rfl fun _ _ => id
          | activated absent idle starts same =>
              rw [same]
              intro mutex block member home born
              cases idle.symm.trans (sheltered mutex block member home born)
      | dropRuntime index =>
          simp only [Machine.perform, Machine.dropRuntime]
          split <;> exact sheltered.keep rfl fun _ _ => id
      | deactivate index =>
          intro mutex block member home born
          have driver := (driven.of_deactivate todo).1
          cases Option.some.inj (driver.symm.trans (sheltered mutex block member home born))
          simp only [Moment.abandons, todo, List.any_eq_false, beq_iff_eq] at kept
          exact absurd born (kept block (Machine.mem_parked.mpr ⟨mutex, member⟩))
      | discard index =>
          simp only [Machine.perform, Machine.discard_eq]
          exact sheltered.keep rfl fun _ _ => id
      | _ =>
          have effect := (machine.withTodo rest).perform_effect (by simp) rfl goes
          exact sheltered.keep (effect.standing rfl).1 fun _ _ => effect.parks

end Sheltered

theorem Course.sheltered (course : Course past machine) (going : machine.outcome = none)
    (traceable : Traceable birthplace past machine)
    (kept : ∀ moment ∈ past, moment.abandons birthplace = false) :
    (∀ moment ∈ past, moment.stray birthplace = false) ∧ Sheltered birthplace machine := by
  induction course with
  | start fresh code =>
      refine ⟨List.forall_mem_nil _, fun mutex block member => ?_⟩
      simp [Machine.parkedOn, Mutex.new, WaitQueue.empty] at member
  | @move past machine move course before suits ih =>
      obtain ⟨newest, others⟩ := List.forall_mem_cons.mp kept
      obtain ⟨calm, sheltered⟩ := ih before traceable.later others
      have driven := course.driven before
      refine ⟨List.forall_mem_cons.mpr ⟨sheltered.calm driven before going, calm⟩, ?_⟩
      by_cases library : move = .work
      · subst library
        have separated := course.separated before traceable.later calm
        exact sheltered.step separated driven before newest going
      · obtain ⟨-, cells, active⟩ := machine.make_own library
        exact sheltered.keep active fun mutex block member => by
          rwa [Machine.parkedOn, cells] at member

end abandoning

/-- The runtimes that take turns on one OS thread are isolated from each other for as long as
nobody is woken on behalf of another runtime than the one where it was created, and no longer.
Nobody is, if no runtime is given up while threads of it are parked. -/
theorem Course.isolates (course : Course past machine) (going : machine.outcome = none)
    (traceable : Traceable birthplace past machine) :
    ((∀ moment ∈ past, Isolated birthplace moment.machine) ∧ Isolated birthplace machine ↔
      ∀ moment ∈ past, moment.stray birthplace = false) ∧
    ((∀ moment ∈ past, moment.abandons birthplace = false) →
      ∀ moment ∈ past, moment.stray birthplace = false) := by
  refine ⟨⟨?_, course.isolated_of_calm going traceable⟩, ?_⟩
  · exact fun ⟨isolated, last⟩ => course.calm_of_isolated isolated last going
  · exact fun kept => (course.sheltered going traceable kept).1

/-- The context makes a thread on its first runtime, gives this up and makes one on the second. -/
def leaving : List (Move 2 1 (Option (Fin 2)) Nat) :=
  Move.calling (.create former (some former)) 5 ++ Move.calling (.dropRuntime former) 6 ++
    Move.calling (.create latter (some latter)) 5

/-- The same, but the thread on the first runtime is parked on a mutex meanwhile. -/
def stranding : List (Move 2 1 (Option (Fin 2)) Nat) :=
  Move.calling (.init sole) 2 ++ Move.calling (.create former (some former)) 5 ++
    Move.calling (.lock former sole) 4 ++ Move.calling (.yield former) 5 ++
      Move.calling (.lock former sole) 7 ++ Move.calling (.dropRuntime former) 6 ++
        Move.calling (.create latter (some latter)) 5

/-- Given up with nobody parked, the first runtime leaves the second one alone. Otherwise the
mutex, once it is unlocked on behalf of the second runtime, wakes the thread of the first one,
which has the same id as the second one's own. -/
theorem isolates_stranding :
    (∀ moment ∈ trail [] (paired .standard .cooperative none) leaving,
      moment.stray id = false) ∧
    ((∀ moment ∈ trail [] (paired .standard .cooperative none) stranding,
        Isolated id moment.machine) ∧
      Isolated id ((paired .standard .cooperative none).play stranding)) ∧
    ¬((∀ moment ∈ trail [] (paired .standard .cooperative none)
          (stranding ++ Move.calling (.unlock 1 0) 5), Isolated id moment.machine) ∧
        Isolated id ((paired .standard .cooperative none).play
          (stranding ++ Move.calling (.unlock 1 0) 5))) ∧
    (((paired .standard .cooperative none).play
      (stranding ++ Move.calling (.unlock 1 0) 5)).readyOn 1).map Block.id =
        [⟨1⟩, ⟨1⟩] := by
  have start := Course.paired .standard .cooperative (none : Option (Fin 2))
  have left := start.play leaving (by decide)
  have stranded := start.play stranding (by decide)
  have unlocked := start.play (stranding ++ Move.calling (.unlock 1 0) 5) (by decide)
  refine ⟨(left.isolates rfl ⟨rfl, by decide⟩).2 (by decide),
    (stranded.isolates rfl ⟨rfl, by decide⟩).1.mpr (by decide), ?_, rfl⟩
  rw [(unlocked.isolates rfl ⟨rfl, by decide⟩).1]
  decide

end UserThreads
