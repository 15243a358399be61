import UserThreads.Proofs.Sound

/-!
Scheduling decisions on the machine, and that they keep it sound.
-/

namespace UserThreads

variable {n k : Nat} {C ν : Type}

namespace Machine

/-- The machine after a decision that came to `rotation`. -/
structure Scheduled (home : Fin n) (parking : Option (Fin k)) (before : Machine n k C ν)
    (rotation : Rotation (Context n k C ν) ν) (after : Machine n k C ν) : Prop where
  scheduler : (after.runtime home).scheduler = some rotation.scheduler
  active : after.active = before.active
  mutexes : after.cells = (before.setWaiters parking rotation.waiting).cells
  shut : after.shut home = before.shut home
  opening : (after.runtime home).gate.afterOpening = (before.runtime home).gate.afterOpening
  stayed : rotation.switch = none → after.thread home = before.thread home ∧
    after.todo = before.todo
  switched : ∀ switch, rotation.switch = some switch → after.thread home = switch.incoming ∧
    after.todo = if switch.outgoing = switch.incoming then before.todo
      else rotation.scheduler.current.context.todo

variable {home : Fin n} {parking : Option (Fin k)} {before : Machine n k C ν}
  {scheduler : Scheduler (Context n k C ν) ν}

theorem schedule_of_none (before : Machine n k C ν)
    (absent : (before.runtime home).scheduler = none) :
    before.schedule home parking = before := by
  simp only [schedule, absent]

theorem setWaiters_frame (before : Machine n k C ν) (parking : Option (Fin k))
    (waiting : Option (WaitQueue (Context n k C ν) ν)) :
    (before.setWaiters parking waiting).runtime = before.runtime ∧
      (before.setWaiters parking waiting).active = before.active ∧
      (before.setWaiters parking waiting).todo = before.todo := by
  unfold setWaiters
  split <;> exact ⟨rfl, rfl, rfl⟩

theorem schedule_rotated (before : Machine n k C ν)
    (present : (before.runtime home).scheduler = some scheduler)
    (goes : (before.schedule home parking).outcome = none) :
    ∃ rotation, (before.save scheduler).rotate (before.waiters? parking) = .ok rotation ∧
      Scheduled home parking before rotation (before.schedule home parking) := by
  simp only [schedule, present] at goes ⊢
  cases rotated : (before.save scheduler).rotate (before.waiters? parking) with
  | error fault => simp [rotated, abort] at goes
  | ok rotation =>
      obtain ⟨runtimes, active, todo⟩ := setWaiters_frame before parking rotation.waiting
      refine ⟨rotation, rfl, ?_⟩
      simp only [rotated] at goes ⊢
      cases decided : rotation.switch with
      | none =>
          simp only
          constructor
          case active => exact active
          case mutexes => rfl
          case stayed => exact fun _ => ⟨by simp [thread, runtimes], todo⟩
          case switched => simp [decided]
          all_goals simp [Machine.shut, runtimes]
      | some switch =>
          simp only [decided] at goes ⊢
          cases armed : (before.runtime home).gate.arm
              (before.runtime home).config.timerInterval with
          | error failure =>
              rw [armed] at goes
              cases goes
          | ok gate =>
              obtain ⟨closed, opening⟩ := Gate.arm_eq armed
              simp only
              split <;> rename_i same
              all_goals
                constructor
                case active => exact active
                case mutexes => rfl
                case stayed => simp [decided]
                case switched =>
                  intro incoming decided'
                  obtain rfl := Option.some.inj (decided.symm.trans decided')
                  simp only [same, reduceIte]
                  exact ⟨by simp [thread], by first | exact todo | rfl⟩
                all_goals simp [Machine.shut, closed, opening]

theorem schedule_spec (before : Machine n k C ν)
    (present : (before.runtime home).scheduler = some scheduler)
    (goes : (before.schedule home parking).outcome = none) :
    ∃ rotation, (before.save scheduler).Decides (before.waiters? parking) rotation ∧
      Scheduled home parking before rotation (before.schedule home parking) := by
  obtain ⟨rotation, rotated, scheduled⟩ := before.schedule_rotated present goes
  exact ⟨rotation, Scheduler.decides_of_rotate rotated, scheduled⟩

theorem waiters_setWaiters_same (before : Machine n k C ν) (parking : Option (Fin k))
    (mutex : Fin k) :
    ((before.setWaiters parking (before.waiters? parking)).cells mutex).waiters =
      (before.cells mutex).waiters := by
  cases parking with
  | none => rfl
  | some index =>
      by_cases same : index = mutex
      · subst same
        simp [setWaiters, waiters?]
      · simp [setWaiters, waiters?, cells_setMutex, same]

theorem waiters_setWaiters_some (before : Machine n k C ν) (index : Fin k)
    (queue : WaitQueue (Context n k C ν) ν) :
    ((before.setWaiters (some index) (some queue)).cells index).waiters = queue := by
  simp [setWaiters]

theorem waiters_setWaiters_other (before : Machine n k C ν) {index mutex : Fin k}
    (apart : mutex ≠ index) (queue : WaitQueue (Context n k C ν) ν) :
    ((before.setWaiters (some index) (some queue)).cells mutex).waiters =
      (before.cells mutex).waiters := by
  simp [setWaiters, cells_setMutex, apart.symm]

end Machine

section decision

variable {home : Fin n} {past : List (Moment n k C ν)} {machine after : Machine n k C ν}
  {scheduler : Scheduler (Context n k C ν) ν} {parking : Option (Fin k)}
  {rest : List (Action n k C ν)} {rotation : Rotation (Context n k C ν) ν}

/-- Whoever runs after a decision goes on where its block says. -/
theorem Machine.Scheduled.seated
    (scheduled : Machine.Scheduled home parking (machine.withTodo rest) rotation after)
    (populated : Populated home past machine scheduler)
    (decides : ((machine.withTodo rest).save scheduler).Decides
      ((machine.withTodo rest).waiters? parking) rotation) :
    after.thread home = rotation.scheduler.current.id ∧
      after.todo = rotation.scheduler.current.context.todo := by
  have switched {first : Block (Context n k C ν) ν} {event : Option LogEvent}
      {scheduler' : Scheduler (Context n k C ν) ν} {waiting : Option (WaitQueue _ ν)}
      (shape : rotation = ⟨scheduler', waiting, some ⟨scheduler.current.id, first.id⟩, event⟩)
      (current : scheduler'.current = first)
      (back : scheduler.current.id = first.id → first.context.todo = rest) :
      after.thread home = rotation.scheduler.current.id ∧
        after.todo = rotation.scheduler.current.context.todo := by
    subst shape current
    obtain ⟨thread, todo⟩ := scheduled.switched _ rfl
    refine ⟨thread, todo.trans ?_⟩
    split
    · rename_i same
      exact (back same).symm
    · rfl
  cases decides with
  | stays alone =>
      obtain ⟨thread, todo⟩ := scheduled.stayed rfl
      refine ⟨?_, todo.trans ?_⟩
      · rw [thread, Block.unblock_id]
        exact populated.current.symm
      · rw [Block.unblock_context]
        rfl
  | requeues status filed =>
      refine switched rfl rfl fun same => ?_
      have member := OrderedQueue.mem_insertByAge.mp (filed ▸ List.mem_cons_self)
      rcases member with rfl | member
      · rfl
      · exact absurd same.symm (populated.apart_ready member)
  | completes status next | parks place status next =>
      refine switched rfl rfl fun same => ?_
      exact absurd same.symm (populated.apart_ready (next ▸ List.mem_cons_self))

namespace Machine.Scheduled

variable {before : Machine n k C ν} {index : Fin k} {queue : WaitQueue (Context n k C ν) ν}

theorem unparked (scheduled : Scheduled home parking before rotation after)
    (same : rotation.waiting = before.waiters? parking) (mutex : Fin k) :
    after.parkedOn mutex = before.parkedOn mutex := by
  rw [parkedOn, scheduled.mutexes, same, waiters_setWaiters_same, parkedOn]

/-- A thread that parks joins the others by age. -/
theorem joined (scheduled : Scheduled home (some index) before rotation after)
    {block : Block (Context n k C ν) ν} (joins : rotation.waiting = some (queue.push block)) :
    after.parkedOn index = OrderedQueue.insertByAge block queue.threads.elements := by
  rw [parkedOn, scheduled.mutexes, joins, waiters_setWaiters_some]
  rfl

theorem elsewhere (scheduled : Scheduled home (some index) before rotation after)
    (joins : rotation.waiting = some queue) {mutex : Fin k} (apart : mutex ≠ index) :
    after.parkedOn mutex = before.parkedOn mutex := by
  rw [parkedOn, scheduled.mutexes, joins, waiters_setWaiters_other _ apart, parkedOn]

end Machine.Scheduled

theorem Populated.waits (populated : Populated home past machine scheduler)
    (stage : Stage home (machine.thread home) (errand? home (machine.thread home) past) true
      (.schedule home parking :: rest)) :
    Suspended home scheduler.current.id (errand? home scheduler.current.id past) rest :=
  .inr ⟨parking, populated.current ▸ stage⟩

namespace Populated

variable {later : List (Moment n k C ν)}

theorem rotate (populated : Populated home past machine scheduler)
    (todo : machine.todo = .schedule home parking :: rest)
    (stage : Stage home (machine.thread home) (errand? home (machine.thread home) past) true
      (.schedule home parking :: rest))
    (decides : ((machine.withTodo rest).save scheduler).Decides
      ((machine.withTodo rest).waiters? parking) rotation)
    (scheduled : Machine.Scheduled home parking (machine.withTodo rest) rotation after)
    (errands : ∀ thread, errand? home thread later = errand? home thread past)
    (taken : gone later = gone past) :
    Populated home later after rotation.scheduler := by
  have current := (scheduled.seated populated decides).1.symm
  have others (thread : ThreadId) (_ : thread ≠ machine.thread home) := errands thread
  have waits := populated.waits stage
  have next {block : Block (Context n k C ν) ν} (member : block ∈ scheduler.ready.elements) :
      Standing home later after { rotation.scheduler with current := block } :=
    .ready (populated.ready block member).status (populated.ready block member).value
  cases decides with
  | stays alone =>
      have same (mutex : Fin k) : after.parkedOn mutex = machine.parkedOn mutex :=
        scheduled.unparked rfl mutex
      apply populated.turn others scheduled.active current (Nat.le_refl _)
      case accounts =>
        refine populated.rearranged rfl taken fun number => ?_
        simp [Machine.parked_congr same]
      case standing =>
        cases populated.standing with
        | ready status value | blocked status value =>
            refine .ready ?_ ((Block.unblock_value _).trans value)
            simp [Block.unblock, Machine.save, status]
        | completed _ _ _ _ others => exact absurd alone others
      case ready | completed => exact fun block member => .inl member
      case parked => exact fun mutex block member => .inl (same mutex ▸ member)
  | @requeues age first remaining event status filed =>
      have same (mutex : Fin k) : after.parkedOn mutex = machine.parkedOn mutex :=
        scheduled.unparked rfl mutex
      have value : scheduler.current.value = none := by
        cases populated.standing with
        | ready _ value | blocked _ value => exact value
        | completed completed => exact absurd (status.symm.trans completed) (by decide)
      have line {block : Block (Context n k C ν) ν}
          (member : block ∈ first :: remaining.elements) :
          block ∈ scheduler.ready.elements ∨ InLine home later block := by
        rcases OrderedQueue.mem_insertByAge.mp (filed ▸ member) with rfl | member
        · exact .inr ⟨status, value, errands _ ▸ waits⟩
        · exact .inl member
      apply populated.turn others scheduled.active current (Nat.le_refl _)
      case accounts =>
        refine populated.rearranged rfl taken fun number => ?_
        have moved := congrArg (tally · number) filed
        simp at moved
        simp [Machine.parked_congr same]
        omega
      case standing =>
        rcases line List.mem_cons_self with member | inLine
        · exact next member
        · exact .ready inLine.status inLine.value
      case ready => exact fun block member => line (List.mem_cons_of_mem _ member)
      case completed => exact fun block member => .inl member
      case parked => exact fun mutex block member => .inl (same mutex ▸ member)
  | @completes age first remaining event status ready =>
      have same (mutex : Fin k) : after.parkedOn mutex = machine.parkedOn mutex :=
        scheduled.unparked rfl mutex
      have ready : scheduler.ready.elements = first :: remaining.elements := ready
      apply populated.turn others scheduled.active current (Nat.le_refl _)
      case accounts =>
        refine populated.rearranged rfl taken fun number => ?_
        simp [Machine.parked_congr same, ready]
        omega
      case standing => exact next (ready ▸ List.mem_cons_self)
      case ready => exact fun block member => .inl (ready ▸ List.mem_cons_of_mem _ member)
      case completed =>
        intro block member
        rcases OrderedQueue.mem_insertByAge.mp member with rfl | member
        · cases populated.standing with
          | completed _ value ended =>
              refine .inr ⟨status, ?_, ended⟩
              rw [exitValue?, errands]
              exact value
          | ready other | blocked other =>
              exact absurd (status.symm.trans other) (by decide)
        · exact .inl member
      case parked => exact fun mutex block member => .inl (same mutex ▸ member)
  | @parks age first remaining queue event place status ready =>
      obtain ⟨mutex, rfl, rfl⟩ := Option.map_eq_some_iff.mp place
      have ready : scheduler.ready.elements = first :: remaining.elements := ready
      have joined : after.parkedOn mutex =
          OrderedQueue.insertByAge (((machine.withTodo rest).save scheduler).current.aged age)
            (machine.parkedOn mutex) := scheduled.joined rfl
      have apart (other : Fin k) (apart : other ≠ mutex) :
          after.parkedOn other = machine.parkedOn other := scheduled.elsewhere rfl apart
      apply populated.turn others scheduled.active current (Nat.le_refl _)
      case accounts =>
        refine populated.rearranged rfl taken fun number => ?_
        have exchanged := tally_parked_exchange number apart
        simp [joined] at exchanged
        simp [ready]
        omega
      case standing => exact next (ready ▸ List.mem_cons_self)
      case ready => exact fun block member => .inl (ready ▸ List.mem_cons_of_mem _ member)
      case completed => exact fun block member => .inl member
      case parked =>
        intro other block member
        by_cases equal : other = mutex
        · subst equal
          rw [joined] at member
          rcases OrderedQueue.mem_insertByAge.mp member with rfl | member
          · cases populated.standing with
            | blocked _ value =>
                exact .inr ⟨status, value, errands _ ▸ populated.current ▸ stage⟩
            | ready other | completed other =>
                exact absurd (status.symm.trans other) (by decide)
          · exact .inl member
        · exact .inl (apart other equal ▸ member)

/-- Whoever runs after a decision goes on from where it was suspended. -/
theorem suspended_rotated (populated : Populated home past machine scheduler)
    (stage : Stage home (machine.thread home) (errand? home (machine.thread home) past) true
      (.schedule home parking :: rest))
    (decides : ((machine.withTodo rest).save scheduler).Decides
      ((machine.withTodo rest).waiters? parking) rotation)
    (scheduled : Machine.Scheduled home parking (machine.withTodo rest) rotation after) :
    Suspended home (after.thread home) (errand? home (after.thread home) past) after.todo := by
  obtain ⟨thread, todo⟩ := scheduled.seated populated decides
  rw [thread, todo]
  have own := populated.waits stage
  have next (block : Block (Context n k C ν) ν) (member : block ∈ scheduler.ready.elements) :=
    (populated.ready block member).stage
  cases decides with
  | stays alone =>
      rw [Block.unblock_id]
      exact (congrArg Context.todo (Block.unblock_context _)).symm ▸ own
  | requeues status filed =>
      have member := OrderedQueue.mem_insertByAge.mp (filed ▸ List.mem_cons_self)
      rcases member with rfl | member
      · exact own
      · exact next _ member
  | completes status ready | parks place status ready => exact next _ (ready ▸ List.mem_cons_self)

end Populated

theorem Sound.schedule (sound : Sound home past machine) (going : machine.outcome = none)
    (todo : machine.todo = .schedule home parking :: rest)
    (goes : machine.step.outcome = none) :
    Sound home (⟨machine, .work⟩ :: past) machine.step := by
  rw [Machine.step_eq going todo] at goes ⊢
  have errands (thread : ThreadId) :
      errand? home thread (⟨machine, .work⟩ :: past) = errand? home thread past :=
    errand_of_stays rfl
  have taken : gone (⟨machine, .work⟩ :: past) = gone past :=
    gone_work todo rfl
  have stage := todo ▸ sound.stage
  obtain ⟨shut, resumed⟩ := stage_resume stage
  rw [shut] at stage
  change ((machine.withTodo rest).schedule home parking).outcome = none at goes
  change Sound home _ ((machine.withTodo rest).schedule home parking)
  cases present : (machine.runtime home).scheduler with
  | none =>
      have unpopulated := sound.unpopulated present
      rw [(machine.withTodo rest).schedule_of_none present]
      constructor
      case opening => exact sound.opening
      case stage => exact errands _ ▸ shut.symm ▸ resumed
      case exact => exact sound.exact
      case unpopulated =>
        exact fun _ => ⟨unpopulated.active, unpopulated.current, unpopulated.parked,
          taken.trans unpopulated.gone,
          fun thread apart => (errands thread).trans (unpopulated.unborn thread apart)⟩
      case populated =>
        intro scheduler absent
        exact absurd (present.symm.trans absent) (by simp)
  | some scheduler =>
      have populated := sound.populated scheduler present
      obtain ⟨rotation, decides, scheduled⟩ :=
        Machine.schedule_spec (machine.withTodo rest) present goes
      apply Sound.of_populated scheduled.scheduler (scheduled.opening.trans sound.opening)
      case stage =>
        rw [errands, scheduled.shut]
        exact shut.symm ▸ (populated.suspended_rotated stage decides scheduled).stage
      case exact =>
        intro mutex
        rw [scheduled.mutexes]
        cases decides with
        | stays | requeues | completes =>
            rw [Machine.waiters_setWaiters_same]
            exact sound.exact mutex
        | parks place =>
            obtain ⟨index, rfl, -⟩ := Option.map_eq_some_iff.mp place
            by_cases same : mutex = index
            · subst same
              rw [Machine.waiters_setWaiters_some]
              exact WaitQueue.exact_push ..
            · rw [Machine.waiters_setWaiters_other _ same]
              exact sound.exact mutex
      case populated => exact populated.rotate todo stage decides scheduled errands taken

theorem Sound.suspended (sound : Sound home past machine) (going : machine.outcome = none)
    (todo : machine.todo = .schedule home parking :: rest)
    (goes : machine.step.outcome = none) :
    Suspended home (machine.step.thread home) (errand? home (machine.step.thread home) past)
      machine.step.todo := by
  rw [Machine.step_eq going todo] at goes ⊢
  have stage := todo ▸ sound.stage
  rw [(stage_resume stage).1] at stage
  change ((machine.withTodo rest).schedule home parking).outcome = none at goes
  change Suspended home (((machine.withTodo rest).schedule home parking).thread home)
    (errand? home (((machine.withTodo rest).schedule home parking).thread home) past)
    ((machine.withTodo rest).schedule home parking).todo
  cases present : (machine.runtime home).scheduler with
  | none =>
      rw [(machine.withTodo rest).schedule_of_none present]
      exact .inr ⟨parking, stage⟩
  | some scheduler =>
      obtain ⟨rotation, decides, scheduled⟩ :=
        Machine.schedule_spec (machine.withTodo rest) present goes
      exact (sound.populated scheduler present).suspended_rotated stage decides scheduled

/-- The cells of a mutex are the same, its waiters aside. -/
structure Machine.SameCells (mutex : Fin k) (before after : Machine n k C ν) : Prop where
  locked : (after.cells mutex).locked = (before.cells mutex).locked
  owner : (after.cells mutex).owner? = (before.cells mutex).owner?
  status : (after.cells mutex).status = (before.cells mutex).status

theorem Machine.schedule_sameCells (before : Machine n k C ν) (home : Fin n)
    (parking : Option (Fin k)) (mutex : Fin k) :
    SameCells mutex before (before.schedule home parking) := by
  have parked (waiting : Option (WaitQueue (Context n k C ν) ν)) :
      SameCells mutex before (before.setWaiters parking waiting) := by
    unfold setWaiters
    split
    · rename_i index waiters
      by_cases same : index = mutex
      · subst same
        constructor <;> simp [Mutex.owner?]
      · constructor <;> simp [cells_setMutex, same]
    · exact ⟨rfl, rfl, rfl⟩
  have kept {waiting : Option (WaitQueue (Context n k C ν) ν)} {after : Machine n k C ν}
      (same : after.cells = (before.setWaiters parking waiting).cells) :
      SameCells mutex before after :=
    ⟨same ▸ (parked waiting).locked, same ▸ (parked waiting).owner, same ▸ (parked waiting).status⟩
  simp only [schedule]
  split
  · exact ⟨rfl, rfl, rfl⟩
  · split
    · exact ⟨rfl, rfl, rfl⟩
    · split
      · exact kept rfl
      · split
        · exact kept rfl
        · split <;> exact kept rfl

end decision

end UserThreads
