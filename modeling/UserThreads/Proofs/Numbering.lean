import UserThreads.Proofs.Returns
import UserThreads.Proofs.Shift

/-!
Numbers of threads: new threads get the numbers 1, 2, 3 and so on up to the limit
of their runtime, and none of these marks a mutex as free.
-/

namespace UserThreads

variable {n k : Nat} {C ν : Type}

/-- The thread that is made by this move. -/
def Moment.issued? (moment : Moment n k C ν) : Option ThreadId :=
  match moment.move, moment.machine.todo with
  | .work, .issue index entry :: _ =>
      let runtime := moment.machine.runtime index
      runtime.scheduler.bind fun scheduler =>
        match scheduler.issueId (.new runtime.config.stackSize ⟨[.begin], entry⟩)
            runtime.config.maxThreads with
        | .ok (block, _) => some block.id
        | .error _ => none
  | _, _ => none

/-- The threads made so far, the last one first. -/
def issued (past : List (Moment n k C ν)) : List ThreadId := past.filterMap Moment.issued?

variable {home : Fin n} {past : List (Moment n k C ν)} {machine after : Machine n k C ν}
  {action : Action n k C ν} {rest : List (Action n k C ν)}
  {scheduler : Scheduler (Context n k C ν) ν}

theorem Scheduler.issueId_refused {κ : Type} {scheduler : Scheduler κ ν} {block : Block κ ν}
    {maxThreads : UInt32} {cause : Cause}
    (refused : scheduler.issueId block maxThreads = .error cause) :
    maxThreads.toNat ≤ scheduler.nextId.toNat ∧ cause = .idsExhausted maxThreads := by
  unfold issueId at refused
  split at refused
  · rename_i full
    cases refused
    exact ⟨UInt32.le_iff_toNat_le.mp full, rfl⟩
  · cases refused

theorem Scheduler.issueId_room {κ : Type} {scheduler scheduler' : Scheduler κ ν}
    {block issued : Block κ ν} {maxThreads : UInt32}
    (done : scheduler.issueId block maxThreads = .ok (issued, scheduler')) :
    scheduler.nextId.toNat < maxThreads.toNat := by
  unfold issueId at done
  split at done
  · cases done
  · rename_i room
    exact Nat.lt_of_not_le fun full => room (UInt32.le_iff_toNat_le.mpr full)

theorem issued_other {moment : Moment n k C ν} (none : moment.issued? = none) :
    issued (moment :: past) = issued past := by
  rw [issued, List.filterMap_cons, none]
  rfl

theorem issued_work (todo : machine.todo = action :: rest)
    (apart : ∀ index entry, action ≠ .issue index entry) :
    issued (⟨machine, .work⟩ :: past) = issued past := by
  apply issued_other
  rw [Moment.issued?, todo]
  cases action with
  | issue index entry => exact absurd rfl (apart index entry)
  | _ => rfl

theorem issued_own {move : Move n k C ν} (own : move ≠ .work) :
    issued (⟨machine, move⟩ :: past) = issued past := by
  apply issued_other
  cases move with
  | work => exact absurd rfl own
  | _ => rfl

namespace Machine

theorem leave_config (machine : Machine n k C ν) (value : ν) (home : Fin n) :
    ((machine.leave value).runtime home).config = (machine.runtime home).config := by
  unfold leave
  split <;> rfl

theorem panic_config (machine : Machine n k C ν) (home : Fin n) :
    (machine.panic.runtime home).config = (machine.runtime home).config := by
  unfold panic
  split <;> rfl

/-- A runtime's settings stay as they are. -/
theorem make_config (machine : Machine n k C ν) (move : Move n k C ν) (home : Fin n) :
    ((machine.make move).runtime home).config = (machine.runtime home).config := by
  cases move with
  | think | ask => rfl
  | leave value => exact machine.leave_config value home
  | panic => exact machine.panic_config home
  | work =>
      change (machine.step.runtime home).config = _
      unfold step
      split
      · rename_i action rest _ _
        by_cases decides : ∃ index parking, action = .schedule index parking
        · obtain ⟨index, parking, rfl⟩ := decides
          exact (machine.withTodo rest).schedule_config index parking
        · exact ((machine.withTodo rest).perform_constant fun index parking same =>
            decides ⟨index, parking, same⟩).config
      · rfl

end Machine

/-- What comes of making a thread: at the limit the call fails and nothing is
consumed, and below it the thread gets the next number. -/
inductive Issues (home : Fin n) (machine after : Machine n k C ν) (rest : List (Action n k C ν))
    (scheduler : Scheduler (Context n k C ν) ν) : Option ThreadId → Reply ν → Prop
  | full (limit : (machine.runtime home).config.maxThreads.toNat ≤ scheduler.nextId.toNat)
      (same : (after.runtime home).scheduler = some scheduler) :
      Issues home machine after rest scheduler none
        (.failed ⟨Failure.tryAgain, .idsExhausted (machine.runtime home).config.maxThreads⟩)
  | made {scheduler' : Scheduler (Context n k C ν) ν}
      (room : scheduler.nextId.toNat < (machine.runtime home).config.maxThreads.toNat)
      (seated : (after.runtime home).scheduler = some scheduler')
      (next : scheduler'.nextId.toNat = scheduler.nextId.toNat + 1) :
      Issues home machine after rest scheduler (some ⟨scheduler.nextId⟩)
        (.id ⟨scheduler.nextId⟩)

theorem issues_of_step {entry : C} (going : machine.outcome = none)
    (todo : machine.todo = .issue home entry :: rest)
    (goes : machine.step.outcome = none) :
    ∃ scheduler answer, (machine.runtime home).scheduler = some scheduler ∧
      Issues home machine machine.step rest scheduler
        (Moment.issued? ⟨machine, .work⟩) answer ∧
      machine.step.todo = .reopen home :: .reply answer :: rest := by
  have step := Machine.step_eq going todo
  rw [step] at goes ⊢
  change ((machine.withTodo rest).issue home entry).outcome = none at goes
  change ∃ scheduler answer, _ ∧ Issues home machine ((machine.withTodo rest).issue home entry)
    rest scheduler _ answer ∧ ((machine.withTodo rest).issue home entry).todo = _
  simp only [Machine.issue, Machine.runtime_withTodo] at goes ⊢
  cases present : (machine.runtime home).scheduler with
  | none =>
      rw [present] at goes
      cases goes
  | some scheduler =>
      have issuing : Moment.issued? ⟨machine, .work⟩ =
          match scheduler.issueId (.new (machine.runtime home).config.stackSize ⟨[.begin], entry⟩)
            (machine.runtime home).config.maxThreads with
          | .ok (block, _) => some block.id
          | .error _ => none := by
        simp only [Moment.issued?, todo, present, Option.bind_some]
      simp only
      cases done : scheduler.issueId
          (.new (machine.runtime home).config.stackSize ⟨[.begin], entry⟩)
          (machine.runtime home).config.maxThreads with
      | error cause =>
          obtain ⟨limit, rfl⟩ := Scheduler.issueId_refused done
          rw [done] at issuing
          refine ⟨scheduler, _, rfl, ?_, rfl⟩
          rw [issuing]
          exact .full limit present
      | ok made =>
          obtain ⟨block, scheduler'⟩ := made
          have room := Scheduler.issueId_room done
          obtain ⟨rfl, nextId, rfl, next⟩ := Scheduler.issueId_eq done
          rw [done] at issuing
          have seated (scheduler' : Scheduler (Context n k C ν) ν) :
              (((((machine.withTodo rest).setScheduler home scheduler').report
                (.threadCreated ⟨scheduler.nextId⟩)).finishWith home
                (.id ⟨scheduler.nextId⟩)).runtime home).scheduler = some scheduler' := by
            simp [Machine.finishWith]
          refine ⟨scheduler, _, rfl, ?_, rfl⟩
          rw [issuing]
          exact .made room (seated _) next

/-- Threads are numbered as they are made, and the next number is free. -/
structure Numbered (home : Fin n) (past : List (Moment n k C ν)) (machine : Machine n k C ν) :
    Prop where
  ids : (issued past).reverse.map (fun thread => thread.number.toNat) =
    List.range' 1 (issued past).length
  room : (issued past).length < (machine.runtime home).config.maxThreads.toNat
  next : ∀ scheduler, (machine.runtime home).scheduler = some scheduler →
    scheduler.nextId.toNat = (issued past).length + 1
  unmade : (machine.runtime home).scheduler = none → issued past = []

/-- Whatever makes no thread keeps the numbers. -/
theorem Numbered.keep {later : List (Moment n k C ν)} (numbered : Numbered home past machine)
    (same : issued later = issued past)
    (config : (after.runtime home).config = (machine.runtime home).config)
    (next : ∀ scheduler', (after.runtime home).scheduler = some scheduler' →
      (∃ scheduler, (machine.runtime home).scheduler = some scheduler ∧
        scheduler'.nextId = scheduler.nextId) ∨
      (machine.runtime home).scheduler = none ∧ scheduler'.nextId.toNat = 1)
    (unmade : (after.runtime home).scheduler = none → (machine.runtime home).scheduler = none) :
    Numbered home later after := by
  constructor
  case ids => rw [same, numbered.ids]
  case room =>
    rw [same, config]
    exact numbered.room
  case next =>
    intro scheduler' present
    rcases next scheduler' present with ⟨scheduler, before, nextId⟩ | ⟨absent, first⟩
    · rw [nextId, same]
      exact numbered.next scheduler before
    · rw [first, same, numbered.unmade absent]
      rfl
  case unmade =>
    intro absent
    rw [same]
    exact numbered.unmade (unmade absent)

theorem Numbered.keep_scheduler {later : List (Moment n k C ν)}
    (numbered : Numbered home past machine) (same : issued later = issued past)
    (config : (after.runtime home).config = (machine.runtime home).config)
    (scheduler : (after.runtime home).scheduler = (machine.runtime home).scheduler) :
    Numbered home later after :=
  numbered.keep same config (fun scheduler' present => .inl ⟨scheduler', scheduler ▸ present, rfl⟩)
    fun absent => scheduler ▸ absent

theorem Numbered.reseat {later : List (Moment n k C ν)} {scheduler' : Scheduler _ ν}
    (numbered : Numbered home past machine) (same : issued later = issued past)
    (config : (after.runtime home).config = (machine.runtime home).config)
    (present : (machine.runtime home).scheduler = some scheduler)
    (seated : (after.runtime home).scheduler = some scheduler')
    (nextId : scheduler'.nextId = scheduler.nextId) : Numbered home later after := by
  refine numbered.keep same config (fun other now => .inl ⟨scheduler, present, ?_⟩) fun absent => ?_
  · obtain rfl := Option.some.inj (seated.symm.trans now)
    exact nextId
  · rw [seated] at absent
    cases absent

theorem Numbered.issuing {entry : C} (numbered : Numbered home past machine)
    (going : machine.outcome = none) (todo : machine.todo = .issue home entry :: rest)
    (goes : machine.step.outcome = none) :
    Numbered home (⟨machine, .work⟩ :: past) machine.step := by
  have config := machine.make_config .work home
  obtain ⟨scheduler, answer, present, issues, -⟩ := issues_of_step going todo goes
  have count := numbered.next scheduler present
  generalize made : Moment.issued? ⟨machine, .work⟩ = fresh at issues
  cases issues with
  | full limit same =>
      exact numbered.keep_scheduler (issued_other made) config (same.trans present.symm)
  | made room seated next =>
      have grown : issued (⟨machine, .work⟩ :: past) = ⟨scheduler.nextId⟩ :: issued past := by
        rw [issued, List.filterMap_cons, made]
        rfl
      constructor
      case ids =>
        rw [grown, List.reverse_cons, List.map_append, numbered.ids, List.length_cons,
          List.range'_concat]
        simp only [List.map_cons, List.map_nil, count, Nat.one_mul]
        rw [Nat.add_comm]
      case room =>
        rw [grown, List.length_cons]
        change _ < ((machine.make .work).runtime home).config.maxThreads.toNat
        rw [config]
        omega
      case next =>
        intro other now
        obtain rfl := Option.some.inj (seated.symm.trans now)
        rw [next, grown, List.length_cons, count]
      case unmade =>
        intro absent
        rw [seated] at absent
        cases absent

theorem Numbered.deciding {parking : Option (Fin k)} (numbered : Numbered home past machine)
    (going : machine.outcome = none) (todo : machine.todo = .schedule home parking :: rest)
    (goes : machine.step.outcome = none) :
    Numbered home (⟨machine, .work⟩ :: past) machine.step := by
  have config := machine.make_config .work home
  have same : issued (⟨machine, .work⟩ :: past) = issued past := issued_work todo (by simp)
  have step := Machine.step_eq going todo
  cases present : (machine.runtime home).scheduler with
  | none =>
      refine numbered.keep_scheduler same config ?_
      rw [step]
      change (((machine.withTodo rest).schedule home parking).runtime home).scheduler = _
      rw [(machine.withTodo rest).schedule_of_none present]
      rfl
  | some scheduler =>
      rw [step] at goes
      change ((machine.withTodo rest).schedule home parking).outcome = none at goes
      obtain ⟨rotation, decides, scheduled⟩ :=
        Machine.schedule_spec (machine.withTodo rest) present goes
      have seated : (machine.step.runtime home).scheduler = some rotation.scheduler := by
        rw [step]
        exact scheduled.scheduler
      refine numbered.reseat same config present seated ?_
      cases decides <;> rfl

theorem Sound.numbered_working (sound : Sound home past machine) (going : machine.outcome = none)
    (todo : machine.todo = action :: rest) (apart : ∀ parking, action ≠ .schedule home parking)
    (makes : ∀ index entry, action ≠ .issue index entry) (goes : machine.step.outcome = none)
    (numbered : Numbered home past machine) :
    Numbered home (⟨machine, .work⟩ :: past) machine.step := by
  have config := machine.make_config .work home
  have same : issued (⟨machine, .work⟩ :: past) = issued past := issued_work todo makes
  cases sound.shift going todo apart goes with
  | keeps scheduler => exact numbered.keep_scheduler same config scheduler
  | drops scheduler => exact numbered.keep_scheduler same config scheduler
  | issues => exact absurd rfl (makes _ _)
  | begins present seated | blocks present seated | completes present seated
  | reaps present seated | wakes present seated =>
      exact numbered.reseat same config present seated rfl
  | activates absent seated =>
      refine numbered.keep same config (fun other now => .inr ⟨absent, ?_⟩) fun none => ?_
      · obtain rfl := Option.some.inj (seated.symm.trans now)
        rfl
      · rw [seated] at none
        cases none

theorem Run.numbered (run : Run home past machine) (going : machine.outcome = none)
    (least : 0 < (machine.runtime home).config.maxThreads.toNat) :
    Numbered home past machine := by
  induction run with
  | start fresh code =>
      refine ⟨rfl, least, fun scheduler present => ?_, fun _ => rfl⟩
      simp [fresh, Runtime.new] at present
  | @move past machine move run before fits ih =>
      have sound := run.sound before
      have numbered := ih before (machine.make_config move home ▸ least)
      by_cases library : move = .work
      · subst library
        cases sound.next with
        | decides todo => exact numbered.deciding before todo going
        | @works action rest todo apart =>
            by_cases makes : ∃ index entry, action = .issue index entry
            · obtain ⟨index, entry, rfl⟩ := makes
              have stage := todo ▸ sound.stage
              obtain rfl : index = home := stage_keepsTo stage
              exact numbered.issuing before todo going
            · exact sound.numbered_working before todo (apart home)
                (fun index entry same => makes ⟨index, entry, same⟩) going numbered
      · have runtimes := (machine.make_own library).1
        exact numbered.keep_scheduler (issued_own library) (machine.make_config move home)
          (congrArg (fun runtime => (runtime home).scheduler) runtimes)

namespace Machine

/-- No thread is about to be made because a gate has moved. -/
theorem head_of_movesGate (before : Machine n k C ν) (gate : action.movesGate = true)
    (unmade : ∀ first ∈ before.todo.head?, first.makes = false) :
    ∀ first ∈ (before.perform action).todo.head?, first.makes = false := by
  cases action with
  | close index =>
      simp only [perform, closeGate]
      split
      · simp [Action.makes]
      · exact unmade
  | reopen index =>
      simp only [perform, reopenGate]
      split
      · simp [Action.makes]
      · exact unmade
  | timer =>
      simp only [perform, enterTimer]
      split
      · exact unmade
      · simp [Action.makes]
  | closed | reopened => exact unmade
  | _ => cases gate

theorem enroll_present (before : Machine n k C ν) {entry : C}
    (idle : (before.runtime home).scheduler = none → before.active = none)
    (goes : (before.enroll home entry).outcome = none) :
    ((before.enroll home entry).runtime home).scheduler.isSome = true := by
  simp only [enroll] at goes ⊢
  cases present : (before.runtime home).scheduler with
  | some scheduler => simp [present]
  | none =>
      simp only [present, idle present, Option.isSome_none, Bool.false_eq_true, if_false] at goes ⊢
      rw [runtime_push, (before.activate_spec goes).scheduler]
      rfl

end Machine

theorem Suspended.unmade {me : ThreadId} {errand : Option (Move n k C ν)}
    {todo : List (Action n k C ν)} (suspended : Suspended home me errand todo) :
    ∀ first ∈ todo.head?, first.makes = false := by
  rcases suspended with ⟨-, rfl⟩ | ⟨parking, stage⟩
  · simp [Action.makes]
  · obtain ⟨-, move, -, resumes⟩ := stage_resumes stage
    cases resumes <;> simp [Action.makes]

/-- A thread is only made on a runtime that has a scheduler. -/
theorem Run.enrolled {entry : C} (run : Run home past machine) (going : machine.outcome = none)
    (todo : machine.todo = .issue home entry :: rest) :
    (machine.runtime home).scheduler.isSome = true := by
  have sound := run.sound going
  have errand : late? home (machine.thread home) past = some (.create home entry) := by
    have stage := todo ▸ sound.stage
    obtain ⟨request, errand, late, -, steps⟩ := stage_earning stage rfl
    cases steps with
    | way gate => cases gate
    | issues => exact late_eq_some.mpr ⟨errand, late⟩
  cases run with
  | start fresh code => cases todo
  | @move past before move run earlier fits =>
      have before_sound := run.sound earlier
      by_cases library : move = .work
      · subst library
        change before.step.todo = _ at todo
        change (before.step.runtime home).scheduler.isSome = true
        change before.step.outcome = none at going
        change late? home (before.step.thread home) _ = _ at errand
        have making : ¬∀ first ∈ before.step.todo.head?, first.makes = false := by
          simp [todo, Action.makes]
        cases before_sound.next with
        | decides earlier_todo =>
            exact absurd (before_sound.suspended earlier earlier_todo going).unmade making
        | @works action left earlier_todo apart =>
            have step := Machine.step_eq earlier earlier_todo
            have proceeds := before_sound.proceeds earlier earlier_todo (apart home) fits going
            have thread := proceeds.stays.thread
            rw [late_work, thread] at errand
            obtain ⟨asks, late⟩ := late_eq_some.mp errand
            have foreign : action.isOwn = false := by
              simpa only [Move.Fits, Machine.inOwnCode, earlier_todo] using fits
            cases stage_late (asks ▸ earlier_todo ▸ before_sound.stage) late foreign with
            | decides => exact absurd rfl (apart _ _)
            | @way _ _ first others gate _ _ unmade =>
                rw [step] at making
                refine absurd (Machine.head_of_movesGate _ gate ?_) making
                simp [unmade]
            | enrolls asked =>
                rw [step] at going ⊢
                exact Machine.enroll_present _
                  (fun absent => (before_sound.unpopulated absent).active) going
            | issues asked =>
                obtain ⟨_, _, _, _, left⟩ := issues_of_step earlier earlier_todo going
                cases todo.symm.trans left
            | @finishes _ answer others =>
                have left : before.step.todo = .reply answer :: others := by
                  rw [step]
                  exact ((before.withTodo (.reply answer :: others)).reopenGate_eq
                    before_sound.opening).2
                cases todo.symm.trans left
            | replies =>
                rw [step] at todo
                cases todo
      · obtain ⟨host, own, said⟩ := before_sound.said fits library going
        cases said with
        | think =>
            change before.todo = _ at todo
            cases own.symm.trans todo
        | @ask request =>
            change request.actions ++ before.todo = _ at todo
            rw [own] at todo
            cases request <;> cases todo
        | leave left =>
            rw [left] at todo
            cases todo

/-- The thread that a creation comes back with. -/
def newThread? : Call n k C ν × Reply ν → Option ThreadId
  | (.create .., .id thread) => some thread
  | _ => none

/-- The threads that creations have come back with, the last one first. -/
def created (home : Fin n) (past : List (Moment n k C ν)) : List ThreadId :=
  (returns home past).filterMap newThread?

/-- A creation earns the thread that it makes, and nothing else earns one. -/
theorem Sound.earned_thread {move : Move n k C ν} (sound : Sound home past machine)
    (fits : move.Fits home machine) (going : machine.outcome = none)
    (goes : (machine.make move).outcome = none) :
    (Moment.earned? home ⟨machine, move⟩ past).bind newThread? =
      Moment.issued? ⟨machine, move⟩ := by
  by_cases library : move = .work
  · subst library
    cases todo : machine.todo with
    | nil => exact absurd todo (stage_ne_nil sound.stage)
    | cons action rest =>
        cases earns : action.earns with
        | false =>
            have idle : Moment.issued? ⟨machine, .work⟩ = none := by
              rw [Moment.issued?, todo]
              cases action with
              | issue => cases earns
              | _ => rfl
            rw [unearned todo earns, idle]
            rfl
        | true =>
            have stage := todo ▸ sound.stage
            obtain ⟨request, errand, late, still, steps⟩ := stage_earning stage earns
            have errand := late_eq_some.mpr ⟨errand, late⟩
            rw [earned_eq todo earns]
            cases steps with
            | way gate => exact absurd (gate.symm.trans still) (by decide)
            | decides | enrolls | finishes | replies => cases earns
            | issues =>
                have thread := (sound.proceeds going todo (by simp) fits goes).stays.thread
                obtain ⟨scheduler, answer, present, issues, left⟩ := issues_of_step going todo goes
                have due : due? home past machine.step = some (.create home _, answer) :=
                  due_of_late (thread ▸ errand) (by rw [left]; rfl)
                rw [due]
                generalize Moment.issued? ⟨machine, .work⟩ = fresh at issues
                cases issues <;> rfl
            | reaps | tryReaps =>
                have thread := (sound.proceeds going todo (by simp) fits goes).stays.thread
                have idle : Moment.issued? ⟨machine, .work⟩ = none := by rw [Moment.issued?, todo]
                rw [idle, due?, thread, errand]
                cases machine.step.todo.findSome? Action.answer? <;> rfl
  · rw [Move.unearned library]
    cases move with
    | work => exact absurd rfl library
    | _ => rfl

theorem Run.earned_threads (run : Run home past machine) (going : machine.outcome = none) :
    (earnings home past).filterMap newThread? = issued past := by
  induction run with
  | start fresh code => rfl
  | @move past machine move run before fits ih =>
      have earned := (run.sound before).earned_thread fits before going
      rw [earnings, List.filterMap_append, ih before, issued, issued, List.filterMap_cons, ← earned]
      cases Moment.earned? home ⟨machine, move⟩ past with
      | none => rfl
      | some pair =>
          simp only [Option.toList, List.filterMap_cons, List.filterMap_nil, Option.bind_some]
          cases newThread? pair <;> rfl

theorem Machine.play_config (machine : Machine n k C ν) (moves : List (Move n k C ν))
    (home : Fin n) :
    ((machine.play moves).runtime home).config = (machine.runtime home).config := by
  induction moves generalizing machine with
  | nil => rfl
  | cons move moves ih => exact (ih (machine.make move)).trans (machine.make_config move home)

theorem Numbered.below (numbered : Numbered home past machine) {thread : ThreadId}
    (member : thread ∈ issued past) :
    0 < thread.number.toNat ∧ thread.number.toNat ≤ (issued past).length := by
  have listed : thread.number.toNat ∈ List.range' 1 (issued past).length := by
    rw [← numbered.ids]
    exact List.mem_map_of_mem (List.mem_reverse.mpr member)
  obtain ⟨lower, upper⟩ := List.mem_range'_1.mp listed
  omega

/-- No thread of a runtime bears the number that marks a mutex as free. -/
theorem Numbered.real (numbered : Numbered home past machine) {thread : ThreadId}
    (made : thread = .main ∨ thread ∈ issued past) : thread.number ≠ Mutex.noOwner := by
  intro same
  rcases made with rfl | member
  · cases same
  · have upper := (numbered.below member).2
    have room := numbered.room
    have bound := (machine.runtime home).config.maxThreads.toNat_lt
    rw [same] at upper
    simp only [Mutex.noOwner, UInt32.reduceToNat] at upper
    omega

/-- How a runtime numbers its threads. -/
structure Numbers (home : Fin n) (past : List (Moment n k C ν)) (machine : Machine n k C ν) :
    Prop where
  ids : (issued past).reverse.map (fun thread => thread.number.toNat) =
    List.range' 1 (issued past).length
  room : (issued past).length < (machine.runtime home).config.maxThreads.toNat
  next : ∀ scheduler, (machine.runtime home).scheduler = some scheduler →
    scheduler.nextId.toNat = (issued past).length + 1
  /-- The creations that have come back with a thread are those that made one. -/
  created : machine.inOwnCode = true → created home past = issued past
  succeeds : ∀ entry rest, machine.todo = .issue home entry :: rest →
    (issued past).length + 1 < (machine.runtime home).config.maxThreads.toNat →
      ∃ thread : ThreadId, thread.number.toNat = (issued past).length + 1 ∧
        Moment.issued? ⟨machine, .work⟩ = some thread ∧ machine.ComesBack home 3 (.id thread)
  fails : ∀ entry rest, machine.todo = .issue home entry :: rest →
    (issued past).length + 1 = (machine.runtime home).config.maxThreads.toNat →
      Moment.issued? ⟨machine, .work⟩ = none ∧
        (machine.step.runtime home).scheduler = (machine.runtime home).scheduler ∧
        machine.ComesBack home 3
          (.failed ⟨Failure.tryAgain, .idsExhausted (machine.runtime home).config.maxThreads⟩)
  /-- Once the limit is reached it stays so. -/
  ends : (issued past).length + 1 = (machine.runtime home).config.maxThreads.toNat →
    ∀ moves, machine.allows home moves = true → (machine.play moves).outcome = none →
      issued (trail past machine moves) = issued past
  real : ∀ thread, thread = .main ∨ thread ∈ issued past → thread.number ≠ Mutex.noOwner ∧
    ∀ cells : Mutex (Context n k C ν) ν, (cells.setOwner thread).owner? = some thread

/-- What a creation that makes a thread comes to, seen from its call. -/
theorem Run.issues_back {entry : C} (run : Run home past machine) (going : machine.outcome = none)
    (todo : machine.todo = .issue home entry :: rest) :
    ∃ scheduler answer, (machine.runtime home).scheduler = some scheduler ∧
      Issues home machine machine.step rest scheduler (Moment.issued? ⟨machine, .work⟩) answer ∧
      machine.ComesBack home 3 answer := by
  have sound := run.sound going
  have library : machine.inOwnCode = false := Machine.inOwnCode_eq todo
  have goes : machine.step.outcome = none := by
    obtain ⟨scheduler, present⟩ := Option.isSome_iff_exists.mp (run.enrolled going todo)
    rw [Machine.step_eq going todo]
    change ((machine.withTodo rest).issue home entry).outcome = none
    simp only [Machine.issue, Machine.runtime_withTodo, present]
    split <;> exact going
  obtain ⟨scheduler, answer, present, issues, left⟩ := issues_of_step going todo goes
  have proceeds := sound.proceeds going todo (by simp) library goes
  have asked : Errand home (.ask (.create home entry)) rest := by
    have stage := todo ▸ sound.stage
    obtain ⟨request, -, -, still, steps⟩ := stage_earning stage rfl
    cases steps with
    | way gate => cases gate
    | issues asked => exact asked
  have comes := Machine.ComesBack.of_finishing goes left proceeds.sound.opening asked
  exact ⟨scheduler, answer, present, issues, comes.work going library proceeds.stays.thread⟩

/-- A runtime that may have threads numbers them consecutively, up to its limit. -/
theorem Run.numbers_threads (run : Run home past machine) (going : machine.outcome = none)
    (least : 0 < (machine.runtime home).config.maxThreads.toNat) : Numbers home past machine := by
  have sound := run.sound going
  have numbered := run.numbered going least
  constructor
  case ids => exact numbered.ids
  case room => exact numbered.room
  case next => exact numbered.next
  case created =>
    intro inside
    obtain ⟨host, rest, todo⟩ := Machine.own_of_inOwnCode inside
    obtain ⟨-, rfl, -⟩ := sound.own_todo todo
    have undue : due? home past machine = none := due_of_silent (by rw [todo]; rfl)
    have earned := run.earnings_eq going
    rw [undue] at earned
    rw [created, ← run.earned_threads going, earned]
    rfl
  case succeeds =>
    intro entry rest todo below
    obtain ⟨scheduler, answer, present, issues, comes⟩ := run.issues_back going todo
    have count := numbered.next scheduler present
    generalize Moment.issued? ⟨machine, .work⟩ = fresh at issues
    cases issues with
    | full limit => omega
    | made => exact ⟨_, count, rfl, comes⟩
  case fails =>
    intro entry rest todo reached
    obtain ⟨scheduler, answer, present, issues, comes⟩ := run.issues_back going todo
    have count := numbered.next scheduler present
    generalize Moment.issued? ⟨machine, .work⟩ = fresh at issues
    cases issues with
    | full limit same => exact ⟨rfl, same.trans present.symm, comes⟩
    | made room => omega
  case ends =>
    intro reached moves allowed goes
    have later := run.play moves allowed
    have config := machine.play_config moves home
    have room := (later.numbered goes (config ▸ least)).room
    rw [config, trail_eq, issued, List.filterMap_append, List.length_append] at room
    change _ + (issued past).length < _ at room
    have none : (trail [] machine moves).filterMap Moment.issued? = [] :=
      List.length_eq_zero_iff.mp (by omega)
    rw [trail_eq, issued, List.filterMap_append, none, List.nil_append, issued]
  case real =>
    intro thread made
    have real := numbered.real made
    exact ⟨real, fun cells => by simp [Mutex.owner?, Mutex.setOwner, real]⟩

/-- A context with one runtime that holds two threads at most. -/
def narrow : Machine 1 1 Unit Nat :=
  .start #v[.new { Config.standard with maxThreads := 2 } (.new .scripted fun _ => false)] ()

/-- The context has made thread 1 and is about to fail to make another. -/
theorem numbers_threads_full :
    let moves := Move.calling (.create sole ()) 5 ++ Move.calling (.create sole ()) 2
    0 < ((narrow.play moves).runtime sole).config.maxThreads.toNat ∧
      (narrow.play moves).todo = [.issue sole (), .own none] ∧
      issued (trail [] narrow moves) = [⟨1⟩] ∧
      Numbers sole (trail [] narrow moves) (narrow.play moves) := by
  have run := Run.play (.start rfl ())
    (Move.calling (.create sole ()) 5 ++ Move.calling (.create sole ()) 2)
    (by decide : narrow.allows sole _ = true)
  exact ⟨by decide, rfl, rfl, run.numbers_threads rfl (by decide)⟩

end UserThreads
