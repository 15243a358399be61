import UserThreads.Proofs.Contexts

/-!
Entries and ends of threads: a new thread takes its entry once and before all else, and
a thread that has exited does not go on.
-/

namespace UserThreads

variable {n k : Nat} {C ν : Type}

/-- What a thread does that has not got to its own code. -/
inductive Enters (home : Fin n) (machine after : Machine n k C ν) : Prop
  | begins {scheduler : Scheduler (Context n k C ν) ν}
      (present : (machine.runtime home).scheduler = some scheduler)
      (todo : machine.todo = [.begin])
      (left : after.todo = [.reopen home, .enter home scheduler.current.unstarted])
  | opens {unstarted : Bool} (todo : machine.todo = [.reopen home, .enter home unstarted])
      (left : after.todo = [.enter home unstarted])
  | enters (todo : machine.todo = [.enter home true]) (left : after.todo = [.own (some home)])

variable {home : Fin n} {past : List (Moment n k C ν)} {machine : Machine n k C ν}
  {rest : List (Action n k C ν)} {thread : ThreadId} {context : Context n k C ν}

/-- Only a thread that has called for nothing is on the way to its own code for the first time. -/
theorem stage_unasked {me : ThreadId} {errand : Option (Move n k C ν)} {closed : Bool}
    {host : Fin n} {unstarted : Bool} {todo : List (Action n k C ν)}
    (stage : Stage home me errand closed todo)
    (shape : todo = [.begin] ∨ todo = .enter host unstarted :: rest ∨
      todo = .reopen home :: .enter host unstarted :: rest) : errand = none := by
  cases stage with
  | begin | beginning | enter => rfl
  | initial | own => simp at shape
  | guarded asked doing way =>
      cases way with
      | through => cases doing <;> simp at shape
      | _ => simp at shape
  | piece asked doing => cases doing <;> simp at shape

theorem Suspended.outside {me : ThreadId} {errand : Option (Move n k C ν)}
    {todo : List (Action n k C ν)} (suspended : Suspended home me errand todo) (host : Fin n)
    (unstarted : Bool) (rest : List (Action n k C ν)) :
    todo ≠ .enter host unstarted :: rest ∧
      todo ≠ .reopen home :: .enter host unstarted :: rest := by
  rcases suspended with ⟨-, rfl⟩ | ⟨parking, stage⟩
  · simp
  · obtain ⟨-, move, -, resumes⟩ := stage_resumes stage
    cases resumes <;> simp

theorem Resumes.begun {me : ThreadId} {parking : Option (Fin k)} {move : Move n k C ν}
    {todo : List (Action n k C ν)} (resumes : Resumes home me parking move todo) :
    todo ≠ [.begin] := by
  cases resumes <;> simp

/-- What a thread that ends does, the moves of its gate aside. -/
theorem stage_ending {me : ThreadId} {move : Move n k C ν} {closed : Bool}
    {action : Action n k C ν} (stage : Stage home me (some move) closed (action :: rest))
    (ends : move.exitValue?.isSome = true) (quiet : action.movesGate = false)
    (foreign : action.isOwn = false) :
    (∃ value, action = .finish home value) ∨ (∃ parking, action = .schedule home parking) ∨
      action = .resumed ∨ ∃ answer host, action = .reply answer ∧ rest = [.own host] := by
  generalize shape : action :: rest = todo at stage
  cases stage with
  | initial | own => cases shape; cases foreign
  | guarded asked doing way =>
      cases way with
      | close | timer | timerCloses | closed => cases shape; cases quiet
      | timerSchedules => cases shape; exact .inr (.inl ⟨_, rfl⟩)
      | through =>
          cases doing with
          | exit | finish => cases shape; exact .inl ⟨_, rfl⟩
          | leave => cases shape; cases quiet
          | _ => cases ends
  | piece asked doing =>
      cases doing with
      | finishing => cases shape; cases quiet
      | replying => cases asked <;> cases shape <;> exact .inr (.inr (.inr ⟨_, _, rfl, rfl⟩))
      | exiting | leaving => cases shape; exact .inr (.inl ⟨_, rfl⟩)
      | exited | left => cases shape; exact .inr (.inr (.inl rfl))
      | _ => cases ends

theorem Resumes.ends {me : ThreadId} {parking : Option (Fin k)} {move : Move n k C ν}
    (resumes : Resumes home me parking move (.resumed :: rest)) :
    move.exitValue?.isSome = true := by
  cases resumes <;> rfl

theorem stage_resumed {me : ThreadId} {errand : Option (Move n k C ν)} {closed : Bool}
    (stage : Stage home me errand closed (.resumed :: rest)) :
    ∃ move, errand = some move ∧ move.exitValue?.isSome = true := by
  generalize shape : Action.resumed :: rest = todo at stage
  cases stage with
  | initial | own | begin | beginning | enter => cases shape
  | guarded asked doing way =>
      cases way with
      | through => cases doing <;> cases shape
      | _ => cases shape
  | piece asked doing => cases doing <;> cases shape <;> exact ⟨_, rfl, rfl⟩

/-- No gate is moved right before a thread's last decision, nor behind it. -/
theorem stage_behind {me : ThreadId} {errand : Option (Move n k C ν)} {closed : Bool}
    {action : Action n k C ν} {index : Fin n} {parking : Option (Fin k)}
    {behind : List (Action n k C ν)} (stage : Stage home me errand closed (action :: behind))
    (ending : behind = .resumed :: rest ∨ behind = .schedule index parking :: .resumed :: rest) :
    action.movesGate = false := by
  generalize shape : action :: behind = todo at stage
  cases stage with
  | initial | own | begin | beginning | enter => cases shape; simp at ending
  | guarded asked doing way =>
      cases way with
      | close | closed => cases shape; cases doing <;> cases asked <;> simp at ending
      | timer | timerCloses | timerSchedules => cases shape; simp at ending
      | through => cases doing <;> cases asked <;> cases shape <;> simp at ending
  | piece asked doing =>
      cases doing <;> cases asked <;> cases shape <;> first | rfl | simp at ending

/-- A gate that moves puts nothing but the timer in front of what is left. -/
theorem Machine.behind_gate (before : Machine n k C ν) {action first : Action n k C ν}
    (gate : action.movesGate = true) (strange : first.movesGate = false)
    (left : (before.perform action).todo = first :: rest) : before.todo = first :: rest := by
  cases action with
  | close index =>
      simp only [perform, closeGate] at left
      split at left
      · cases left
        cases strange
      · exact left
  | reopen index =>
      simp only [perform, reopenGate] at left
      split at left
      · cases left
        cases strange
      · exact left
  | timer =>
      simp only [perform, enterTimer] at left
      split at left
      · exact left
      · cases left
        cases strange
  | closed | reopened => exact left
  | _ => cases gate

namespace Sound

theorem enters (sound : Sound home past machine) (going : machine.outcome = none)
    (library : machine.inOwnCode = false)
    (errand : errand? home (machine.thread home) past = none)
    (goes : machine.step.outcome = none) : Enters home machine machine.step := by
  have stage := sound.stage
  rw [errand] at stage
  generalize left : machine.todo = todo at stage
  generalize machine.shut home = closed at stage
  cases stage with
  | initial | own => simp [Machine.inOwnCode, left, Action.isOwn] at library
  | begin =>
      rw [Machine.step_eq going left] at goes ⊢
      change (machine.withTodo []).begin.outcome = none at goes
      change Enters home machine (machine.withTodo []).begin
      cases present : (machine.runtime home).scheduler with
      | none => simp [Machine.begin, (sound.unpopulated present).active, Machine.abort] at goes
      | some scheduler =>
          refine .begins present left ?_
          simp [Machine.begin, (sound.populated scheduler present).active, present,
            Block.takeEntry, Machine.setScheduler, Machine.setRuntime]
  | @beginning unstarted =>
      refine .opens left ?_
      rw [Machine.step_eq going left]
      exact ((machine.withTodo [.enter home unstarted]).reopenGate_eq sound.opening).2
  | @enter unstarted =>
      rw [Machine.step_eq going left] at goes ⊢
      cases unstarted with
      | false => cases goes
      | true => exact .enters left rfl

/-- Only decisions change who runs. -/
theorem keeps_thread {move : Move n k C ν} (sound : Sound home past machine)
    (going : machine.outcome = none) (fits : move.Fits home machine)
    (goes : (machine.make move).outcome = none)
    (stays : move = .work → ∀ parking rest, machine.todo ≠ .schedule home parking :: rest) :
    (machine.make move).thread home = machine.thread home := by
  by_cases library : move = .work
  · subst library
    cases sound.next with
    | decides todo => exact absurd todo (stays rfl _ _)
    | works todo apart => exact (sound.proceeds going todo (apart home) fits goes).stays.thread
  · exact congrArg (fun runtimes => (runtimes home).current)
      (machine.make_own library).1

/-- Nobody is new who has made a move, unless by a decision. -/
theorem unbegun {move : Move n k C ν} (sound : Sound home past machine)
    (going : machine.outcome = none) (fits : move.Fits home machine)
    (goes : (machine.make move).outcome = none)
    (stays : move = .work → ∀ parking rest, machine.todo ≠ .schedule home parking :: rest) :
    (machine.make move).todo ≠ [.begin] := by
  intro fresh
  by_cases library : move = .work
  · subst library
    change machine.step.todo = _ at fresh
    cases sound.next with
    | decides todo => exact stays rfl _ _ todo
    | works todo apart =>
        have proceeds := sound.proceeds going todo (apart home) fits goes
        have shape : machine.step.todo = [.begin] ∨ machine.step.todo = [.enter home true] ∨
            machine.step.todo = [.reopen home, .enter home true] := .inl fresh
        have errand := stage_unasked proceeds.sound.stage shape
        rw [errand_work, proceeds.stays.thread] at errand
        cases sound.enters going fits errand goes with
        | begins _ _ left | opens _ left | enters _ left => cases fresh.symm.trans left
  · obtain ⟨host, todo, said⟩ := sound.said fits library goes
    cases said with
    | think => cases todo.symm.trans fresh
    | @ask request =>
        change request.actions ++ machine.todo = _ at fresh
        rw [todo] at fresh
        cases request <;> cases fresh
    | leave left =>
        rw [left] at fresh
        cases fresh

/-- Whoever ends is completed when it comes to the decision. -/
theorem completes {value : ν} (going : machine.outcome = none)
    (todo : machine.todo = .finish home value :: rest) (goes : machine.step.outcome = none) :
    machine.step.todo = .schedule home none :: .resumed :: rest ∧
      ∃ scheduler, (machine.step.runtime home).scheduler = some scheduler ∧
        scheduler.current.status = .completed := by
  rw [Machine.step_eq going todo] at goes ⊢
  change ((machine.withTodo rest).finish home value).outcome = none at goes
  change ((machine.withTodo rest).finish home value).todo = _ ∧
    ∃ scheduler, (((machine.withTodo rest).finish home value).runtime home).scheduler =
      some scheduler ∧ _
  simp only [Machine.finish, Machine.runtime_withTodo] at goes ⊢
  cases present : (machine.runtime home).scheduler with
  | none =>
      rw [present] at goes
      cases goes
  | some scheduler =>
      simp only [present] at goes ⊢
      cases completed : scheduler.current.complete? value with
      | none =>
          rw [completed] at goes
          cases goes
      | some block =>
          have status : block.status = .completed := by
            unfold Block.complete? at completed
            split at completed <;> cases completed
            rfl
          simp only [completed] at goes ⊢
          split
          · exact ⟨rfl, { scheduler with current := block }, by simp, status⟩
          · rename_i idle
            rw [if_neg idle] at goes
            cases goes

/-- A thread comes to its last decision by its end, and not beyond it. -/
theorem ending {index : Fin n} {parking : Option (Fin k)} {later : List (Action n k C ν)}
    (sound : Sound home past machine) (going : machine.outcome = none)
    (library : machine.inOwnCode = false)
    (stays : ∀ parking rest, machine.todo ≠ .schedule home parking :: rest)
    (goes : machine.step.outcome = none) (left : machine.step.todo = later)
    (ending : later = .resumed :: rest ∨ later = .schedule index parking :: .resumed :: rest) :
    ∃ value behind, machine.todo = .finish home value :: behind := by
  cases todo : machine.todo with
  | nil => exact absurd todo (stage_ne_nil sound.stage)
  | cons action behind =>
      have proceeds :=
        sound.proceeds going todo (fun _ same => stays _ _ (same ▸ todo)) library goes
      have foreign : action.isOwn = false := by
        simpa only [Machine.inOwnCode, todo] using library
      have ended := left ▸ proceeds.sound.stage
      rw [errand_work, proceeds.stays.thread] at ended
      obtain ⟨move, errand, ends⟩ : ∃ move, errand? home (machine.thread home) past = some move ∧
          move.exitValue?.isSome = true := by
        rcases ending with rfl | rfl
        · exact stage_resumed ended
        · obtain rfl := stage_host ended
          obtain ⟨-, move, errand, resumes⟩ := stage_resumes ended
          exact ⟨move, errand, resumes.ends⟩
      rw [Machine.step_eq going todo] at left goes
      have stage := todo ▸ sound.stage
      rw [errand] at stage
      cases gate : action.movesGate with
      | true =>
          obtain ⟨first, others, rfl, strange⟩ : ∃ first others, later = first :: others ∧
              first.movesGate = false := by
            rcases ending with rfl | rfl <;> exact ⟨_, _, rfl, rfl⟩
          have behind : behind = first :: others := Machine.behind_gate _ gate strange left
          exact absurd (gate.symm.trans (stage_behind stage (behind ▸ ending))) (by decide)
      | false =>
          rcases stage_ending stage ends gate foreign with
            ⟨value, rfl⟩ | ⟨parking, rfl⟩ | rfl | ⟨answer, host, rfl, rfl⟩
          · exact ⟨value, behind, rfl⟩
          · exact absurd todo (stays _ _)
          · cases goes
          · rcases ending with rfl | rfl <;> cases left

end Sound

/-- Whoever has not ended is the initial context or was made. -/
theorem Run.named (run : Run home past machine) (going : machine.outcome = none)
    (alive : Alive home machine thread context) : thread = .main ∨ thread ∈ issued past := by
  have grown {moment : Moment n k C ν} {past : List (Moment n k C ν)} {thread : ThreadId}
      (known : thread = .main ∨ thread ∈ issued past) :
      thread = .main ∨ thread ∈ issued (moment :: past) :=
    known.imp_right fun member => (List.sublist_cons_self moment past).filterMap _ |>.mem member
  induction run generalizing thread context with
  | start fresh code => exact .inl (Alive.at_start fresh alive).1
  | move run before fits ih =>
      cases (run.sound before).evolves before fits going alive with
      | acts | pauses => exact grown (ih before .running)
      | waits earlier => exact grown (ih before earlier)
      | begins working todo issued =>
          exact .inr (List.mem_filterMap.mpr ⟨_, List.mem_cons_self, issued⟩)

theorem Run.moved (run : Run home past machine) :
    ∀ moment ∈ past, moment.thread home = .main ∨ moment.thread home ∈ issued past := by
  induction run with
  | start fresh code => simp
  | @move past machine move run before fits ih =>
      intro moment member
      have known : moment.thread home = .main ∨ moment.thread home ∈ issued past := by
        rcases List.mem_cons.mp member with rfl | member
        · exact run.named before .running
        · exact ih moment member
      exact known.imp_right fun member =>
        (List.sublist_cons_self ⟨machine, move⟩ past).filterMap _ |>.mem member

/-- A thread that is made has another name than all before it. -/
theorem Run.newcomer {entry : C} (run : Run home past machine) (going : machine.outcome = none)
    (todo : machine.todo = .issue home entry :: rest) (goes : machine.step.outcome = none)
    (made : Moment.issued? ⟨machine, .work⟩ = some thread) :
    thread ≠ .main ∧ thread ∉ issued past := by
  refine ⟨?_, run.newborn_unissued going todo goes made⟩
  rintro rfl
  have sound := run.sound going
  obtain ⟨scheduler, -, present, -⟩ := issues_of_step going todo goes
  have unborn := (sound.newborn going todo goes made).1 scheduler present
  exact absurd (sound.populated scheduler present).born (Nat.not_lt.mpr (Nat.le_trans unborn
    (Nat.zero_le _)))

/-- Whoever is to begin has made no move. -/
theorem Run.untaken (run : Run home past machine) (going : machine.outcome = none)
    (alive : Alive home machine thread context) (fresh : context.todo = [.begin]) :
    ∀ moment ∈ past, moment.thread home ≠ thread := by
  induction run generalizing thread context with
  | start fresh code => simp
  | @move past machine move run before fits ih =>
      have sound := run.sound before
      cases sound.evolves before fits going alive with
      | acts stays => exact absurd fresh (sound.unbegun before fits going stays)
      | pauses working todo =>
          obtain ⟨-, _, -, resumes⟩ := stage_resumes (todo ▸ sound.stage)
          exact absurd fresh resumes.begun
      | waits earlier other =>
          intro moment member
          rcases List.mem_cons.mp member with rfl | member
          · exact fun same => other same.symm
          · exact ih before earlier fresh moment member
      | begins working todo made =>
          subst working
          obtain ⟨younger, unissued⟩ := run.newcomer before todo going made
          rintro moment member rfl
          have known : moment.thread home = .main ∨ moment.thread home ∈ issued past := by
            rcases List.mem_cons.mp member with rfl | member
            · exact run.named before .running
            · exact run.moved moment member
          exact known.elim younger unissued

/-- Whoever is to begin has its entry. -/
structure Fresh (home : Fin n) (machine : Machine n k C ν) : Prop where
  ready : ∀ block ∈ machine.readyOn home, block.context.todo = [.begin] → block.unstarted = true
  running : machine.todo = [.begin] → ∃ scheduler, (machine.runtime home).scheduler =
    some scheduler ∧ scheduler.current.unstarted = true
  entering : ∀ host unstarted rest, machine.todo = .enter host unstarted :: rest ∨
    machine.todo = .reopen home :: .enter host unstarted :: rest → unstarted = true

theorem Fresh.own {move : Move n k C ν} (fresh : Fresh home machine)
    (sound : Sound home past machine) (going : machine.outcome = none)
    (fits : move.Fits home machine) (own : move ≠ .work)
    (goes : (machine.make move).outcome = none) : Fresh home (machine.make move) := by
  have runtimes := (machine.make_own own).1
  constructor
  case ready =>
    rw [Machine.readyOn, runtimes, ← Machine.readyOn]
    exact fresh.ready
  case running =>
    intro begins
    exact absurd begins (sound.unbegun going fits goes fun working => absurd working own)
  case entering =>
    intro host unstarted rest entering
    obtain ⟨own, todo, said⟩ := sound.said fits own goes
    cases said with
    | think =>
        change machine.todo = _ ∨ machine.todo = _ at entering
        simp [todo] at entering
    | @ask request =>
        change request.actions ++ machine.todo = _ ∨ request.actions ++ machine.todo = _ at entering
        rw [todo] at entering
        cases request <;> simp [Call.actions] at entering
    | leave left =>
        rw [left] at entering
        simp [Machine.withTodo] at entering

theorem Fresh.decides {parking : Option (Fin k)} (fresh : Fresh home machine)
    (sound : Sound home past machine) (going : machine.outcome = none)
    (todo : machine.todo = .schedule home parking :: rest)
    (goes : machine.step.outcome = none) : Fresh home machine.step := by
  obtain ⟨-, _, -, resumes⟩ := stage_resumes (todo ▸ sound.stage)
  have outside (host : Fin n) (unstarted : Bool) (others : List (Action n k C ν)) :=
    (sound.suspended going todo goes).outside host unstarted others
  have entering (host : Fin n) (unstarted : Bool) (others : List (Action n k C ν))
      (entering : machine.step.todo = .enter host unstarted :: others ∨
        machine.step.todo = .reopen home :: .enter host unstarted :: others) :
      unstarted = true :=
    entering.elim (fun same => absurd same (outside _ _ _).1)
      fun same => absurd same (outside _ _ _).2
  have step := Machine.step_eq going todo
  change machine.step = (machine.withTodo rest).schedule home parking at step
  cases present : (machine.runtime home).scheduler with
  | none =>
      rw [(machine.withTodo rest).schedule_of_none present] at step
      refine ⟨?_, ?_, entering⟩
      · simp [step, Machine.readyOn, present]
      · intro begins
        rw [step] at begins
        exact absurd begins resumes.begun
  | some scheduler =>
      rw [step] at goes
      obtain ⟨rotation, decides, scheduled⟩ :=
        Machine.schedule_spec (machine.withTodo rest) present goes
      -- Whoever made the decision is not new, and the others have what they had.
      have seated {block : Block (Context n k C ν) ν}
          (member : block ∈ rotation.scheduler.current :: rotation.scheduler.ready.elements)
          (begins : block.context.todo = [.begin]) : block.unstarted = true := by
        rcases decides.seated member with member | filed
        · exact fresh.ready block (Machine.readyOn_eq present ▸ member) begins
        · rw [filed.context] at begins
          exact absurd begins resumes.begun
      refine ⟨?_, ?_, entering⟩
      · intro block member
        rw [step, Machine.readyOn_eq scheduled.scheduler] at member
        exact seated (List.mem_cons_of_mem _ member)
      · intro begins
        rw [step, (scheduled.seated (sound.populated scheduler present) decides).2] at begins
        rw [step]
        exact ⟨_, scheduled.scheduler, seated List.mem_cons_self begins⟩

theorem Fresh.works {action : Action n k C ν} (fresh : Fresh home machine)
    (sound : Sound home past machine) (going : machine.outcome = none)
    (todo : machine.todo = action :: rest)
    (apart : ∀ index parking, action ≠ .schedule index parking)
    (library : machine.inOwnCode = false)
    (goes : machine.step.outcome = none) : Fresh home machine.step := by
  have proceeds := sound.proceeds going todo (apart home) library goes
  constructor
  case running =>
    intro begins
    have fits : Move.work.Fits home machine := library
    refine absurd begins (sound.unbegun going fits goes ?_)
    intro _ parking others same
    exact apart _ _ (List.cons.inj (todo.symm.trans same)).1
  case entering =>
    intro host unstarted others entering
    have errand := stage_unasked proceeds.sound.stage (.inr entering)
    rw [errand_work, proceeds.stays.thread] at errand
    cases sound.enters going library errand goes with
    | begins present begins left =>
        obtain ⟨scheduler, present', taken⟩ := fresh.running begins
        cases present.symm.trans present'
        simp only [left, reduceCtorEq, List.cons.injEq, Action.enter.injEq, false_and, true_and,
          false_or] at entering
        exact entering.1.2 ▸ taken
    | opens enters left =>
        refine fresh.entering host unstarted others (.inr ?_)
        rw [left] at entering
        simp only [reduceCtorEq, List.cons.injEq, false_and, or_false] at entering
        rw [enters, ← entering.1, ← entering.2]
    | enters _ left => simp [left] at entering
  case ready =>
    intro block member begins
    have kept (same : block ∈ machine.readyOn home) : block.unstarted = true :=
      fresh.ready block same begins
    cases sound.shift going todo (apart home) goes with
    | keeps same | drops same =>
        rw [Machine.readyOn, same, ← Machine.readyOn] at member
        exact kept member
    | activates absent present =>
        rw [Machine.readyOn_eq present] at member
        cases member
    | begins present seated | blocks present seated | completes present seated
    | reaps present seated =>
        rw [Machine.readyOn_eq seated] at member
        exact kept (Machine.readyOn_eq present ▸ member)
    | issues present seated =>
        rw [Machine.readyOn_eq seated] at member
        rcases OrderedQueue.mem_insertByAge.mp member with rfl | member
        · rfl
        · exact kept (Machine.readyOn_eq present ▸ member)
    | @wakes _ mutex scheduler waiter present seated first =>
        rw [Machine.readyOn_eq seated] at member
        rcases OrderedQueue.mem_insertByAge.mp member with rfl | member
        · have inside : waiter ∈ machine.parkedOn mutex := first ▸ List.mem_cons_self
          have stage := ((sound.populated scheduler present).parked mutex waiter inside).stage
          obtain ⟨-, _, -, resumes⟩ := stage_resumes stage
          exact absurd begins resumes.begun
        · exact kept (Machine.readyOn_eq present ▸ member)

theorem Run.fresh (run : Run home past machine) (going : machine.outcome = none) :
    Fresh home machine := by
  induction run with
  | start fresh code =>
      constructor
      case ready => simp [Machine.readyOn, fresh, Runtime.new]
      case running => simp [Machine.start]
      case entering => simp [Machine.start]
  | @move past machine move run before fits ih =>
      have sound := run.sound before
      by_cases library : move = .work
      · subst library
        cases sound.next with
        | decides todo => exact (ih before).decides sound before todo going
        | works todo apart => exact (ih before).works sound before todo apart fits going
      · exact (ih before).own sound before fits library going

/-- A thread on its way to its last decision is completed. -/
theorem Run.exiting {parking : Option (Fin k)} (run : Run home past machine)
    (going : machine.outcome = none)
    (todo : machine.todo = .schedule home parking :: .resumed :: rest) :
    ∃ scheduler, (machine.runtime home).scheduler = some scheduler ∧
      scheduler.current.status = .completed := by
  cases run with
  | start fresh code => cases todo
  | @move past machine move run before fits =>
      have sound := run.sound before
      by_cases library : move = .work
      · subst library
        change machine.step.todo = _ at todo
        cases sound.next with
        | decides deciding =>
            have suspended := sound.suspended before deciding going
            rw [todo] at suspended
            rcases suspended with ⟨-, same⟩ | ⟨parking, stage⟩
            · cases same
            · obtain ⟨-, _, -, resumes⟩ := stage_resumes stage
              cases resumes
        | works working apart =>
            have stays (parking : Option (Fin k)) (rest : List (Action n k C ν)) :
                machine.todo ≠ .schedule home parking :: rest :=
              fun same => apart _ _ (List.cons.inj (working.symm.trans same)).1
            obtain ⟨value, behind, finishing⟩ :=
              sound.ending before fits stays going todo (.inr rfl)
            exact (Sound.completes before finishing going).2
      · obtain ⟨host, own, said⟩ := sound.said fits library going
        cases said with
        | think =>
            change machine.todo = _ at todo
            cases own.symm.trans todo
        | @ask request =>
            change request.actions ++ machine.todo = _ at todo
            rw [own] at todo
            cases request <;> cases todo
        | leave left =>
            rw [left] at todo
            cases todo

/-- Whoever has ended is not alive. -/
theorem Populated.unalive {scheduler : Scheduler (Context n k C ν) ν}
    {block : Block (Context n k C ν) ν} (populated : Populated home past machine scheduler)
    (present : (machine.runtime home).scheduler = some scheduler)
    (ended : block ∈ scheduler.completed.elements) (same : block.id = thread) :
    ¬Alive home machine thread context := by
  have once {other : Block (Context n k C ν) ν}
      (member : other ∈ scheduler.ready.elements ∨ other ∈ machine.parked) :
      other.id ≠ thread := by
    rintro rfl
    have distinct := populated.distinct
    simp only [accounted, List.map_cons, List.map_append, List.cons_append, List.append_assoc,
      List.nodup_cons, List.nodup_append, List.mem_append, List.mem_map] at distinct
    have number : block.number = other.number := by rw [Block.number, same, Block.number]
    rcases member with ready | parked
    · exact distinct.2.2.2 _ ⟨other, ready, rfl⟩ _ (.inl ⟨block, ended, rfl⟩) number.symm
    · exact distinct.2.2.1.2.2 _ ⟨block, ended, rfl⟩ _ (.inl ⟨other, parked, rfl⟩) number
  intro alive
  cases alive with
  | running => exact populated.apart_completed ended (same.trans populated.current.symm)
  | ready member => exact once (.inl (Machine.readyOn_eq present ▸ member)) rfl
  | parked member => exact once (.inr (Machine.mem_parked.mpr ⟨_, member⟩)) rfl

/-- Whoever makes its last decision is not alive after it. -/
theorem Run.ends {parking : Option (Fin k)} (run : Run home past machine)
    (going : machine.outcome = none)
    (todo : machine.todo = .schedule home parking :: .resumed :: rest)
    (goes : machine.step.outcome = none) :
    ¬Alive home machine.step (machine.thread home) context := by
  have sound := run.sound going
  have library : machine.inOwnCode = false := Machine.inOwnCode_eq todo
  obtain ⟨scheduler, present, status⟩ := run.exiting going todo
  have populated := sound.populated scheduler present
  have later := sound.work going library goes
  have step := Machine.step_eq going todo
  change machine.step = (machine.withTodo (.resumed :: rest)).schedule home parking at step
  obtain ⟨rotation, decides, scheduled⟩ :=
    Machine.schedule_spec (machine.withTodo (.resumed :: rest)) present (step ▸ goes)
  have present' : (machine.step.runtime home).scheduler = some rotation.scheduler :=
    step ▸ scheduled.scheduler
  cases decides with
  | stays alone =>
      cases populated.standing with
      | ready other | blocked other => exact absurd (status.symm.trans other) (by decide)
      | completed _ _ _ _ others => exact absurd alone others
  | requeues other | parks _ other => exact absurd (status.symm.trans other) (by decide)
  | @completes age =>
      have filed : ((machine.withTodo (.resumed :: rest)).save scheduler).current.aged age ∈
          OrderedQueue.insertByAge _ scheduler.completed.elements :=
        OrderedQueue.mem_insertByAge.mpr (.inl rfl)
      exact (later.populated _ present').unalive present' filed populated.current

end UserThreads
