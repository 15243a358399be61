import UserThreads.Proofs.Answers

/-!
Creations and joins come back with the answer that they have earned: between the
piece of work on the scheduler that settles the answer and the return of the call
nobody else runs.
-/

namespace UserThreads

variable {n k : Nat} {C ν : Type}

/-- The calls whose answer is settled by one piece of work on the scheduler. -/
def Call.late : Call n k C ν → Bool
  | .create .. | .join .. | .tryJoin .. => true
  | _ => false

/-- The thread's errand, if it is a creation or a join. -/
def late? (home : Fin n) (thread : ThreadId) (past : List (Moment n k C ν)) :
    Option (Call n k C ν) :=
  match errand? home thread past with
  | some (.ask request) => if request.late then some request else none
  | _ => none

def Action.answer? : Action n k C ν → Option (Reply ν)
  | .reply answer => some answer
  | _ => none

/-- The creation or join that is about to come back, with its answer. -/
def due? (home : Fin n) (past : List (Moment n k C ν)) (machine : Machine n k C ν) :
    Option (Call n k C ν × Reply ν) :=
  (late? home (machine.thread home) past).bind fun request =>
    (machine.todo.findSome? Action.answer?).map (request, ·)

def Action.makes : Action n k C ν → Bool
  | .issue .. => true
  | _ => false

/-- The pieces of work that settle the answer of a creation or a join. -/
def Action.earns : Action n k C ν → Bool
  | .issue .. | .reap .. | .tryReap .. => true
  | _ => false

namespace Moment

/-- The creation or join that comes back by this move, made after `past`, with its answer. -/
def returned? (home : Fin n) (moment : Moment n k C ν) (past : List (Moment n k C ν)) :
    Option (Call n k C ν × Reply ν) :=
  if moment.machine.inOwnCode = false ∧ moment.after.inOwnCode = true then
    (late? home (moment.thread home) past).map (·, moment.after.answer)
  else none

/-- The creation or join whose answer is settled by this move, made after `past`. -/
def earned? (home : Fin n) (moment : Moment n k C ν) (past : List (Moment n k C ν)) :
    Option (Call n k C ν × Reply ν) :=
  match moment.move, moment.machine.todo with
  | .work, action :: _ => if action.earns then due? home past moment.after else none
  | _, _ => none

end Moment

/-- The creations and joins that have come back, the last one first. -/
def returns (home : Fin n) : List (Moment n k C ν) → List (Call n k C ν × Reply ν)
  | [] => []
  | moment :: past => (moment.returned? home past).toList ++ returns home past

/-- The creations and joins whose answer was settled, the last one first. -/
def earnings (home : Fin n) : List (Moment n k C ν) → List (Call n k C ν × Reply ν)
  | [] => []
  | moment :: past => (moment.earned? home past).toList ++ earnings home past

variable {home : Fin n} {past : List (Moment n k C ν)} {machine after : Machine n k C ν}
  {action : Action n k C ν} {rest : List (Action n k C ν)} {request : Call n k C ν}

/-- What a thread on a creation or a join can be about to do. -/
inductive CreateJoinStep (home : Fin n) :
    Call n k C ν → Action n k C ν → List (Action n k C ν) → Prop
  | way {request : Call n k C ν} {action first : Action n k C ν} {rest : List (Action n k C ν)}
      (gate : action.movesGate = true) (silent : (first :: rest).findSome? Action.answer? = none)
      (foreign : first.isOwn = false) (unmade : first.makes = false) :
      CreateJoinStep home request action (first :: rest)
  | decides {request : Call n k C ν} {parking : Option (Fin k)} {rest : List (Action n k C ν)}
      (silent : rest.findSome? Action.answer? = none) :
      CreateJoinStep home request (.schedule home parking) rest
  | enrolls {entry : C} {rest : List (Action n k C ν)}
      (asked : Errand home (.ask (.create home entry)) rest) :
      CreateJoinStep home (.create home entry) (.enroll home entry) rest
  | issues {entry : C} {rest : List (Action n k C ν)}
      (asked : Errand home (.ask (.create home entry)) rest) :
      CreateJoinStep home (.create home entry) (.issue home entry) rest
  | reaps {thread : ThreadId} {rest : List (Action n k C ν)}
      (asked : Errand home (.ask (.join home thread)) rest) :
      CreateJoinStep home (.join home thread) (.reap home thread) rest
  | tryReaps {thread : ThreadId} {rest : List (Action n k C ν)}
      (asked : Errand home (.ask (.tryJoin home thread)) rest) :
      CreateJoinStep home (.tryJoin home thread) (.tryReap home thread) rest
  | finishes {request : Call n k C ν} {answer : Reply ν} {rest : List (Action n k C ν)} :
      CreateJoinStep home request (.reopen home) (.reply answer :: rest)
  | replies {request : Call n k C ν} {answer : Reply ν} {host : Option (Fin n)} :
      CreateJoinStep home request (.reply answer) [.own host]

theorem Errand.silent {move : Move n k C ν} (asked : Errand home move rest) :
    rest.findSome? Action.answer? = none := by
  cases asked <;> rfl

theorem stage_late {me : ThreadId} {closed : Bool}
    (stage : Stage home me (some (.ask request)) closed (action :: rest))
    (late : request.late = true) (library : action.isOwn = false) :
    CreateJoinStep home request action rest := by
  generalize shape : action :: rest = todo at stage
  cases stage with
  | initial | own => cases shape; cases library
  | guarded asked doing way =>
      have silent := asked.silent
      cases doing with
      | create | join | tryJoin =>
          cases way with
          | close | closed => cases shape; exact .way rfl silent rfl rfl
          | timer | timerCloses => cases shape; exact .way rfl silent rfl rfl
          | timerSchedules => cases shape; exact .decides silent
          | through =>
              cases shape
              first
                | exact .enrolls asked
                | exact .reaps asked
                | exact .tryReaps asked
      | _ => cases late
  | piece asked doing =>
      have silent := asked.silent
      cases doing with
      | issue => cases shape; exact .issues asked
      | finishing => cases shape; exact .finishes
      | replying => cases asked <;> cases shape <;> exact .replies
      | polling => cases shape; exact .decides silent
      | polled => cases shape; exact .way rfl silent rfl rfl
      | _ => cases late

/-- Whoever settles an answer is on a creation or a join. -/
theorem stage_earning {me : ThreadId} {errand : Option (Move n k C ν)} {closed : Bool}
    (stage : Stage home me errand closed (action :: rest)) (earns : action.earns = true) :
    ∃ request, errand = some (.ask request) ∧ request.late = true ∧ action.movesGate = false ∧
      CreateJoinStep home request action rest := by
  generalize shape : action :: rest = todo at stage
  cases stage with
  | initial | own | begin | beginning | enter => cases shape; cases earns
  | guarded asked doing way =>
      cases way with
      | through =>
          cases doing with
          | join => cases shape; exact ⟨_, rfl, rfl, rfl, .reaps asked⟩
          | tryJoin => cases shape; exact ⟨_, rfl, rfl, rfl, .tryReaps asked⟩
          | _ => cases shape; cases earns
      | _ => cases shape; cases earns
  | piece asked doing =>
      cases doing with
      | issue => cases shape; exact ⟨_, rfl, rfl, rfl, .issues asked⟩
      | _ => cases shape; cases earns

theorem silent_append {pushed : List (Action n k C ν)}
    (strange : ∀ action ∈ pushed, action.returns = false)
    (silent : rest.findSome? Action.answer? = none) :
    (pushed ++ rest).findSome? Action.answer? = none := by
  rw [List.findSome?_append, silent, Option.or_none, List.findSome?_eq_none_iff]
  intro action member
  have strange := strange action member
  cases action with
  | reply => cases strange
  | _ => rfl

theorem Suspended.silent {me : ThreadId} {todo : List (Action n k C ν)}
    (suspended : Suspended home me (some (.ask request)) todo) (late : request.late = true) :
    todo.findSome? Action.answer? = none := by
  rcases suspended with ⟨absurd, -⟩ | ⟨parking, stage⟩
  · cases absurd
  · obtain ⟨-, move, same, resumes⟩ := stage_resumes stage
    cases same
    cases resumes with
    | entering asked doing =>
        have silent := asked.silent
        cases doing with
        | create | join | tryJoin => exact silent
        | _ => cases late
    | polled asked => exact asked.silent
    | yielded | drained | waking | exited => cases late

section late

variable {thread : ThreadId}

theorem late_eq_some : late? home thread past = some request ↔
    errand? home thread past = some (.ask request) ∧ request.late = true := by
  unfold late?
  split
  · rename_i other errand
    rw [errand]
    by_cases late : other.late = true
    · rw [if_pos late]
      constructor
      · intro same
        cases same
        exact ⟨rfl, late⟩
      · rintro ⟨same, -⟩
        cases same
        rfl
    · rw [if_neg late]
      constructor
      · intro same
        cases same
      · rintro ⟨same, asks⟩
        cases same
        exact absurd asks late
  · rename_i other
    constructor
    · intro same
      cases same
    · rintro ⟨same, -⟩
      exact absurd same (other request)

theorem late_work (machine : Machine n k C ν) (past : List (Moment n k C ν)) :
    late? home thread (⟨machine, .work⟩ :: past) = late? home thread past := by
  unfold late?
  rw [errand_work]

end late

theorem due_of_silent (silent : machine.todo.findSome? Action.answer? = none) :
    due? home past machine = none := by
  rw [due?, silent]
  cases late? home (machine.thread home) past <;> rfl

theorem due_of_idle (idle : late? home (machine.thread home) past = none) :
    due? home past machine = none := by
  rw [due?, idle]
  rfl

theorem due_of_late {answer : Reply ν}
    (errand : late? home (machine.thread home) past = some request)
    (answers : machine.todo.findSome? Action.answer? = some answer) :
    due? home past machine = some (request, answer) := by
  rw [due?, errand, answers]
  rfl

theorem due_of_suspended
    (suspended : Suspended home (machine.thread home) (errand? home (machine.thread home) past)
      machine.todo) : due? home past machine = none := by
  cases errand : late? home (machine.thread home) past with
  | none => exact due_of_idle errand
  | some request =>
      obtain ⟨asks, late⟩ := late_eq_some.mp errand
      exact due_of_silent ((asks ▸ suspended).silent late)

theorem unearned (todo : machine.todo = action :: rest) (idle : action.earns = false) :
    Moment.earned? home ⟨machine, .work⟩ past = none := by
  simp [Moment.earned?, todo, idle]

theorem earned_eq (todo : machine.todo = action :: rest) (earns : action.earns = true) :
    Moment.earned? home ⟨machine, .work⟩ past = due? home past machine.step := by
  simp only [Moment.earned?, todo, earns, if_true]
  rfl

theorem Move.unearned {move : Move n k C ν} (own : move ≠ .work) :
    Moment.earned? home ⟨machine, move⟩ past = none := by
  cases move with
  | work => exact absurd rfl own
  | _ => rfl

theorem Sound.due_own {move : Move n k C ν} (sound : Sound home past machine)
    (fits : move.Fits home machine) (own : move ≠ .work)
    (goes : (machine.make move).outcome = none) :
    due? home (⟨machine, move⟩ :: past) (machine.make move) = none := by
  obtain ⟨host, todo, said⟩ := sound.said fits own goes
  cases said with
  | think =>
      apply due_of_silent
      change machine.todo.findSome? Action.answer? = none
      rw [todo]
      rfl
  | @ask request =>
      by_cases late : request.late = true
      · apply due_of_silent
        change (request.actions ++ machine.todo).findSome? Action.answer? = none
        rw [todo]
        cases request with
        | create | join | tryJoin => rfl
        | _ => cases late
      · apply due_of_idle
        have errand : errand? home (machine.thread home) (⟨machine, .ask request⟩ :: past) =
            some (.ask request) := errand_of_enters ⟨machine, .ask request⟩ rfl
        change late? home (machine.thread home) _ = none
        rw [late?, errand]
        exact if_neg late
  | leave left =>
      apply due_of_silent
      rw [left]
      rfl

namespace Machine

theorem todo_of_enroll (before : Machine n k C ν) {entry : C}
    (idle : (before.runtime home).scheduler = none → before.active = none)
    (goes : (before.enroll home entry).outcome = none) :
    (before.enroll home entry).todo = .issue home entry :: before.todo := by
  simp only [enroll] at goes ⊢
  cases present : (before.runtime home).scheduler with
  | some scheduler => simp
  | none =>
      simp only [present, idle present, Option.isSome_none, Bool.false_eq_true, if_false] at goes ⊢
      exact congrArg (.issue home entry :: ·) (before.activate_spec goes).todo

/-- The gate is closed behind the work that a creation or a join comes back by. -/
theorem foreign_of_issue (before : Machine n k C ν) (entry : C)
    (goes : (before.issue home entry).outcome = none) :
    (before.issue home entry).inOwnCode = false := by
  simp only [issue] at goes ⊢
  cases present : (before.runtime home).scheduler with
  | none => simp [present, abort] at goes
  | some scheduler =>
      simp only
      split <;> rfl

theorem foreign_of_reap (before : Machine n k C ν) (thread : ThreadId)
    (goes : (before.tryReaping home thread).outcome = none) :
    (before.tryReaping home thread).inOwnCode = false := by
  simp only [tryReaping] at goes ⊢
  cases found : before.reap? home thread with
  | none => rfl
  | some taking =>
      obtain ⟨block, reaping⟩ := taking
      simp only [found] at goes ⊢
      cases value : block.value with
      | none => simp [value, abort] at goes
      | some value => rfl

theorem foreign_of_tryReap (before : Machine n k C ν) (thread : ThreadId)
    (goes : (before.reapOnce home thread).outcome = none) :
    (before.reapOnce home thread).inOwnCode = false := by
  simp only [reapOnce] at goes ⊢
  cases found : before.reap? home thread with
  | none => rfl
  | some taking =>
      obtain ⟨block, reaping⟩ := taking
      simp only [found] at goes ⊢
      cases value : block.value with
      | none => simp [value, abort] at goes
      | some value => rfl

end Machine

theorem returned_of_foreign (foreign : machine.step.inOwnCode = false) :
    Moment.returned? home ⟨machine, .work⟩ past = none := by
  apply if_neg
  rintro ⟨-, back⟩
  exact absurd (foreign.symm.trans back) (by decide)

/-- What a piece of work earns or leaves due is due after it, or returned by it. -/
def Balanced (home : Fin n) (past : List (Moment n k C ν)) (machine : Machine n k C ν) : Prop :=
  (Moment.earned? home ⟨machine, .work⟩ past).toList ++ (due? home past machine).toList =
    (due? home (⟨machine, .work⟩ :: past) machine.step).toList ++
      (Moment.returned? home ⟨machine, .work⟩ past).toList

theorem balanced_of_silent (todo : machine.todo = action :: rest) (idle : action.earns = false)
    (before : due? home past machine = none)
    (later : due? home (⟨machine, .work⟩ :: past) machine.step = none)
    (away : machine.step.inOwnCode = false) : Balanced home past machine := by
  rw [Balanced, unearned todo idle, before, later, returned_of_foreign away]

theorem Sound.balanced_deciding {parking : Option (Fin k)} (sound : Sound home past machine)
    (going : machine.outcome = none) (todo : machine.todo = .schedule home parking :: rest)
    (goes : machine.step.outcome = none) : Balanced home past machine := by
  have suspended := sound.suspended going todo goes
  have before : due? home past machine = none := by
    cases errand : late? home (machine.thread home) past with
    | none => exact due_of_idle errand
    | some request =>
        obtain ⟨asks, late⟩ := late_eq_some.mp errand
        cases stage_late (asks ▸ todo ▸ sound.stage) late rfl with
        | way gate => cases gate
        | decides silent => exact due_of_silent (todo ▸ silent)
  have later : due? home (⟨machine, .work⟩ :: past) machine.step = none :=
    due_of_suspended ((errand_work ..).symm ▸ suspended)
  refine balanced_of_silent todo rfl before later (eq_false_of_ne_true fun back => ?_)
  obtain ⟨host, others, own⟩ := Machine.own_of_inOwnCode back
  exact absurd (stage_own (own ▸ suspended.stage)).1 (by decide)

/-- A thread on another errand has nothing to do with what is due. -/
theorem balanced_of_idle (todo : machine.todo = action :: rest)
    (thread : machine.step.thread home = machine.thread home)
    (errand : late? home (machine.thread home) past = none) : Balanced home past machine := by
  have earned : Moment.earned? home ⟨machine, .work⟩ past = none := by
    cases earns : action.earns with
    | false => exact unearned todo earns
    | true => exact (earned_eq todo earns).trans (due_of_idle (thread ▸ errand))
  have returned : Moment.returned? home ⟨machine, .work⟩ past = none := by
    unfold Moment.returned?
    split
    · change (late? home (machine.thread home) past).map _ = none
      rw [errand]
      rfl
    · rfl
  have later : due? home (⟨machine, .work⟩ :: past) machine.step = none :=
    due_of_idle ((late_work ..).trans (thread ▸ errand))
  rw [Balanced, earned, returned, due_of_idle errand, later]

/-- What is earned is due at once, and the call is on its way back. -/
theorem balanced_of_earning (todo : machine.todo = action :: rest) (earns : action.earns = true)
    (silent : rest.findSome? Action.answer? = none) (away : machine.step.inOwnCode = false) :
    Balanced home past machine := by
  have before : due? home past machine = none := by
    apply due_of_silent
    rw [todo]
    cases action with
    | issue | reap | tryReap => exact silent
    | _ => cases earns
  have later : due? home (⟨machine, .work⟩ :: past) machine.step = due? home past machine.step := by
    rw [due?, late_work, due?]
  rw [Balanced, earned_eq todo earns, before, later, returned_of_foreign away]

theorem Sound.balanced_late (sound : Sound home past machine) (going : machine.outcome = none)
    (library : machine.inOwnCode = false) (goes : machine.step.outcome = none)
    (todo : machine.todo = action :: rest) (apart : ∀ parking, action ≠ .schedule home parking)
    (thread : machine.step.thread home = machine.thread home)
    (errand : late? home (machine.thread home) past = some request) :
    Balanced home past machine := by
  have foreign : action.isOwn = false := by simpa only [Machine.inOwnCode, todo] using library
  have step := Machine.step_eq going todo
  have now : late? home (machine.step.thread home) (⟨machine, .work⟩ :: past) = some request := by
    rw [late_work, thread, errand]
  obtain ⟨asks, late⟩ := late_eq_some.mp errand
  cases stage_late (asks ▸ todo ▸ sound.stage) late foreign with
  | decides => exact absurd rfl (apart _)
  | @way _ _ first others gate silent strange _ =>
      obtain ⟨pushed, left, unreturning⟩ :=
        (machine.withTodo (first :: others)).todo_of_movesGate gate
      rw [← step] at left
      have later : due? home (⟨machine, .work⟩ :: past) machine.step = none :=
        due_of_silent (left ▸ silent_append unreturning silent)
      have away : machine.step.inOwnCode = false :=
        step ▸ machine.away_of_movesGate gate strange
      cases action with
      | close | closed | reopen | reopened | timer =>
          exact balanced_of_silent todo rfl (due_of_silent (todo ▸ silent)) later away
      | _ => cases gate
  | @enrolls entry _ asked =>
      have left : machine.step.todo = .issue home entry :: rest := by
        rw [step] at goes ⊢
        exact (machine.withTodo rest).todo_of_enroll
          (fun absent => (sound.unpopulated absent).active) goes
      have before : due? home past machine = none :=
        due_of_silent (by rw [todo]; exact asked.silent)
      have later : due? home (⟨machine, .work⟩ :: past) machine.step = none :=
        due_of_silent (by rw [left]; exact asked.silent)
      exact balanced_of_silent todo rfl before later (Machine.inOwnCode_eq left)
  | issues asked =>
      refine balanced_of_earning todo rfl asked.silent ?_
      rw [step] at goes ⊢
      exact (machine.withTodo rest).foreign_of_issue _ goes
  | reaps asked =>
      refine balanced_of_earning todo rfl asked.silent ?_
      rw [step] at goes ⊢
      exact (machine.withTodo rest).foreign_of_reap _ goes
  | tryReaps asked =>
      refine balanced_of_earning todo rfl asked.silent ?_
      rw [step] at goes ⊢
      exact (machine.withTodo rest).foreign_of_tryReap _ goes
  | @finishes _ answer others =>
      have left : machine.step.todo = .reply answer :: others := by
        rw [step]
        exact ((machine.withTodo (.reply answer :: others)).reopenGate_eq sound.opening).2
      have before : due? home past machine = some (request, answer) :=
        due_of_late errand (by rw [todo]; rfl)
      have later : due? home (⟨machine, .work⟩ :: past) machine.step = some (request, answer) :=
        due_of_late now (by rw [left]; rfl)
      have away : machine.step.inOwnCode = false := Machine.inOwnCode_eq left
      rw [Balanced, unearned todo rfl, before, later, returned_of_foreign away]
      rfl
  | @replies _ answer host =>
      have before : due? home past machine = some (request, answer) :=
        due_of_late errand (by rw [todo]; rfl)
      have later : due? home (⟨machine, .work⟩ :: past) machine.step = none :=
        due_of_silent (by rw [step]; rfl)
      have returned : Moment.returned? home ⟨machine, .work⟩ past = some (request, answer) := by
        have back : machine.step.inOwnCode = true := by rw [step]; rfl
        have answered : machine.step.answer = answer := by rw [step]; rfl
        refine (if_pos ⟨library, back⟩).trans ?_
        change (late? home (machine.thread home) past).map (·, machine.step.answer) = _
        rw [errand, answered, Option.map_some]
      rw [Balanced, unearned todo rfl, before, later, returned]

theorem Sound.balanced (sound : Sound home past machine) (going : machine.outcome = none)
    (library : machine.inOwnCode = false) (goes : machine.step.outcome = none) :
    Balanced home past machine := by
  cases sound.next with
  | decides todo => exact sound.balanced_deciding going todo goes
  | works todo apart =>
      have thread := (sound.proceeds going todo (apart home) library goes).stays.thread
      cases errand : late? home (machine.thread home) past with
      | none => exact balanced_of_idle todo thread errand
      | some request =>
          exact sound.balanced_late going library goes todo (apart home) thread errand

/-- What creations and joins have earned has come back, but for what is due. -/
theorem Run.earnings_eq (run : Run home past machine) (going : machine.outcome = none) :
    earnings home past = (due? home past machine).toList ++ returns home past := by
  induction run with
  | start fresh code => rfl
  | @move past machine move run before fits ih =>
      have sound := run.sound before
      by_cases library : move = .work
      · subst library
        have balanced := sound.balanced before fits going
        rw [Balanced] at balanced
        rw [earnings, ih before, returns, ← List.append_assoc, balanced, List.append_assoc]
        rfl
      · have inside := fits.own library
        have undue : due? home past machine = none := by
          obtain ⟨host, rest, todo⟩ := Machine.own_of_inOwnCode inside
          obtain ⟨-, rfl, -⟩ := sound.own_todo todo
          exact due_of_silent (by rw [todo]; rfl)
        have unreturned : Moment.returned? home ⟨machine, move⟩ past = none := by
          apply if_neg
          rintro ⟨outside, -⟩
          exact absurd (inside.symm.trans outside) (by decide)
        rw [earnings, ih before, returns, Move.unearned library, unreturned, undue,
          sound.due_own fits library going]

/-- The running thread's call comes back with `answer` after some pieces of work,
between which nobody else runs. -/
structure Machine.ComesBack (home : Fin n) (machine : Machine n k C ν) (pieces : Nat)
    (answer : Reply ν) : Prop where
  allowed : machine.allows home (List.replicate pieces .work) = true
  back : (machine.play (List.replicate pieces .work)).inOwnCode = true
  thread : (machine.play (List.replicate pieces .work)).thread home = machine.thread home
  answered : (machine.play (List.replicate pieces .work)).answer = answer

namespace Machine.ComesBack

variable {answer : Reply ν} {pieces : Nat}

theorem of_own (inside : machine.inOwnCode = true) : ComesBack home machine 0 machine.answer :=
  ⟨rfl, inside, rfl, rfl⟩

theorem work (comes : machine.step.ComesBack home pieces answer) (going : machine.outcome = none)
    (library : machine.inOwnCode = false)
    (thread : machine.step.thread home = machine.thread home) :
    machine.ComesBack home (pieces + 1) answer := by
  refine ⟨?_, comes.back, comes.thread.trans thread, comes.answered⟩
  simp only [List.replicate_succ, Machine.allows, Bool.and_eq_true, Option.isNone_iff_eq_none,
    decide_eq_true_eq]
  exact ⟨⟨going, library⟩, comes.allowed⟩

theorem of_finishing (going : machine.outcome = none)
    (todo : machine.todo = .reopen home :: .reply answer :: rest)
    (opening : (machine.runtime home).gate.afterOpening = 0)
    (asked : Errand home (.ask request) rest) : machine.ComesBack home 2 answer := by
  obtain ⟨host, rfl⟩ : ∃ host, rest = [.own host] := by
    cases asked <;> exact ⟨_, rfl⟩
  have step := Machine.step_eq going todo
  have left : machine.step.todo = [.reply answer, .own host] := by
    rw [step]
    exact ((machine.withTodo [.reply answer, .own host]).reopenGate_eq opening).2
  have keeps : Machine.KeepsQueues home (machine.withTodo [.reply answer, .own host])
      machine.step := step ▸ Machine.perform_keepsQueues _ home rfl
  have going' : machine.step.outcome = none := by
    rw [step]
    change ((machine.withTodo _).reopenGate home).outcome = none
    unfold reopenGate
    split <;> exact going
  have library : machine.inOwnCode = false := Machine.inOwnCode_eq todo
  have library' : machine.step.inOwnCode = false := Machine.inOwnCode_eq left
  have step' := Machine.step_eq going' left
  have inside : machine.step.step.inOwnCode = true := by rw [step']; rfl
  have answered : machine.step.step.answer = answer := by rw [step']; rfl
  have thread : machine.step.step.thread home = machine.step.thread home := by rw [step']; rfl
  exact ((answered ▸ of_own inside).work going' library' thread).work going library keeps.current

end Machine.ComesBack

end UserThreads
