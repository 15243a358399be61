import UserThreads.Proofs.Handling

/-!
How calls on mutexes come back: own code goes on only by the reply to its call.
-/

namespace UserThreads

variable {n k : Nat} {C ν : Type}

/-- The pieces of work that move a gate. -/
def Action.movesGate : Action n k C ν → Bool
  | .close _ | .closed _ | .reopen _ | .reopened _ | .timer => true
  | _ => false

/-- The pieces of work that a gate lets in with the timer. -/
def Action.interrupts : Action n k C ν → Bool
  | .close _ | .closed _ | .reopened _ | .timer | .schedule _ none => true
  | _ => false

/-- The pieces of work that lead back to own code. -/
def Action.returns : Action n k C ν → Bool
  | .own _ | .reply _ => true
  | _ => false

theorem Action.foreign_of_returns {action : Action n k C ν} (strange : action.returns = false) :
    action.isOwn = false := by
  cases action with
  | own => cases strange
  | _ => rfl

variable {home : Fin n} {mutex : Fin k} {past : List (Moment n k C ν)}
  {machine : Machine n k C ν} {action : Action n k C ν} {rest : List (Action n k C ν)}

theorem Machine.interrupted (before : Machine n k C ν) (gate : action.movesGate = true) :
    ∃ pushed, (before.perform action).todo = pushed ++ before.todo ∧
      ∀ action ∈ pushed, action.interrupts = true := by
  have none : ∃ pushed : List (Action n k C ν), before.todo = pushed ++ before.todo ∧
      ∀ action ∈ pushed, action.interrupts = true := ⟨[], rfl, by simp⟩
  cases action with
  | close index =>
      simp only [perform, closeGate]
      split
      · exact ⟨_, rfl, by simp [Action.interrupts]⟩
      · exact none
  | reopen index =>
      simp only [perform, reopenGate]
      split
      · exact ⟨_, rfl, by simp [Action.interrupts]⟩
      · exact none
  | timer =>
      simp only [perform, enterTimer]
      split
      · exact none
      · exact ⟨_, rfl, by simp [Action.interrupts]⟩
  | closed | reopened => exact none
  | _ => cases gate

theorem Machine.todo_of_movesGate (before : Machine n k C ν) (gate : action.movesGate = true) :
    ∃ pushed, (before.perform action).todo = pushed ++ before.todo ∧
      ∀ action ∈ pushed, action.returns = false := by
  obtain ⟨pushed, left, interrupts⟩ := before.interrupted gate
  refine ⟨pushed, left, fun action member => ?_⟩
  have interrupts := interrupts action member
  cases action <;> first | rfl | cases interrupts

/-- The moves of a gate do not lead back to own code. -/
theorem Machine.away_of_movesGate {first : Action n k C ν} (before : Machine n k C ν)
    (gate : action.movesGate = true) (foreign : first.isOwn = false) :
    ((before.withTodo (first :: rest)).perform action).inOwnCode = false := by
  obtain ⟨pushed, left, strange⟩ := (before.withTodo (first :: rest)).todo_of_movesGate gate
  rw [inOwnCode, left]
  cases pushed with
  | nil => exact foreign
  | cons head tail => exact Action.foreign_of_returns (strange head List.mem_cons_self)

theorem Guarded.foreign {me : ThreadId} {move : Move n k C ν} {work : List (Action n k C ν)}
    (doing : Guarded home me move work) :
    ∃ first after, work = first :: after ∧ first.isOwn = false := by
  cases doing <;> exact ⟨_, _, rfl, rfl⟩

/-- A piece of work on the way to the answer of a call on a mutex. -/
theorem stage_returns {me : ThreadId} {request : Call n k C ν} {closed : Bool}
    (stage : Stage home me (some (.ask request)) closed (action :: rest))
    (on : request = .lock home mutex ∨ request = .destroy home mutex)
    (library : action.isOwn = false) (apart : ∀ parking, action ≠ .schedule home parking)
    (elsewhere : action.concerns mutex = false) :
    (∃ answer host, action = .reply answer ∧ rest = [.own host]) ∨
      (∃ operation status, action = .refuse home operation status ∧
        Errand home (.ask request) rest) ∨
      action.movesGate = true ∧ ∃ first after, rest = first :: after ∧ first.isOwn = false := by
  generalize shape : action :: rest = todo at stage
  cases stage with
  | initial | own => cases shape; cases library
  | guarded asked doing way =>
      obtain ⟨first, after, begins, foreign⟩ := doing.foreign
      cases way with
      | close | closed =>
          cases shape
          exact .inr (.inr ⟨rfl, first, _, by rw [begins]; rfl, foreign⟩)
      | timer | timerCloses => cases shape; exact .inr (.inr ⟨rfl, _, _, rfl, rfl⟩)
      | timerSchedules => cases shape; exact absurd rfl (apart _)
      | through =>
          rcases on with rfl | rfl
          · cases doing with
            | claimAgain => cases shape; exact absurd elsewhere (by simp [Action.concerns])
            | refuseLock => cases shape; exact .inr (.inl ⟨_, _, rfl, asked⟩)
          · cases doing with
            | wakeAll => cases shape; exact absurd elsewhere (by simp [Action.concerns])
            | drain => cases shape; exact absurd rfl (apart _)
            | refuseDestroy => cases shape; exact .inr (.inl ⟨_, _, rfl, asked⟩)
  | piece asked doing =>
      rcases on with rfl | rfl
      · cases doing with
        | finishing | waking | granting =>
            cases shape
            exact .inr (.inr ⟨rfl, _, _, rfl, rfl⟩)
        | replying =>
            cases asked <;> cases shape <;> exact .inl ⟨_, _, rfl, rfl⟩
        | parking => cases shape; exact absurd rfl (apart _)
        | lock | claim | woken | acquire =>
            cases shape
            exact absurd elsewhere (by simp [Action.concerns])
      · cases doing with
        | finishing | drained =>
            cases shape
            exact .inr (.inr ⟨rfl, _, _, rfl, rfl⟩)
        | replying =>
            cases asked <;> cases shape <;> exact .inl ⟨_, _, rfl, rfl⟩
        | destroy | drain | releaseDestroyed =>
            cases shape
            exact absurd elsewhere (by simp [Action.concerns])

/-- A call on a mutex comes back by its reply. -/
theorem Sound.returns {request : Call n k C ν} (sound : Sound home past machine)
    (going : machine.outcome = none) (library : machine.inOwnCode = false)
    (goes : machine.step.outcome = none)
    (errand : errand? home (machine.thread home) past = some (.ask request))
    (on : request = .lock home mutex ∨ request = .destroy home mutex)
    (back : machine.step.inOwnCode = true) :
    ∃ answer host, machine.todo = [.reply answer, .own host] ∧ machine.step.answer = answer := by
  cases sound.works going library goes mutex with
  | decides todo cells suspended =>
      obtain ⟨host, rest, own⟩ := Machine.own_of_inOwnCode back
      exact absurd (stage_own (own ▸ suspended.stage)).1 (by decide)
  | handles todo concerned errand serves asked handles becomes left stays =>
      cases handles <;> simp [Machine.inOwnCode, left, Action.isOwn] at back
  | aside todo apart elsewhere cells pending stays =>
      rename_i action rest
      have foreign : action.isOwn = false := by simpa only [Machine.inOwnCode, todo] using library
      have step := Machine.step_eq going todo
      rcases stage_returns (errand ▸ todo ▸ sound.stage) on foreign apart elsewhere with
        ⟨answer, host, rfl, rfl⟩ | ⟨operation, status, rfl, -⟩ | ⟨gate, first, after, rfl, own⟩
      · exact ⟨answer, host, todo, step ▸ rfl⟩
      · simp [step, Machine.perform, Machine.refuse, Machine.finishWith, Machine.inOwnCode,
          Machine.push, Action.isOwn] at back
      · rw [step, machine.away_of_movesGate gate own] at back
        cases back

theorem Errand.unanswered {move : Move n k C ν} (asked : Errand home move rest)
    (answer : Reply ν) : .reply answer ∉ rest := by
  cases asked <;> simp

/-- A call of lock or destroy is not answered while its thread is suspended. -/
theorem Suspended.unanswered {me : ThreadId} {request : Call n k C ν}
    {todo : List (Action n k C ν)} (suspended : Suspended home me (some (.ask request)) todo)
    (on : request = .lock home mutex ∨ request = .destroy home mutex) (answer : Reply ν) :
    .reply answer ∉ todo := by
  rcases suspended with ⟨absurd, -⟩ | ⟨parking, stage⟩
  · cases absurd
  · obtain ⟨-, move, same, resumes⟩ := stage_resumes stage
    cases same
    cases resumes with
    | entering asked doing =>
        rcases on with rfl | rfl <;> cases doing <;> simp [asked.unanswered answer]
    | waking asked | drained asked => simp [asked.unanswered answer]
    | yielded | polled | exited => rcases on with same | same <;> cases same

/-- The running thread works on something else than the mutex. -/
structure WorksAside (home : Fin n) (mutex : Fin k) (machine after : Machine n k C ν) : Prop where
  elsewhere : ∃ action rest, machine.todo = action :: rest ∧ action.concerns mutex = false
  cells : after.cells mutex = machine.cells mutex
  stays : Stays home machine after

/-- The running thread works on the mutex, and is about to be answered with success. -/
structure Completes (home : Fin n) (mutex : Fin k) (request : Call n k C ν)
    (machine after : Machine n k C ν) (action : Action n k C ν)
    (cells : Mutex (Context n k C ν) ν) (pushed : List (Action n k C ν)) : Prop where
  head : ∃ rest, machine.todo = action :: rest
  concerned : action.concerns mutex = true
  serves : Serves home mutex (machine.thread home) (.ask request) action
  handles : Handles home mutex (machine.thread home) (machine.cells mutex) action cells pushed
  becomes : after.cells mutex = cells
  stays : Stays home machine after
  succeeds : .reply .done ∈ pushed

/-- What holds when a call of lock or destroy is about to be answered with success:
the piece of work that earns the answer brings it about, and no other piece undoes it. -/
theorem Run.answered {request : Call n k C ν}
    (Earned : List (Moment n k C ν) → Machine n k C ν → Prop)
    (on : request = .lock home mutex ∨ request = .destroy home mutex)
    (aside : ∀ past machine, Run home past machine → machine.outcome = none →
      WorksAside home mutex machine machine.step → Earned past machine →
        Earned (⟨machine, .work⟩ :: past) machine.step)
    (completes : ∀ past machine action cells pushed, Run home past machine →
      machine.outcome = none →
        Completes home mutex request machine machine.step action cells pushed →
          Earned (⟨machine, .work⟩ :: past) machine.step)
    (run : Run home past machine) (going : machine.outcome = none)
    (errand : errand? home (machine.thread home) past = some (.ask request))
    (member : .reply .done ∈ machine.todo) : Earned past machine := by
  induction run with
  | start fresh code => cases errand
  | @move past machine move run before fits ih =>
      have sound := run.sound before
      by_cases library : move = .work
      · subst library
        change Earned _ machine.step
        change .reply .done ∈ machine.step.todo at member
        rw [errand_work] at errand
        cases sound.works before fits going mutex with
        | decides todo cells suspended =>
            exact absurd member ((errand ▸ suspended).unanswered on .done)
        | aside todo apart elsewhere cells pending stays =>
            rename_i action rest
            change errand? home (machine.step.thread home) past = _ at errand
            rw [stays.thread] at errand
            have works : WorksAside home mutex machine machine.step :=
              ⟨⟨_, _, todo, elsewhere⟩, cells, stays⟩
            refine aside _ _ run before works (ih before errand ?_)
            have foreign : action.isOwn = false := by
              simpa only [Move.Fits, Machine.inOwnCode, todo] using fits
            have step := Machine.step_eq before todo
            rcases stage_returns (errand ▸ todo ▸ sound.stage) on foreign apart elsewhere with
              ⟨answer, host, rfl, rfl⟩ | ⟨operation, status, rfl, asked⟩ | ⟨gate, -⟩
            · rw [step] at member
              cases List.mem_singleton.mp member
            · rw [step] at member
              simp [Machine.perform, Machine.refuse, Machine.finishWith, Machine.push,
                Machine.report, Machine.withTodo, asked.unanswered .done] at member
            · obtain ⟨pushed, left, strange⟩ := (machine.withTodo rest).todo_of_movesGate gate
              rw [step, left] at member
              rcases List.mem_append.mp member with pushed | earlier
              · exact absurd (strange _ pushed) (by simp [Action.returns])
              · exact todo ▸ List.mem_cons_of_mem _ earlier
        | handles todo concerned errand' serves asked handles becomes left stays =>
            change errand? home (machine.step.thread home) past = _ at errand
            rw [stays.thread] at errand
            cases Option.some.inj (errand'.symm.trans errand)
            rw [left] at member
            refine completes _ _ _ _ _ run before
              ⟨⟨_, todo⟩, concerned, serves, handles, becomes, stays, ?_⟩
            exact (List.mem_append.mp member).resolve_right (asked.unanswered .done)
      · obtain ⟨host, todo, said⟩ := sound.said fits library going
        cases said with
        | think =>
            change .reply .done ∈ machine.todo at member
            simp [todo] at member
        | @ask other =>
            have asked : errand? home (machine.thread home) (⟨machine, .ask other⟩ :: past) =
                some (.ask other) := errand_of_enters ⟨machine, .ask other⟩ rfl
            cases asked.symm.trans errand
            rcases on with rfl | rfl <;>
              simp [Machine.make, Machine.call, Machine.push, Call.actions, todo] at member
        | @leave value left =>
            have thread : (machine.make (.leave value)).thread home = machine.thread home := by
              rw [left]
              rfl
            have leaving : errand? home (machine.thread home) (⟨machine, .leave value⟩ :: past) =
                some (.leave value) := errand_of_enters ⟨machine, .leave value⟩ rfl
            rw [thread, leaving] at errand
            cases errand

end UserThreads
