import UserThreads.Proofs.Driving
import UserThreads.Proofs.Recast

/-!
The creation of a thread, from the closing of the gate to the answer, on a machine with any
number of runtimes.
-/

namespace UserThreads

variable {n k : Nat} {C ν : Type} {machine : Machine n k C ν} {index : Fin n} {entry : C}
  {rest : List (Action n k C ν)}

namespace Machine

/-- The machine once the gate of the runtime `index` has been opened. -/
def opened (machine : Machine n k C ν) (index : Fin n) : Machine n k C ν :=
  machine.setGate index (machine.runtime index).gate.reopen.1

theorem runtime_opened (machine : Machine n k C ν) (index other : Fin n) :
    (machine.opened index).runtime other = if index = other then
        { machine.runtime index with gate := (machine.runtime index).gate.reopen.1 }
      else machine.runtime other := machine.runtime_setRuntime index other _

theorem runtime_setGate_self (machine : Machine n k C ν) (index : Fin n) (gate : Gate) :
    (machine.setGate index gate).runtime index = { machine.runtime index with gate } :=
  machine.runtime_setRuntime_self index _

theorem opened_setGate (machine : Machine n k C ν) (index : Fin n) (gate : Gate) :
    (machine.setGate index gate).opened index = machine.setGate index gate.reopen.1 := by
  rw [opened, runtime_setGate_self]
  exact machine.setGate_setGate index _ _

section gates

theorem step_withTodo (machine : Machine n k C ν) (going : machine.outcome = none)
    (action : Action n k C ν) (rest : List (Action n k C ν)) :
    (machine.withTodo (action :: rest)).step = (machine.withTodo rest).perform action :=
  step_eq going rfl

theorem step_close (going : machine.outcome = none) (todo : machine.todo = .close index :: rest)
    (silent : (machine.runtime index).gate.close.2 = false) :
    machine.step = (machine.withTodo rest).setGate index (machine.runtime index).gate.close.1 :=
  (step_eq going todo).trans (closeGate_silent _ silent)

theorem step_reopen (going : machine.outcome = none) (todo : machine.todo = .reopen index :: rest)
    (quiet : (machine.runtime index).gate.afterOpening = 0) :
    machine.step = (machine.withTodo rest).opened index :=
  (step_eq going todo).trans (reopenGate_quiet _ quiet)

/-- On the way out of a call the gate is opened and the answer is given. -/
theorem step_out {answer : Reply ν} (going : machine.outcome = none)
    (todo : machine.todo = .reopen index :: .reply answer :: rest)
    (quiet : (machine.runtime index).gate.afterOpening = 0) :
    machine.step.step = { (machine.withTodo rest).opened index with answer } := by
  rw [step_reopen going todo quiet]
  exact ((machine.withTodo rest).opened index).step_withTodo going (.reply answer) rest

end gates

section enrolling

theorem enroll_enrolled (machine : Machine n k C ν)
    (present : (machine.runtime index).scheduler.isSome = true) (entry : C) :
    machine.enroll index entry = machine.push [.issue index entry] := if_pos present

theorem enroll_busy (machine : Machine n k C ν)
    (absent : (machine.runtime index).scheduler = none) (driven : machine.active.isSome = true)
    (entry : C) : machine.enroll index entry =
      (machine.report .otherRuntimeActive).finishWith index
        (.failed ⟨Failure.busy, .otherRuntimeActive⟩) := by
  simp only [enroll, absent, driven]
  rfl

theorem enroll_idle (machine : Machine n k C ν)
    (absent : (machine.runtime index).scheduler = none) (idle : machine.active = none)
    (entry : C) :
    machine.enroll index entry = (machine.activate index).push [.issue index entry] := by
  simp only [enroll, absent, idle]
  rfl

theorem issue_full (machine : Machine n k C ν) {scheduler : Scheduler (Context n k C ν) ν}
    (present : (machine.runtime index).scheduler = some scheduler)
    (full : (machine.runtime index).config.maxThreads ≤ scheduler.nextId) (entry : C) :
    machine.issue index entry =
      (machine.report (.idsExhausted (machine.runtime index).config.maxThreads)).finishWith index
        (.failed ⟨Failure.tryAgain,
          .idsExhausted (machine.runtime index).config.maxThreads⟩) := by
  simp only [issue, present, Scheduler.issueId, if_pos full]

def newcomer (machine : Machine n k C ν) (index : Fin n) (entry : C) (id : ThreadId) :
    Block (Context n k C ν) ν :=
  { Block.new (machine.runtime index).config.stackSize ⟨[.begin], entry⟩ with id }

theorem issue_room (machine : Machine n k C ν) {scheduler : Scheduler (Context n k C ν) ν}
    (present : (machine.runtime index).scheduler = some scheduler)
    (room : ¬(machine.runtime index).config.maxThreads ≤ scheduler.nextId) (entry : C) :
    machine.issue index entry =
      ((machine.setScheduler index
        (Scheduler.makeReady { scheduler with nextId := scheduler.nextId + 1 }
          (machine.newcomer index entry ⟨scheduler.nextId⟩))).report
            (.threadCreated ⟨scheduler.nextId⟩)).finishWith index (.id ⟨scheduler.nextId⟩) := by
  simp only [issue, present, Scheduler.issueId, if_neg room]
  rfl

end enrolling

section runs

variable {scheduler : Scheduler (Context n k C ν) ν}

theorem create_busy (going : machine.outcome = none)
    (todo : machine.todo = .enroll index entry :: rest)
    (quiet : (machine.runtime index).gate.afterOpening = 0)
    (absent : (machine.runtime index).scheduler = none)
    (driven : machine.active.isSome = true) :
    machine.play (List.replicate 3 .work) = { (machine.withTodo rest).opened index with
      answer := .failed ⟨Failure.busy, .otherRuntimeActive⟩
      log := .otherRuntimeActive :: machine.log } := by
  change machine.step.step.step = _
  rw [(step_eq going todo).trans ((machine.withTodo rest).enroll_busy absent driven entry)]
  refine (step_out ?_ rfl ?_).trans rfl
  · exact going
  · exact quiet

theorem issue_fails (going : machine.outcome = none)
    (todo : machine.todo = .issue index entry :: rest)
    (quiet : (machine.runtime index).gate.afterOpening = 0)
    (present : (machine.runtime index).scheduler = some scheduler)
    (full : (machine.runtime index).config.maxThreads ≤ scheduler.nextId) :
    machine.play (List.replicate 3 .work) = { (machine.withTodo rest).opened index with
      answer := .failed ⟨Failure.tryAgain,
        .idsExhausted (machine.runtime index).config.maxThreads⟩
      log := .idsExhausted (machine.runtime index).config.maxThreads :: machine.log } := by
  change machine.step.step.step = _
  rw [(step_eq going todo).trans ((machine.withTodo rest).issue_full present full entry)]
  refine (step_out ?_ rfl ?_).trans rfl
  · exact going
  · exact quiet

theorem issue_makes (going : machine.outcome = none)
    (todo : machine.todo = .issue index entry :: rest)
    (quiet : (machine.runtime index).gate.afterOpening = 0)
    (present : (machine.runtime index).scheduler = some scheduler)
    (room : ¬(machine.runtime index).config.maxThreads ≤ scheduler.nextId) :
    machine.play (List.replicate 3 .work) =
      { ((machine.withTodo rest).setScheduler index
          (Scheduler.makeReady { scheduler with nextId := scheduler.nextId + 1 }
            (machine.newcomer index entry ⟨scheduler.nextId⟩))).opened index with
        answer := .id ⟨scheduler.nextId⟩
        log := .threadCreated ⟨scheduler.nextId⟩ :: machine.log } := by
  change machine.step.step.step = _
  rw [(step_eq going todo).trans ((machine.withTodo rest).issue_room present room entry)]
  refine (step_out ?_ rfl ?_).trans rfl
  · exact going
  · change ((setScheduler _ index _).runtime index).gate.afterOpening = 0
    rw [runtime_setScheduler]
    exact quiet

theorem step_enrolled (going : machine.outcome = none)
    (todo : machine.todo = .enroll index entry :: rest)
    (present : (machine.runtime index).scheduler = some scheduler) :
    machine.step = machine.withTodo (.issue index entry :: rest) := by
  have enrolled : (machine.runtime index).scheduler.isSome = true := by rw [present]; rfl
  exact (step_eq going todo).trans ((machine.withTodo rest).enroll_enrolled enrolled entry)

/-- The runtime is activated, or the process ends because its gate cannot be started. -/
theorem step_activates (machine : Machine n k C ν) (going : machine.outcome = none)
    (todo : machine.todo = .enroll index entry :: rest)
    (absent : (machine.runtime index).scheduler = none) (idle : machine.active = none) :
    match (machine.runtime index).gate.start (machine.runtime index).config.timerInterval with
    | .ok gate => ∃ log, machine.step =
        { (machine.withTodo rest).activated index gate with
          todo := .issue index entry :: rest, log }
    | .error failure => machine.step.outcome = some (.aborted (.gate failure)) := by
  have activates := (machine.withTodo rest).activate_eq index
  rw [runtime_withTodo] at activates
  rw [(step_eq going todo).trans ((machine.withTodo rest).enroll_idle absent idle entry)]
  cases starts : (machine.runtime index).gate.start
      (machine.runtime index).config.timerInterval with
  | error failure =>
      rw [starts] at activates
      obtain ⟨log, activates⟩ := activates
      rw [activates]
      rfl
  | ok gate =>
      rw [starts] at activates
      obtain ⟨log, activates⟩ := activates
      exact ⟨log, congrArg (push · _) activates⟩

end runs

end Machine

end UserThreads
