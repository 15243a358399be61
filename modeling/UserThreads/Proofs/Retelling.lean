import UserThreads.Proofs.Frame
import UserThreads.Proofs.Run

/-!
What has been reported and answered so far has no influence on what a machine does next.
-/

namespace UserThreads

variable {n k : Nat} {C ν : Type}

/-- Work that answers the running thread. -/
def Action.answers : Action n k C ν → Bool
  | .reply _ | .readCurrent _ => true
  | _ => false

namespace Machine

/-- The machine with the events `older` reported before its own, and with another answer. -/
def retold (machine : Machine n k C ν) (older : List LogEvent) (answer : Reply ν) :
    Machine n k C ν :=
  { machine with log := machine.log ++ older, answer }

variable {machine : Machine n k C ν} {action : Action n k C ν} {older : List LogEvent}
  {answer : Reply ν}

@[simp] theorem runtime_retold : (machine.retold older answer).runtime = machine.runtime := rfl

@[simp] theorem cells_retold : (machine.retold older answer).cells = machine.cells := rfl

@[simp] theorem active_retold : (machine.retold older answer).active = machine.active := rfl

@[simp] theorem todo_retold : (machine.retold older answer).todo = machine.todo := rfl

theorem setMutex_retold (mutex : Fin k) (cells : Mutex (Context n k C ν) ν) :
    (machine.retold older answer).setMutex mutex cells =
      (machine.setMutex mutex cells).retold older answer := rfl

theorem report_retold (event : LogEvent) :
    (machine.retold older answer).report event = (machine.report event).retold older answer := rfl

section pieces

theorem branch_retold {condition : Prop} [Decidable condition]
    {one other one' other' : Machine n k C ν} (first : one' = one.retold older answer)
    (second : other' = other.retold older answer) :
    (if condition then one' else other') =
      (if condition then one else other).retold older answer := by
  split
  · exact first
  · exact second

theorem reportAll_retold (events : List LogEvent) :
    (machine.retold older answer).reportAll events =
      (machine.reportAll events).retold older answer :=
  congrArg (fun log => { machine with log, answer }) (List.append_assoc ..).symm

theorem abort_retold (fault : Fault) :
    (machine.retold older answer).abort fault = (machine.abort fault).retold older answer :=
  congrArg (fun after : Machine n k C ν => { after with outcome := some (.aborted fault) })
    (reportAll_retold _)

theorem activate_retold (index : Fin n) :
    (machine.retold older answer).activate index =
      (machine.activate index).retold older answer := by
  simp only [activate, runtime_retold]
  split
  · exact abort_retold _
  · rw [reportAll_retold]
    split
    · exact abort_retold _
    · rfl

theorem reap_retold (index : Fin n) (thread : ThreadId) :
    (machine.retold older answer).reap? index thread =
      (machine.reap? index thread).map fun reaped =>
        (reaped.1, reaped.2.retold older answer) := by
  simp only [reap?, runtime_retold]
  split
  · rfl
  · rw [Option.map_map]
    rfl

theorem blockCurrent_retold (index : Fin n) :
    (machine.retold older answer).blockCurrent index =
      (machine.blockCurrent index).retold older answer := by
  simp only [blockCurrent, runtime_retold]
  split <;> rfl

theorem wake_retold (index : Fin n) (block : Block (Context n k C ν) ν) :
    (machine.retold older answer).wake index block =
      (machine.wake index block).retold older answer := by
  simp only [wake, runtime_report, runtime_retold]
  split <;> rfl

theorem schedule_retold (index : Fin n) (parking : Option (Fin k)) :
    (machine.retold older answer).schedule index parking =
      (machine.schedule index parking).retold older answer := by
  have parked (waiting : Option (WaitQueue (Context n k C ν) ν)) :
      (machine.retold older answer).setWaiters parking waiting =
        (machine.setWaiters parking waiting).retold older answer := by
    cases parking <;> cases waiting <;> rfl
  have saved (scheduler : Scheduler (Context n k C ν) ν) :
      (machine.retold older answer).save scheduler = machine.save scheduler := rfl
  have waiters : (machine.retold older answer).waiters? parking = machine.waiters? parking := rfl
  simp only [schedule, runtime_retold, saved, waiters]
  split
  · rfl
  · split
    · exact abort_retold _
    · rw [parked, reportAll_retold]
      split
      · rfl
      · split
        · exact abort_retold _
        · exact branch_retold rfl rfl

/-- Work that does not answer leaves the answer as it is, and goes by neither it nor the log. -/
theorem perform_retold (silent : action.answers = false) :
    (machine.retold older answer).perform action =
      (machine.perform action).retold older answer := by
  cases action with
  | reply | readCurrent => cases silent
  | own | closed | reopened | resumed | refuseUnlock | refuse | countReady | countCompleted
  | acquire | deactivate | releaseDestroyed => rfl
  | enter | woken | dropRuntime => exact branch_retold rfl rfl
  | lock | destroy | unlock => exact branch_retold (branch_retold rfl rfl) rfl
  | schedule index parking => exact schedule_retold index parking
  | enroll index entry =>
      exact branch_retold rfl (branch_retold rfl
        (congrArg (push · [.issue index entry]) (activate_retold index)))
  | close | reopen | timer | begin | issue | initMutex | claim | drain | finish =>
      simp only [perform, closeGate, reopenGate, enterTimer, begin, issue, finish, initMutex, claim,
        drain, runtime_retold, cells_retold, active_retold]
      repeat' split
      all_goals rfl
  | claimAgain index mutex me =>
      simp only [perform, claimAgain, cells_retold]
      split
      · rfl
      · rw [setMutex_retold, report_retold, blockCurrent_retold]
        rfl
  | reap index thread | tryReap index thread =>
      simp only [perform, tryReaping, reapOnce, reap_retold]
      cases machine.reap? index thread with
      | none => rfl
      | some reaped =>
          dsimp only [Option.map_some]
          split <;> rfl
  | handOn index mutex | wakeAll index mutex =>
      simp only [perform, handOn, wakeAll, popWaiter, cells_retold, setMutex_retold]
      cases (machine.cells mutex).waiters.pop with | mk first waiters
      cases first with
      | none => rfl
      | some waiter =>
          dsimp only
          rw [wake_retold]
          rfl
  | discard index =>
      by_cases home : (machine.runtime index).current = .main <;>
        · simp only [perform, discard, runtime_retold, home, if_true, if_false]
          rfl
  | dropMutex mutex =>
      cases parked : (machine.cells mutex).waiters.isEmpty <;>
        · simp only [perform, dropMutex, cells_retold, parked]
          rfl

end pieces

/-- A move gives a new answer, or leaves the one that there was. -/
theorem make_retold (machine : Machine n k C ν) (move : Move n k C ν) :
    ∃ given : Option (Reply ν), ∀ older answer, (machine.retold older answer).make move =
      (machine.make move).retold older (given.getD answer) := by
  cases move with
  | think | ask => exact ⟨none, fun _ _ => rfl⟩
  | leave value =>
      refine ⟨none, fun older answer => ?_⟩
      simp only [make, leave, todo_retold]
      split <;> rfl
  | panic =>
      refine ⟨none, fun older answer => ?_⟩
      simp only [make, panic, todo_retold, runtime_retold]
      split
      · exact abort_retold _
      · exact abort_retold _
      · rfl
  | work =>
      cases going : machine.outcome with
      | some =>
          refine ⟨none, fun older answer => ?_⟩
          simp only [make, step, retold, going]
          rfl
      | none =>
          cases todo : machine.todo with
          | nil =>
              refine ⟨none, fun older answer => ?_⟩
              simp only [make, step, retold, going, todo]
              rfl
          | cons action rest =>
              have performs (older : List LogEvent) (answer : Reply ν) :
                  (machine.retold older answer).step =
                    ((machine.withTodo rest).retold older answer).perform action :=
                step_eq going todo
              simp only [make, performs, step_eq going todo]
              cases action with
              | reply given => exact ⟨some given, fun _ _ => rfl⟩
              | readCurrent index =>
                  exact ⟨some (.id (machine.runtime index).current), fun _ _ => rfl⟩
              | _ => exact ⟨none, fun _ _ => perform_retold rfl⟩

theorem play_retold (machine : Machine n k C ν) (moves : List (Move n k C ν)) :
    ∃ given : Option (Reply ν), ∀ older answer, (machine.retold older answer).play moves =
      (machine.play moves).retold older (given.getD answer) := by
  induction moves generalizing machine with
  | nil => exact ⟨none, fun _ _ => rfl⟩
  | cons move moves ih =>
      obtain ⟨first, makes⟩ := machine.make_retold move
      obtain ⟨later, plays⟩ := ih (machine.make move)
      refine ⟨later.or first, fun older answer => ?_⟩
      change ((machine.retold older answer).make move).play moves = _
      rw [makes, plays, Option.getD_or]
      rfl

/-- The same moves do, report and answer the same on both machines. What was reported and
answered before them may differ. -/
def Alike (machine other : Machine n k C ν) : Prop :=
  ∀ moves, ∃ (told : List LogEvent) (given : Option (Reply ν)),
    (machine.play moves).log = told ++ machine.log ∧
      (machine.play moves).answer = given.getD machine.answer ∧
        other.play moves = { machine.play moves with
          log := told ++ other.log, answer := given.getD other.answer }

theorem alike (machine : Machine n k C ν) (log : List LogEvent) (answer : Reply ν) :
    machine.Alike { machine with log, answer } := by
  intro moves
  obtain ⟨given, retells⟩ := Machine.play_retold { machine with log := [] } moves
  have replays (log : List LogEvent) (answer : Reply ν) :
      Machine.play { machine with log, answer } moves =
        (Machine.play { machine with log := [] } moves).retold log (given.getD answer) :=
    retells log answer
  have same : machine.play moves =
      (Machine.play { machine with log := [] } moves).retold machine.log
        (given.getD machine.answer) := replays machine.log machine.answer
  refine ⟨_, given, congrArg Machine.log same, congrArg Machine.answer same, ?_⟩
  rw [replays, same]
  rfl

end Machine

end UserThreads
