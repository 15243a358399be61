import UserThreads.Proofs.Unlocking

/-!
Conservation of threads: at every point of a run each thread that was ever made
is in one place, and its status suits the place. The calls that count threads
come back with the sizes of these places.
-/

namespace UserThreads

variable {n k : Nat} {C ν : Type}

/-- The calls that count threads, with the threads that they count. -/
inductive ReportsSize (home : Fin n) (scheduler : Scheduler (Context n k C ν) ν) :
    Call n k C ν → List (Block (Context n k C ν) ν) → Prop
  | ready : ReportsSize home scheduler (.numReady home) scheduler.ready.elements
  | completed : ReportsSize home scheduler (.numCompleted home) scheduler.completed.elements

/-- No thread of a runtime is lost or held twice, and the calls that count threads and the
mutexes report the lengths of the queues. -/
structure Conserved (home : Fin n) (past : List (Moment n k C ν)) (machine : Machine n k C ν)
    (scheduler : Scheduler (Context n k C ν) ν) : Prop where
  threads : (accounted (reaped past) machine scheduler).Perm (List.range scheduler.nextId.toNat)
  current : scheduler.current.id = machine.thread home
  running : machine.inOwnCode = true → scheduler.current.status = .ready
  ready : ∀ block ∈ scheduler.ready.elements, block.status = .ready ∧ block.value = none
  completed : ∀ block ∈ scheduler.completed.elements, block.status = .completed ∧
    block.value = exitValue? home block.id past ∧ block.value.isSome = true
  parked : ∀ mutex, ∀ block ∈ machine.parkedOn mutex, block.status = .blocked
  /-- Wherever a call that counts threads has just come back, its answer is their number. -/
  reported : ∀ moment older answer request threads, past = moment :: older →
    moment.Answers answer → errand? home (moment.thread home) older = some (.ask request) →
      ReportsSize home scheduler request threads → answer = .count threads.length
  /-- Such a call does come back, and changes nothing, when the timer does not come in first. -/
  reports : machine.inOwnCode = true → (machine.runtime home).gate.close.2 = false →
    ∀ request threads, ReportsSize home scheduler request threads →
      machine.play (Move.calling request 4) =
        { machine.passed home with answer := .count threads.length }
  numWaiters : ∀ mutex : Fin k, (machine.cells mutex).waiters.length =
    (machine.parkedOn mutex).length

variable {home : Fin n} {past : List (Moment n k C ν)} {machine : Machine n k C ν}
  {scheduler : Scheduler (Context n k C ν) ν} {request : Call n k C ν}
  {threads : List (Block (Context n k C ν) ν)} {action : Action n k C ν}
  {rest : List (Action n k C ν)} {answer : Reply ν}

/-- The piece of work that counts the threads. -/
inductive SizePiece (home : Fin n) : Call n k C ν → Action n k C ν → Prop
  | ready : SizePiece home (.numReady home) (.countReady home)
  | completed : SizePiece home (.numCompleted home) (.countCompleted home)

theorem ReportsSize.piece (reports : ReportsSize home scheduler request threads) :
    ∃ action, SizePiece home request action ∧ request.actions = [.close home, action] := by
  cases reports
  · exact ⟨_, .ready, rfl⟩
  · exact ⟨_, .completed, rfl⟩

theorem SizePiece.perform (piece : SizePiece home request action)
    (reports : ReportsSize home scheduler request threads)
    (present : (machine.runtime home).scheduler = some scheduler) :
    machine.perform action = machine.finishWith home (.count threads.length) := by
  cases piece <;> cases reports <;>
    simp only [Machine.perform, Runtime.numReady, Runtime.numCompleted, present] <;> rfl

/-- What a thread that has asked for a number can be about to do. -/
inductive ReportStep (home : Fin n) (request : Call n k C ν) :
    Action n k C ν → List (Action n k C ν) → Prop
  | moves {action first : Action n k C ν} {rest : List (Action n k C ν)}
      (gate : action.movesGate = true) (foreign : first.isOwn = false) :
      ReportStep home request action (first :: rest)
  | decides {parking : Option (Fin k)} {rest : List (Action n k C ν)} :
      ReportStep home request (.schedule home parking) rest
  | counts {action : Action n k C ν} {host : Option (Fin n)}
      (piece : SizePiece home request action) : ReportStep home request action [.own host]
  | replies {answer : Reply ν} {host : Option (Fin n)} :
      ReportStep home request (.reply answer) [.own host]

theorem stage_reportStep {me : ThreadId} {closed : Bool}
    (stage : Stage home me (some (.ask request)) closed (action :: rest))
    (reports : ReportsSize home scheduler request threads) (library : action.isOwn = false) :
    ReportStep home request action rest := by
  generalize shape : action :: rest = todo at stage
  cases stage with
  | initial | own => cases shape; cases library
  | guarded asked doing way =>
      obtain ⟨first, after, rfl, foreign⟩ := doing.foreign
      cases way with
      | close | closed => cases shape; exact .moves rfl foreign
      | timer | timerCloses => cases shape; exact .moves rfl rfl
      | timerSchedules => cases shape; exact .decides
      | through =>
          cases reports <;> cases doing <;> cases asked <;> cases shape
          · exact .counts .ready
          · exact .counts .ready
          · exact .counts .completed
          · exact .counts .completed
  | piece asked doing =>
      cases doing with
      | finishing => cases shape; exact .moves rfl rfl
      | replying => cases asked <;> cases shape <;> exact .replies
      | _ => cases reports

/-- The answer that a thread which has asked for a number is about to get is the right one. -/
def ReportDue (home : Fin n) (past : List (Moment n k C ν)) (machine : Machine n k C ν) : Prop :=
  ∀ scheduler request threads answer, (machine.runtime home).scheduler = some scheduler →
    errand? home (machine.thread home) past = some (.ask request) →
      ReportsSize home scheduler request threads → .reply answer ∈ machine.todo →
        answer = .count threads.length

namespace Sound

/-- On a call that counts threads only decisions change the scheduler. -/
theorem reportStep (sound : Sound home past machine) (going : machine.outcome = none)
    (todo : machine.todo = action :: rest) (library : machine.inOwnCode = false)
    (asks : errand? home (machine.thread home) past = some (.ask request))
    (reports : ReportsSize home scheduler request threads) :
    ReportStep home request action rest ∧ ((∀ parking, action ≠ .schedule home parking) →
      (machine.step.runtime home).scheduler = (machine.runtime home).scheduler) := by
  have foreign : action.isOwn = false := by simpa only [Machine.inOwnCode, todo] using library
  have doing := stage_reportStep (asks ▸ todo ▸ sound.stage) reports foreign
  refine ⟨doing, fun apart => ?_⟩
  have keeps : action.keepsQueues = true := by
    cases doing with
    | moves gate => cases action <;> first | rfl | cases gate
    | decides => exact absurd rfl (apart _)
    | counts piece => cases piece <;> rfl
    | replies => rfl
  rw [Machine.step_eq going todo]
  exact ((machine.withTodo rest).perform_keepsQueues home keeps).scheduler

/-- Whoever is chosen by a decision has not got an answer yet. -/
theorem reportDue_decision {parking : Option (Fin k)} (sound : Sound home past machine)
    (going : machine.outcome = none) (todo : machine.todo = .schedule home parking :: rest)
    (goes : machine.step.outcome = none) : ReportDue home past machine.step := by
  intro scheduler request threads answer _ asks reports due
  rcases sound.suspended going todo goes with ⟨idle, -⟩ | ⟨parking, stage⟩
  · cases asks.symm.trans idle
  · obtain ⟨-, move, same, resumes⟩ := stage_resumes stage
    cases asks.symm.trans same
    generalize machine.step.todo = left at due resumes
    cases reports <;> cases resumes with
    | entering asked doing =>
        cases doing
        cases asked <;> simp at due

theorem reportDue_work (sound : Sound home past machine) (going : machine.outcome = none)
    (library : machine.inOwnCode = false) (goes : machine.step.outcome = none)
    (settled : ReportDue home past machine) : ReportDue home past machine.step := by
  cases sound.next with
  | decides todo => exact sound.reportDue_decision going todo goes
  | @works action rest todo apart =>
      intro scheduler request threads answer present asks reports due
      rw [(sound.proceeds going todo (apart home) library goes).stays.thread] at asks
      obtain ⟨doing, keeps⟩ := sound.reportStep going todo library asks reports
      rw [keeps (apart home)] at present
      rw [Machine.step_eq going todo] at due
      cases doing with
      | @moves _ first rest gate =>
          obtain ⟨pushed, left, interrupts⟩ := (machine.withTodo (first :: rest)).interrupted gate
          rw [left] at due
          rcases List.mem_append.mp due with member | member
          · cases interrupts _ member
          · exact settled _ _ _ _ present asks reports (todo ▸ List.mem_cons_of_mem _ member)
      | decides => exact absurd rfl (apart home _)
      | @counts _ host piece =>
          have present : ((machine.withTodo [.own host]).runtime home).scheduler =
              some scheduler := present
          rw [piece.perform reports present] at due
          simpa [Machine.finishWith, Machine.push, Machine.withTodo] using due
      | replies =>
          exact absurd due (by simp [Machine.perform, Machine.withTodo])

theorem reportDue_said {move : Move n k C ν} (sound : Sound home past machine)
    (fits : move.Fits home machine) (own : move ≠ .work)
    (goes : (machine.make move).outcome = none) :
    ReportDue home (⟨machine, move⟩ :: past) (machine.make move) := by
  intro scheduler request threads answer present asks reports due
  obtain ⟨host, todo, said⟩ := sound.said fits own goes
  cases said with
  | think => simp [Machine.make, todo] at due
  | @ask asked =>
      have asking : errand? home (machine.thread home) (⟨machine, .ask asked⟩ :: past) =
          some (.ask asked) := errand_of_enters ⟨machine, .ask asked⟩ rfl
      cases asks.symm.trans asking
      cases reports <;> simp [Machine.make, Machine.call, Call.actions, todo] at due
  | leave left => simp [left, Machine.push, Machine.withTodo] at due

end Sound

theorem Run.reportDue (run : Run home past machine) (going : machine.outcome = none) :
    ReportDue home past machine := by
  induction run with
  | start => exact fun _ _ _ _ _ asks => nomatch asks
  | @move past machine move run before fits ih =>
      have sound := run.sound before
      by_cases library : move = .work
      · subst library
        intro scheduler request threads answer present asks reports due
        rw [errand_work] at asks
        exact sound.reportDue_work before fits going (ih before) _ _ _ _ present asks reports due
      · exact sound.reportDue_said fits library going

/-- What a call that counts threads comes back with. -/
theorem Run.reported {moment : Moment n k C ν} {older : List (Moment n k C ν)}
    (run : Run home (moment :: older) machine) (going : machine.outcome = none)
    (present : (machine.runtime home).scheduler = some scheduler)
    (answers : moment.Answers answer)
    (asks : errand? home (moment.thread home) older = some (.ask request))
    (reports : ReportsSize home scheduler request threads) : answer = .count threads.length := by
  cases run with
  | @move _ before move run goes fits =>
      obtain ⟨library, back, same⟩ := answers
      have works : move = .work := Classical.byContradiction fun own => by
        cases library.symm.trans (fits.own own)
      subst works
      have sound := run.sound goes
      cases sound.next with
      | decides todo =>
          obtain ⟨host, rest, own⟩ := Machine.own_of_inOwnCode back
          have suspended := sound.suspended goes todo going
          have stage : Stage home _ _ true (Action.own host :: rest) := own ▸ suspended.stage
          cases (stage_own stage).1
      | @works action rest todo apart =>
          obtain ⟨doing, keeps⟩ := sound.reportStep goes todo library asks reports
          have step := Machine.step_eq goes todo
          have present : (before.runtime home).scheduler = some scheduler :=
            (keeps (apart home)).symm.trans present
          change before.step.inOwnCode = true at back
          change before.step.answer = answer at same
          cases doing with
          | moves gate foreign =>
              rw [step, before.away_of_movesGate gate foreign] at back
              cases back
          | decides => exact absurd rfl (apart home _)
          | @counts _ host piece =>
              have present : ((before.withTodo [.own host]).runtime home).scheduler =
                some scheduler := present
              rw [step, piece.perform reports present] at back
              cases back
          | @replies settled host =>
              rw [step] at same
              cases same
              exact run.reportDue goes _ _ _ _ present asks reports (todo ▸ List.mem_cons_self)

/-- Once a runtime has threads, a run conserves them, unless some are dropped with a mutex. -/
theorem Run.conserves_threads (run : Run home past machine) (going : machine.outcome = none)
    (kept : ∀ moment ∈ past, moment.dropped = [])
    (present : (machine.runtime home).scheduler = some scheduler) :
    Conserved home past machine scheduler := by
  have sound := run.sound going
  have populated := sound.populated scheduler present
  constructor
  case threads => exact gone_eq_reaped kept ▸ populated.accounts
  case current => exact populated.current
  case running =>
    intro inside
    obtain ⟨host, rest, todo⟩ := Machine.own_of_inOwnCode inside
    exact (populated.standing.ready_of todo (by simp)).1
  case ready =>
    intro block member
    have inLine := populated.ready block member
    exact ⟨inLine.status, inLine.value⟩
  case completed =>
    intro block member
    have ended := populated.completed block member
    exact ⟨ended.status, ended.value, ended.ended⟩
  case parked => exact fun mutex block member => (populated.parked mutex block member).status
  case reported =>
    intro moment older answer request threads split answers asks reports
    subst split
    exact run.reported going present answers asks reports
  case reports =>
    intro _ silent request threads reports
    obtain ⟨action, piece, actions⟩ := reports.piece
    let shut := machine.setGate home (machine.runtime home).gate.close.1
    have seen : shut.runtime home =
        { machine.runtime home with gate := (machine.runtime home).gate.close.1 } :=
      machine.runtime_setGate_self home _
    have seated : (shut.runtime home).scheduler = some scheduler :=
      (congrArg Runtime.scheduler seen).trans present
    have called : machine.call request =
        machine.withTodo (.close home :: action :: machine.todo) := by
      rw [Machine.call, actions]
      rfl
    change (machine.call request).step.step.step.step = _
    rw [called, Machine.passed, ← machine.opened_setGate]
    exact machine.step_gated action machine.todo going silent sound.opening
      (piece.perform reports seated) going (congrArg Runtime.gate seen)
  case numWaiters => exact sound.exact

/-- Threads 1 and 2 are parked, thread 3 has exited, and thread 4 asks how many have, with
thread 5 and the context in line. -/
def tallied : List (Move 1 1 Unit Nat) :=
  queueing ++ Move.calling (.create sole ()) 5 ++ Move.calling (.create sole ()) 5 ++
    Move.calling (.yield sole) 5 ++ Move.calling (.exit sole 7) 6 ++
    Move.calling (.numCompleted sole) 4

set_option maxRecDepth 2000 in
theorem conserves_threads_parked :
    (((lone 0).play tallied).parked.length = 2 ∧ ((lone 0).play tallied).answer = .count 1 ∧
        ((lone 0).play (tallied ++ Move.calling (.numReady sole) 4)).answer = .count 2) ∧
      ∃ scheduler, Conserved sole (trail [] (lone 0) (tallied ++ Move.calling (.numReady sole) 4))
        ((lone 0).play (tallied ++ Move.calling (.numReady sole) 4)) scheduler := by
  have run := Run.play (.start rfl ()) (tallied ++ Move.calling (.numReady sole) 4)
    (by decide : (lone 0).allows sole _ = true)
  exact ⟨⟨rfl, rfl, rfl⟩, _, run.conserves_threads rfl (by decide +kernel) rfl⟩

end UserThreads
