import UserThreads.Proofs.Deliveries

/-!
Joins: the value that a thread ends with is handed out once, by the join that takes
the thread off the completed ones. A join that does not wait fails for every other
thread, and touches nothing.
-/

namespace UserThreads

variable {n k : Nat} {C ν : Type}

variable {home : Fin n} {past : List (Moment n k C ν)} {machine : Machine n k C ν}
  {action : Action n k C ν} {rest : List (Action n k C ν)} {thread target : ThreadId}

/-- A creation or a join comes back by its reply. -/
theorem Sound.returns_late {request : Call n k C ν} (sound : Sound home past machine)
    (going : machine.outcome = none) (library : machine.inOwnCode = false)
    (goes : machine.step.outcome = none)
    (errand : late? home (machine.thread home) past = some request)
    (back : machine.step.inOwnCode = true) :
    ∃ answer host, machine.todo = [.reply answer, .own host] := by
  cases todo : machine.todo with
  | nil => exact absurd todo (stage_ne_nil sound.stage)
  | cons action rest =>
      have foreign : action.isOwn = false := by simpa only [Machine.inOwnCode, todo] using library
      have step := Machine.step_eq going todo
      have away (strange : machine.step.inOwnCode = false) : False := by
        rw [strange] at back
        cases back
      obtain ⟨asks, late⟩ := late_eq_some.mp errand
      cases stage_late (asks ▸ todo ▸ sound.stage) late foreign with
      | way gate silent strange _ =>
          exact (away (step ▸ machine.away_of_movesGate gate strange)).elim
      | decides =>
          obtain ⟨host, others, own⟩ := Machine.own_of_inOwnCode back
          have suspended := sound.suspended going todo goes
          exact absurd (stage_own (own ▸ suspended.stage)).1 (by decide)
      | enrolls =>
          have left := (machine.withTodo rest).todo_of_enroll
            (fun absent => (sound.unpopulated absent).active) (step ▸ goes)
          exact (away (by rw [step, Machine.inOwnCode]; exact left ▸ rfl)).elim
      | issues =>
          rw [step] at goes
          exact (away (step ▸ (machine.withTodo rest).foreign_of_issue _ goes)).elim
      | reaps =>
          rw [step] at goes
          exact (away (step ▸ (machine.withTodo rest).foreign_of_reap _ goes)).elim
      | tryReaps =>
          rw [step] at goes
          exact (away (step ▸ (machine.withTodo rest).foreign_of_tryReap _ goes)).elim
      | @finishes _ answer others =>
          have left := ((machine.withTodo (.reply answer :: others)).reopenGate_eq sound.opening).2
          exact (away (by rw [step, Machine.inOwnCode]; exact left ▸ rfl)).elim
      | replies => exact ⟨_, _, rfl⟩

/-- The move leaves all threads and mutexes as they are, unless it is a decision of the
timer that came in at the closing of the gate. -/
def Moment.Gentle (home : Fin n) (moment : Moment n k C ν) : Prop :=
  (∃ rest, moment.machine.todo = .schedule home none :: .closed home :: rest) ∨
    (moment.after.runtime home).scheduler = (moment.machine.runtime home).scheduler ∧
      moment.after.cells = moment.machine.cells

/-- Since the thread called to take the value of `target` all its moves have been gentle. -/
def Untouched (home : Fin n) (thread target : ThreadId) : List (Moment n k C ν) → Prop :=
  Since
    (fun moment _ => moment.thread home = thread ∧ moment.move = .ask (.tryJoin home target))
    fun moment => moment.thread home = thread → moment.Gentle home

/-- A call that has neither come back nor got a value. -/
def Unserved (todo : List (Action n k C ν)) : Prop :=
  (∀ host, todo ≠ [.own host]) ∧ ∀ value, .reply (.value value) ∉ todo

theorem unserved_of_silent (foreign : action.isOwn = false)
    (silent : (action :: rest).findSome? Action.answer? = none) : Unserved (action :: rest) := by
  refine ⟨fun host same => ?_, fun value member => ?_⟩
  · cases same
    cases foreign
  · cases List.findSome?_eq_none_iff.mp silent _ member

theorem Machine.movesGate_gentle {before : Machine n k C ν} (going : before.outcome = none)
    (todo : before.todo = action :: rest) (gate : action.movesGate = true) :
    Moment.Gentle home ⟨before, .work⟩ := by
  have step : before.step = (before.withTodo rest).perform action := Machine.step_eq going todo
  have queues : action.keepsQueues = true := by
    cases action <;> first | rfl | cases gate
  have cells : ((before.withTodo rest).perform action).cells = before.cells := by
    cases action with
    | close index =>
        simp only [perform, closeGate]
        split <;> rfl
    | reopen index =>
        simp only [perform, reopenGate]
        split <;> rfl
    | timer =>
        simp only [perform, enterTimer]
        split <;> rfl
    | closed | reopened => rfl
    | _ => cases gate
  have keeps := (before.withTodo rest).perform_keepsQueues home queues
  refine .inr ⟨?_, ?_⟩
  · change (before.step.runtime home).scheduler = _
    rw [step]
    exact keeps.scheduler
  · change before.step.cells = _
    rw [step, cells]

/-- The work of a join that does not wait is gentle, up to the value that it finds. -/
theorem Sound.gentle_working (sound : Sound home past machine) (going : machine.outcome = none)
    (library : machine.inOwnCode = false)
    (apart : ∀ parking rest, machine.todo ≠ .schedule home parking :: rest)
    (errand : errand? home (machine.thread home) past = some (.ask (.tryJoin home target)))
    (unserved : Unserved machine.step.todo) :
    Unserved machine.todo ∧ Moment.Gentle home ⟨machine, .work⟩ := by
  cases todo : machine.todo with
  | nil => exact absurd todo (stage_ne_nil sound.stage)
  | cons action rest =>
      have foreign : action.isOwn = false := by simpa only [Machine.inOwnCode, todo] using library
      have step := Machine.step_eq going todo
      cases stage_late (errand ▸ todo ▸ sound.stage) rfl foreign with
      | @way _ _ first others gate silent strange _ =>
          refine ⟨unserved_of_silent foreign ?_, Machine.movesGate_gentle going todo gate⟩
          cases action with
          | close | closed | reopen | reopened | timer => exact silent
          | _ => cases gate
      | decides => exact absurd todo (apart _ _)
      | tryReaps asked =>
          refine ⟨unserved_of_silent rfl asked.silent, ?_⟩
          obtain ⟨-, answer, attempt, left⟩ := sound.tries going todo
          rw [left] at unserved
          generalize Moment.reaped? ⟨machine, .work⟩ = taken at attempt
          cases attempt with
          | missed absent scheduler cells => exact .inr ⟨scheduler, cells⟩
          | taken => exact absurd (.tail _ (.head _)) (unserved.2 _)
      | @finishes _ answer others =>
          have left : machine.step.todo = .reply answer :: others := by
            rw [step]
            exact ((machine.withTodo (.reply answer :: others)).reopenGate_eq sound.opening).2
          refine ⟨⟨fun host same => (by cases same), fun value member => ?_⟩,
            Machine.movesGate_gentle going todo rfl⟩
          rcases List.mem_cons.mp member with same | member
          · cases same
          · exact unserved.2 value (left ▸ member)
      | @replies _ answer host =>
          have left : machine.step.todo = [.own host] := by rw [step]; rfl
          exact absurd left (unserved.1 host)

/-- A decision while a join is under way that does not wait is the timer's. -/
theorem Sound.gentle_deciding {parking : Option (Fin k)} (sound : Sound home past machine)
    (todo : machine.todo = .schedule home parking :: rest)
    (errand : errand? home (machine.thread home) past = some (.ask (.tryJoin home target)))
    (unserved : Unserved rest) :
    Unserved machine.todo ∧ Moment.Gentle home ⟨machine, .work⟩ := by
  obtain ⟨-, move, same, resumes⟩ := stage_resumes (todo ▸ sound.stage)
  cases errand.symm.trans same
  cases resumes with
  | entering asked doing =>
      refine ⟨?_, .inl ⟨_, todo⟩⟩
      rw [todo]
      refine ⟨fun host same => (by cases same), fun value member => ?_⟩
      rcases List.mem_cons.mp member with same | member
      · cases same
      · exact unserved.2 value member

/-- A thread that waits for the answer to a join that does not wait has touched nothing,
or has got its value. -/
theorem Run.untouched {context : Context n k C ν} (run : Run home past machine)
    (going : machine.outcome = none) (alive : Alive home machine thread context)
    (errand : errand? home thread past = some (.ask (.tryJoin home target)))
    (unserved : Unserved context.todo) : Untouched home thread target past := by
  induction run generalizing thread context with
  | start fresh code => cases errand
  | @move past machine move run before fits ih =>
      have sound := run.sound before
      have goes : (machine.make move).outcome = none := going
      cases sound.evolves before fits goes alive with
      | waits earlier other =>
          have elsewhere : Moment.thread home ⟨machine, move⟩ ≠ thread := fun same =>
            other same.symm
          rw [errand_of_other elsewhere] at errand
          exact .inr ⟨ih before earlier errand unserved, fun same => absurd same elsewhere⟩
      | pauses working todo =>
          subst working
          rw [errand_work] at errand
          obtain ⟨waiting, gentle⟩ := sound.gentle_deciding todo errand unserved
          exact .inr ⟨ih before .running errand waiting, fun _ => gentle⟩
      | begins working todo issued =>
          subst working
          rw [errand_work, (sound.newborn before todo goes issued).2] at errand
          cases errand
      | acts stays =>
          by_cases library : move = .work
          · subst library
            rw [errand_work] at errand
            obtain ⟨waiting, gentle⟩ := sound.gentle_working before fits (stays rfl) errand unserved
            exact .inr ⟨ih before .running errand waiting, fun _ => gentle⟩
          · obtain ⟨host, todo, said⟩ := sound.said fits library goes
            cases said with
            | think => exact absurd todo (unserved.1 host)
            | @ask request =>
                have asked : errand? home (machine.thread home) (⟨machine, .ask request⟩ :: past) =
                    some (.ask request) := errand_of_enters ⟨machine, .ask request⟩ rfl
                cases asked.symm.trans errand
                exact .inl ⟨rfl, rfl⟩
            | @leave value =>
                have left : errand? home (machine.thread home) (⟨machine, .leave value⟩ :: past) =
                    some (.leave value) := errand_of_enters ⟨machine, .leave value⟩ rfl
                cases left.symm.trans errand

namespace Machine

/-- A decision that ends the process leaves the running thread where it is. -/
theorem todo_of_aborted (before : Machine n k C ν) {parking : Option (Fin k)}
    (going : before.outcome = none) (ended : (before.schedule home parking).outcome ≠ none) :
    (before.schedule home parking).todo = before.todo := by
  have placed (waiting : Option (WaitQueue (Context n k C ν) ν)) :
      (before.setWaiters parking waiting).todo = before.todo ∧
        (before.setWaiters parking waiting).outcome = none := by
    unfold setWaiters
    split <;> exact ⟨rfl, going⟩
  simp only [schedule] at ended ⊢
  cases present : (before.runtime home).scheduler with
  | none => rfl
  | some scheduler =>
      simp only [present] at ended ⊢
      cases rotated : (before.save scheduler).rotate (before.waiters? parking) with
      | error fault => rfl
      | ok rotation =>
          simp only [rotated] at ended ⊢
          cases decided : rotation.switch with
          | none =>
              simp only [decided] at ended
              exact absurd (placed rotation.waiting).2 ended
          | some switch =>
              simp only [decided] at ended ⊢
              cases armed : (before.runtime home).gate.arm
                  (before.runtime home).config.timerInterval with
              | error failure => exact (placed rotation.waiting).1
              | ok gate =>
                  refine absurd ?_ ended
                  simp only [armed]
                  split <;> exact (placed rotation.waiting).2

theorem outcome_of_movesGate (before : Machine n k C ν) (gate : action.movesGate = true) :
    (before.perform action).outcome = before.outcome := by
  cases action with
  | close index =>
      simp only [perform, closeGate]
      split <;> rfl
  | reopen index =>
      simp only [perform, reopenGate]
      split <;> rfl
  | timer =>
      simp only [perform, enterTimer]
      split <;> rfl
  | closed | reopened => rfl
  | _ => cases gate

end Machine

/-- The process does not end by the return of a join. -/
theorem Sound.returned_goes {move : Move n k C ν} {request : Call n k C ν} {answer : Reply ν}
    (sound : Sound home past machine) (going : machine.outcome = none)
    (fits : move.Fits home machine)
    (returned : Moment.returned? home ⟨machine, move⟩ past = some (request, answer))
    (join : ∀ entry, request ≠ .create home entry) : (machine.make move).outcome = none := by
  unfold Moment.returned? at returned
  split at returned
  · rename_i passes
    obtain ⟨library, back⟩ := passes
    have library : machine.inOwnCode = false := library
    obtain ⟨_, errand, same⟩ := Option.map_eq_some_iff.mp returned
    cases same
    by_cases working : move = .work
    · subst working
      change machine.step.outcome = none
      change machine.step.inOwnCode = true at back
      cases todo : machine.todo with
      | nil => exact absurd todo (stage_ne_nil sound.stage)
      | cons action rest =>
          have foreign : action.isOwn = false := by
            simpa only [Machine.inOwnCode, todo] using library
          have step := Machine.step_eq going todo
          obtain ⟨asks, late⟩ := late_eq_some.mp errand
          cases stage_late (asks ▸ todo ▸ sound.stage) late foreign with
          | way gate =>
              rw [step, Machine.outcome_of_movesGate _ gate]
              exact going
          | decides =>
              apply Classical.byContradiction
              intro ended
              obtain ⟨-, _, -, resumes⟩ := stage_resumes (todo ▸ sound.stage)
              obtain ⟨first, others, rfl, strange⟩ := resumes.foreign
              rw [step] at ended
              have left := (machine.withTodo (first :: others)).todo_of_aborted going ended
              have away : machine.step.inOwnCode = false := by
                rw [step, Machine.inOwnCode]
                exact left ▸ strange
              exact absurd (away.symm.trans back) (by decide)
          | enrolls | issues => exact absurd rfl (join _)
          | reaps => exact (sound.polls going todo).1
          | tryReaps => exact (sound.tries going todo).1
          | finishes =>
              rw [step, Machine.outcome_of_movesGate _ rfl]
              exact going
          | replies =>
              rw [step]
              exact going
    · exact absurd ((fits.own working).symm.trans library) (by decide)
  · cases returned

/-- The joins of a run hand out each value once and unchanged, and those that come back
without one have touched nothing. -/
structure Delivers (home : Fin n) (past : List (Moment n k C ν)) (machine : Machine n k C ν) :
    Prop where
  once : ((deliveries home past).map Prod.fst).Nodup
  answers : ∀ pair ∈ returns home past, CreateJoinAnswer home past pair
  harmless : ∀ moment older target failure, past = moment :: older →
    moment.returned? home older = some (.tryJoin home target, .failed failure) →
      Untouched home (moment.thread home) target past
  /-- The values handed out are those of the threads taken off the completed ones. -/
  taken : machine.outcome = none → machine.inOwnCode = true →
    (deliveries home past).map Prod.fst = reaped past
  succeeds : machine.outcome = none → ∀ thread rest,
    machine.todo = .reap home thread :: rest ∨ machine.todo = .tryReap home thread :: rest →
      (∃ block ∈ machine.completedOn home, block.id = thread) →
        ∃ value, exitValue? home thread past = some value ∧
          machine.ComesBack home 3 (.value value)
  fails : machine.outcome = none → ∀ thread rest, machine.todo = .tryReap home thread :: rest →
    (∀ block ∈ machine.completedOn home, block.id ≠ thread) →
      (machine.step.runtime home).scheduler = (machine.runtime home).scheduler ∧
        machine.step.cells = machine.cells ∧
        machine.ComesBack home 3 (.failed ⟨Failure.tryAgain, .notCompleted⟩)
  misses : machine.outcome = none → ∀ thread, Elsewhere home past machine thread →
    ∀ block ∈ machine.completedOn home, block.id ≠ thread

/-- A join that has been answered comes back at once. -/
theorem Run.attempt_back {answer : Reply ν} (run : Run home past machine)
    (going : machine.outcome = none) (todo : machine.todo = action :: rest)
    (earns : action.earns = true) (goes : machine.step.outcome = none)
    (left : machine.step.todo = .reopen home :: .reply answer :: rest) :
    machine.ComesBack home 3 answer := by
  have sound := run.sound going
  have foreign : action.isOwn = false := by
    cases action <;> first | rfl | cases earns
  have library : machine.inOwnCode = false := (Machine.inOwnCode_eq todo).trans foreign
  have apart (parking : Option (Fin k)) : action ≠ .schedule home parking := by
    rintro rfl
    cases earns
  have proceeds := sound.proceeds going todo apart library goes
  obtain ⟨request, -, -, still, steps⟩ := stage_earning (todo ▸ sound.stage) earns
  have asked : Errand home (.ask request) rest := by
    cases steps with
    | way gate => exact absurd (gate.symm.trans still) (by decide)
    | decides | enrolls | finishes | replies => cases earns
    | issues asked | reaps asked | tryReaps asked => exact asked
  have comes := Machine.ComesBack.of_finishing goes left proceeds.sound.opening asked
  exact comes.work going library proceeds.stays.thread

theorem Run.delivered_once (run : Run home past machine) (going : machine.outcome = none) :
    ((deliveries home past).map Prod.fst).Nodup :=
  (run.delivered_sublist_gone going).nodup (run.sound going).gone_distinct

theorem Run.refused_untouched {move : Move n k C ν} {failure : Failure}
    (run : Run home past machine) (going : machine.outcome = none)
    (fits : move.Fits home machine)
    (returned : Moment.returned? home ⟨machine, move⟩ past =
      some (.tryJoin home target, .failed failure)) :
    Untouched home (machine.thread home) target (⟨machine, move⟩ :: past) := by
  have sound := run.sound going
  have goes := sound.returned_goes going fits returned fun entry same => nomatch same
  unfold Moment.returned? at returned
  split at returned
  · rename_i passes
    obtain ⟨library, back⟩ := passes
    have library : machine.inOwnCode = false := library
    obtain ⟨request, errand, same⟩ := Option.map_eq_some_iff.mp returned
    by_cases working : move = .work
    · subst working
      obtain ⟨answer, host, todo⟩ := sound.returns_late going library goes errand back
      have step : machine.step = { machine.withTodo [.own host] with answer } :=
        Machine.step_eq going todo
      have answered : answer = .failed failure := by
        rw [← (Prod.mk.inj same).2]
        change _ = machine.step.answer
        rw [step]
      have unserved : Unserved machine.todo := by
        rw [todo, answered]
        exact ⟨fun host same => (by cases same), fun value member => by simp at member⟩
      cases (Prod.mk.inj same).1
      refine .inr ⟨run.untouched going .running (late_eq_some.mp errand).1 unserved, fun _ => ?_⟩
      refine .inr ⟨?_, ?_⟩
      · change (machine.step.runtime home).scheduler = _
        rw [step]
        rfl
      · change machine.step.cells = _
        rw [step]
        rfl
    · exact absurd ((fits.own working).symm.trans library) (by decide)
  · cases returned

/-- The move that ends the process brings no value. -/
theorem Run.ended (run : Run home past machine) (ended : machine.outcome ≠ none) :
    ∃ last older, past = last :: older ∧ Run home older last.machine ∧
      last.machine.outcome = none ∧ ∀ pair, last.returned? home older = some pair →
        ∃ entry answer, pair = (.create home entry, answer) := by
  cases run with
  | start => exact absurd rfl ended
  | @move past machine move run before fits =>
      refine ⟨_, _, rfl, run, before, fun pair returned => ?_⟩
      obtain ⟨request, answer⟩ := pair
      by_cases creation : ∃ entry, request = .create home entry
      · obtain ⟨entry, rfl⟩ := creation
        exact ⟨entry, answer, rfl⟩
      · refine absurd ((run.sound before).returned_goes before fits returned ?_) ended
        exact fun entry same => creation ⟨entry, same⟩

theorem Run.deliveries_nodup (run : Run home past machine) :
    ((deliveries home past).map Prod.fst).Nodup := by
  by_cases going : machine.outcome = none
  · exact run.delivered_once going
  · obtain ⟨last, older, rfl, earlier, before, creations⟩ := run.ended going
    have same : deliveries home (last :: older) = deliveries home older := by
      rw [deliveries, returns]
      cases returned : last.returned? home older with
      | none => rfl
      | some pair =>
          obtain ⟨entry, answer, rfl⟩ := creations pair returned
          rfl
    rw [same]
    exact earlier.delivered_once before

theorem Run.returns_answer {pair : Call n k C ν × Reply ν} (run : Run home past machine)
    (member : pair ∈ returns home past) : CreateJoinAnswer home past pair := by
  by_cases going : machine.outcome = none
  · exact (run.returned_answer going member).2
  · obtain ⟨last, older, rfl, earlier, before, creations⟩ := run.ended going
    rw [returns] at member
    rcases List.mem_append.mp member with new | old
    · obtain ⟨entry, answer, rfl⟩ := creations pair (Option.mem_toList.mp new)
      exact .creation
    · obtain ⟨earned, answers⟩ := earlier.returned_answer before old
      exact earlier.answer_later before earned answers

/-- An attempt to join a thread that waits to be joined comes back with its value. -/
theorem Run.found_back (run : Run home past machine) (going : machine.outcome = none)
    (todo : machine.todo = .reap home thread :: rest ∨ machine.todo = .tryReap home thread :: rest)
    (ended : ∃ block ∈ machine.completedOn home, block.id = thread) :
    ∃ value, exitValue? home thread past = some value ∧
      machine.ComesBack home 3 (.value value) := by
  have sound := run.sound going
  have missing (absent : ∀ block ∈ machine.completedOn home, block.id ≠ thread) : False := by
    obtain ⟨block, member, same⟩ := ended
    exact absent block member same
  rcases todo with todo | todo
  · obtain ⟨goes, ⟨absent, -⟩ | ⟨value, attempt, -, left⟩⟩ := sound.polls going todo
    · exact (missing absent).elim
    · cases attempt with
      | taken _ ends => exact ⟨value, ends, run.attempt_back going todo rfl goes left⟩
  · obtain ⟨goes, answer, attempt, left⟩ := sound.tries going todo
    generalize Moment.reaped? ⟨machine, .work⟩ = reaped at attempt
    cases attempt with
    | missed absent => exact (missing absent).elim
    | taken _ ends => exact ⟨_, ends, run.attempt_back going todo rfl goes left⟩

/-- An attempt to join any other thread fails and touches nothing. -/
theorem Run.missed_back (run : Run home past machine) (going : machine.outcome = none)
    (todo : machine.todo = .tryReap home thread :: rest)
    (absent : ∀ block ∈ machine.completedOn home, block.id ≠ thread) :
    (machine.step.runtime home).scheduler = (machine.runtime home).scheduler ∧
      machine.step.cells = machine.cells ∧
      machine.ComesBack home 3 (.failed ⟨Failure.tryAgain, .notCompleted⟩) := by
  obtain ⟨goes, answer, attempt, left⟩ := (run.sound going).tries going todo
  generalize Moment.reaped? ⟨machine, .work⟩ = reaped at attempt
  cases attempt with
  | missed _ scheduler cells =>
      exact ⟨scheduler, cells, run.attempt_back going todo rfl goes left⟩
  | taken ended =>
      obtain ⟨block, member, same⟩ := ended
      exact absurd same (absent block member)

/-- Every value that a thread ends with reaches one join at most, and a join that does
not wait gets it or leaves everything as it is. -/
theorem Run.delivers (run : Run home past machine) : Delivers home past machine := by
  constructor
  case once => exact run.deliveries_nodup
  case answers => exact fun pair => run.returns_answer
  case harmless =>
    intro moment older target failure same returned
    cases run with
    | start => cases same
    | move run before fits =>
        cases same
        exact run.refused_untouched before fits returned
  case taken =>
    intro going inside
    obtain ⟨host, rest, todo⟩ := Machine.own_of_inOwnCode inside
    obtain ⟨-, rfl, -⟩ := (run.sound going).own_todo todo
    have undue : due? home past machine = none := due_of_silent (by rw [todo]; rfl)
    have earned := run.earnings_eq going
    rw [undue] at earned
    rw [deliveries, ← run.earned_deliveries going, earned]
    rfl
  case succeeds => exact fun going thread rest todo ended => run.found_back going todo ended
  case fails => exact fun going thread rest todo absent => run.missed_back going todo absent
  case misses =>
    intro going thread elsewhere block member same
    exact (run.sound going).completed_apart member (same ▸ elsewhere)

/-- The context tries to take the value of thread 1 before it has ended, after it has,
and once more. -/
def joining : List (Move 1 1 Unit Nat) :=
  Move.calling (.create sole ()) 5 ++ Move.calling (.tryJoin sole ⟨1⟩) 4 ++
    Move.calling (.yield sole) 5 ++ Move.calling (.exit sole 7) 5 ++
    Move.calling (.tryJoin sole ⟨1⟩) 4 ++ Move.calling (.tryJoin sole ⟨1⟩) 4

/-- The second attempt has got the value, and the others have failed. -/
theorem delivers_joined :
    ((lone 0).play joining).inOwnCode = true ∧
      deliveries sole (trail [] (lone 0) joining) = [(⟨1⟩, 7)] ∧
      (returns sole (trail [] (lone 0) joining)).length = 4 ∧
      Delivers sole (trail [] (lone 0) joining) ((lone 0).play joining) := by
  have run := Run.play (.start rfl ()) joining (by decide : (lone 0).allows sole joining = true)
  exact ⟨by decide, rfl, rfl, run.delivers⟩

end UserThreads
