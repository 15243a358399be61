import UserThreads.Proofs.Fixtures
import UserThreads.Proofs.Joining
import UserThreads.Proofs.Faults

/-!
Exits: a thread that exits hands the processor to the first ready thread and is never run
again. With nobody ready its exit ends the process, and every other thread has then
completed, is parked, or has vanished with the mutex that it was parked on.
-/

namespace UserThreads

variable {n k : Nat} {C ν : Type}

/-- The threads that have vanished with the mutexes that they were parked on. -/
def vanished (past : List (Moment n k C ν)) : List ThreadId := past.flatMap Moment.dropped

/-- The thread has ended with a value: its block waits to be joined, or has been. -/
structure Completed (home : Fin n) (past : List (Moment n k C ν)) (machine : Machine n k C ν)
    (thread : ThreadId) : Prop where
  ended : (exitValue? home thread past).isSome = true
  held : thread ∈ reaped past ∨
    ∃ block ∈ machine.completedOn home, block.id = thread ∧ block.status = .completed

/-- Where a thread is that neither runs nor is ready. -/
inductive Settled (home : Fin n) (past : List (Moment n k C ν)) (machine : Machine n k C ν) :
    ThreadId → Prop
  | completed {thread : ThreadId} (completed : Completed home past machine thread) :
      Settled home past machine thread
  | parked {mutex : Fin k} {block : Block (Context n k C ν) ν}
      (member : block ∈ machine.parkedOn mutex) : Settled home past machine block.id
  | vanished {thread : ThreadId} (member : thread ∈ vanished past) :
      Settled home past machine thread

/-- The move takes the processor from a thread that has exited, at the age and with the
value that are in its block. -/
inductive Moment.Retires (home : Fin n) (moment : Moment n k C ν) : ThreadId → Nat → ν → Prop
  | intro {rest : List (Action n k C ν)} {scheduler : Scheduler (Context n k C ν) ν} {value : ν}
      (working : moment.move = .work)
      (todo : moment.machine.todo = .schedule home none :: .resumed :: rest)
      (present : (moment.machine.runtime home).scheduler = some scheduler)
      (ended : scheduler.current.value = some value) :
      Retires home moment scheduler.current.id scheduler.current.age value

/-- A thread that has exited for good. -/
structure Retired (home : Fin n) (past : List (Moment n k C ν)) (machine : Machine n k C ν)
    (thread : ThreadId) (age : Nat) (value : ν) : Prop where
  /-- It does not run, and is in line neither for the processor nor for a mutex. -/
  still : ∀ context, ¬Alive home machine thread context
  held : thread ∈ reaped past ∨ ∃ block ∈ machine.completedOn home, block.id = thread
  kept : ∀ block ∈ machine.completedOn home, block.id = thread →
    block.status = .completed ∧ block.age = age ∧ block.value = some value

variable {home : Fin n} {past : List (Moment n k C ν)} {machine : Machine n k C ν}
  {rest : List (Action n k C ν)} {thread : ThreadId} {value : ν}

theorem mem_gone : thread ∈ gone past ↔ thread ∈ reaped past ∨ thread ∈ vanished past := by
  simp only [gone, Moment.gone, reaped, vanished, List.mem_flatMap, List.mem_append,
    List.mem_filterMap, Option.mem_toList]
  constructor
  · rintro ⟨moment, member, taken | dropped⟩
    · exact .inl ⟨moment, member, taken⟩
    · exact .inr ⟨moment, member, dropped⟩
  · rintro (⟨moment, member, taken⟩ | ⟨moment, member, dropped⟩)
    · exact ⟨moment, member, .inl taken⟩
    · exact ⟨moment, member, .inr dropped⟩

section whereabouts

/-- A runtime that has made a thread has had room for it. -/
theorem Run.made_numbered (run : Run home past machine) (going : machine.outcome = none)
    (member : thread ∈ issued past) : Numbered home past machine := by
  refine run.numbered going ?_
  induction run with
  | start fresh code => cases member
  | @move past machine move run before fits ih =>
      rw [machine.make_config move home]
      rw [issued, List.filterMap_cons] at member
      cases made : Moment.issued? ⟨machine, move⟩ with
      | none =>
          rw [made] at member
          exact ih before member
      | some newcomer =>
          have library : move = .work := by
            cases move with
            | work => rfl
            | _ => cases made
          subst library
          obtain ⟨entry, rest, todo⟩ := (run.sound before).making made
          obtain ⟨_, _, _, issues, -⟩ := issues_of_step before todo going
          rw [made] at issues
          generalize same : some newcomer = fresh at issues
          cases issues with
          | full => cases same
          | made room => exact Nat.zero_lt_of_lt room

theorem Run.reaped_ended (run : Run home past machine) (going : machine.outcome = none)
    (member : thread ∈ reaped past) : (exitValue? home thread past).isSome = true := by
  rw [← run.earned_deliveries going] at member
  obtain ⟨⟨taken, value⟩, delivered, rfl⟩ := List.mem_map.mp member
  obtain ⟨pair, earned, same⟩ := List.mem_filterMap.mp delivered
  cases run.earned_answer going earned with
  | creation | refusal => cases same
  | join ends | tryJoin ends =>
      cases same
      exact Option.isSome_iff_exists.mpr ⟨_, ends⟩

/-- Every thread that was ever made runs, is ready, or is settled. -/
theorem Run.whereabouts (run : Run home past machine) (going : machine.outcome = none)
    (known : thread = .main ∨ thread ∈ issued past) :
    thread = machine.thread home ∨ (∃ block ∈ machine.readyOn home, block.id = thread) ∨
      Settled home past machine thread := by
  have sound := run.sound going
  cases present : (machine.runtime home).scheduler with
  | none =>
      have unpopulated := sound.unpopulated present
      refine .inl ?_
      rcases known with rfl | member
      · exact unpopulated.current.symm
      · rw [(run.made_numbered going member).unmade present] at member
        cases member
  | some scheduler =>
      have populated := sound.populated scheduler present
      have below : thread.number.toNat < scheduler.nextId.toNat := by
        rcases known with rfl | member
        · exact Nat.zero_lt_of_lt populated.born
        · have numbered := run.made_numbered going member
          have count := numbered.next scheduler present
          have upper := (numbered.below member).2
          omega
      have listed := populated.accounts.mem_iff.mpr (List.mem_range.mpr below)
      simp only [accounted, List.mem_append, List.mem_map, List.mem_cons] at listed
      have named {block : Block (Context n k C ν) ν}
          (number : block.number = thread.number.toNat) : block.id = thread :=
        congrArg ThreadId.mk (UInt32.toNat_inj.mp number)
      rcases listed with ⟨block, place, number⟩ | ⟨other, taken, number⟩
      · have name := named number
        rcases place with rfl | (ready | completed) | parked
        · exact .inl (name.symm.trans populated.current)
        · exact .inr (.inl ⟨block, Machine.readyOn_eq present ▸ ready, name⟩)
        · have ended := populated.completed block completed
          refine .inr (.inr (.completed ⟨?_, .inr ⟨block, ?_, name, ended.status⟩⟩))
          · rw [← name, ← ended.value]
            exact ended.ended
          · exact Machine.completedOn_eq present ▸ completed
        · obtain ⟨mutex, member⟩ := Machine.mem_parked.mp parked
          exact .inr (.inr (name ▸ .parked member))
      · obtain rfl : other = thread := congrArg ThreadId.mk (UInt32.toNat_inj.mp number)
        rcases mem_gone.mp taken with joined | vanished
        · exact .inr (.inr (.completed ⟨run.reaped_ended going joined, .inl joined⟩))
        · exact .inr (.inr (.vanished vanished))

end whereabouts

section handing

/-- What comes of an exit: it ends the process if nobody is ready, and otherwise the thread
is completed and about to give the processor away. -/
inductive Finishes (home : Fin n) (machine after : Machine n k C ν)
    (rest : List (Action n k C ν)) (value : ν) : Prop
  | ends (alone : machine.readyOn home = []) (exited : after.outcome = some .exited)
      (thread : after.thread home = machine.thread home)
      (completed : after.completedOn home = machine.completedOn home)
      (parked : after.parkedOn = machine.parkedOn)
  | goes {scheduler : Scheduler (Context n k C ν) ν}
      (present : (machine.runtime home).scheduler = some scheduler)
      (others : scheduler.ready.elements ≠ []) (goes : after.outcome = none)
      (todo : after.todo = .schedule home none :: .resumed :: rest)
      (seated : (after.runtime home).scheduler = some { scheduler with
        current := { scheduler.current with status := .completed, value := some value } })

theorem Machine.runtime_exitProcess (machine : Machine n k C ν) (home : Fin n) :
    (machine.exitProcess home).runtime home =
      { machine.runtime home with gate := (machine.runtime home).gate.disarm } :=
  (machine.report (.lastRunnable (machine.runtime home).current)).runtime_setRuntime_self home _

theorem Sound.finishes (sound : Sound home past machine) (going : machine.outcome = none)
    (todo : machine.todo = .finish home value :: rest) :
    Finishes home machine machine.step rest value := by
  have step : machine.step = (machine.withTodo rest).finish home value :=
    Machine.step_eq going todo
  rw [step]
  simp only [Machine.finish, Machine.runtime_withTodo]
  cases present : (machine.runtime home).scheduler with
  | none =>
      have left := (machine.withTodo rest).runtime_exitProcess home
      refine .ends (by rw [Machine.readyOn, present]) rfl ?_ ?_ rfl
      · rw [Machine.thread, left]
        rfl
      · rw [Machine.completedOn, left]
        rfl
  | some scheduler =>
      have unset := ((sound.populated scheduler present).standing.ready_of todo (by simp)).2
      simp only [Block.complete?, unset]
      split
      · rename_i others
        refine .goes present ?_ going rfl (by simp)
        intro alone
        simp [Scheduler.hasReady, OrderedQueue.isEmpty_iff.mpr alone] at others
      · rename_i alone
        have alone : scheduler.ready.elements = [] := by
          simpa [Scheduler.hasReady, OrderedQueue.isEmpty] using alone
        have left := ((machine.withTodo rest).setScheduler home { scheduler with
          current := { scheduler.current with status := .completed, value := some value } }
          ).runtime_exitProcess home
        rw [Machine.runtime_setScheduler] at left
        refine .ends (Machine.readyOn_eq present ▸ alone) rfl ?_ ?_ rfl
        · rw [Machine.thread, left]
          rfl
        · rw [Machine.completedOn, left, Machine.completedOn_eq present]

theorem Machine.perform_exits {action : Action n k C ν} (going : machine.outcome = none)
    (exited : (machine.perform action).outcome = some .exited) :
    ∃ index value, action = .finish index value := by
  have goes {later : Machine n k C ν} (same : later.outcome = machine.outcome)
      (exited : later.outcome = some .exited) : False := by
    cases going.symm.trans (same.symm.trans exited)
  cases action with
  | finish index value => exact ⟨index, value, rfl⟩
  | resumed => cases exited
  | reap | tryReap =>
      simp only [perform, tryReaping, reapOnce] at exited
      split at exited
      · exact (goes rfl exited).elim
      · obtain ⟨_, _, _, rfl, _, _⟩ := reap_eq ‹_›
        split at exited <;> first | exact (goes rfl exited).elim | cases exited
  | handOn | wakeAll =>
      simp only [perform, handOn, wakeAll, popWaiter, wake] at exited
      split at exited <;> obtain ⟨-, rfl⟩ := Prod.mk.inj ‹_›
      all_goals repeat' split at exited
      all_goals first | exact (goes rfl exited).elim | cases exited
  | schedule | close | reopen | timer | begin | enter | enroll | issue | dropRuntime | discard
  | initMutex | lock | claim | claimAgain | woken | unlock | destroy | drain | dropMutex =>
      simp only [perform, schedule, setWaiters, closeGate, reopenGate, enterTimer, begin, enter,
        enroll, activate, issue, dropRuntime, discard, initMutex, lock, claim, claimAgain,
        blockCurrent, woken, unlock, destroy, drain, dropMutex, refuseUse] at exited
      repeat' split at exited
      all_goals first | exact (goes rfl exited).elim | cases exited
  | _ => exact (goes rfl exited).elim

/-- An exit ends the process only if nobody is ready. -/
theorem Sound.exits {move : Move n k C ν} (sound : Sound home past machine)
    (going : machine.outcome = none) (exited : (machine.make move).outcome = some .exited) :
    ∃ value rest, move = .work ∧ machine.todo = .finish home value :: rest := by
  have goes {later : Machine n k C ν} (same : later.outcome = machine.outcome)
      (exited : later.outcome = some .exited) : False := by
    cases going.symm.trans (same.symm.trans exited)
  cases move with
  | work =>
      cases todo : machine.todo with
      | nil => exact absurd todo (stage_ne_nil sound.stage)
      | cons action rest =>
          change machine.step.outcome = _ at exited
          rw [Machine.step_eq going todo] at exited
          have before : (machine.withTodo rest).outcome = none := going
          obtain ⟨index, value, rfl⟩ := Machine.perform_exits before exited
          have keepsTo : Action.KeepsTo home (.finish index value) :=
            stage_keepsTo (todo ▸ sound.stage)
          obtain rfl : index = home := keepsTo
          exact ⟨value, rest, rfl, rfl⟩
  | think | ask => exact (goes rfl exited).elim
  | leave =>
      simp only [Machine.make, Machine.leave] at exited
      split at exited <;> first | exact (goes rfl exited).elim | cases exited
  | panic =>
      simp only [Machine.make, Machine.panic] at exited
      split at exited <;> first | exact (goes rfl exited).elim | cases exited

/-- The timer of a runtime is started when the first of its threads is made. -/
theorem Machine.enroll_arms (before : Machine n k C ν) {entry : C}
    (absent : (before.runtime home).scheduler = none) (idle : before.active = none)
    (goes : (before.enroll home entry).outcome = none) :
    ∃ gate, (before.runtime home).gate.arm (before.runtime home).config.timerInterval =
      .ok gate := by
  simp only [enroll, absent, idle, Option.isSome_none, Bool.false_eq_true, if_false, activate]
    at goes
  cases installed : (before.runtime home).gate.install with
  | error failure =>
      rw [installed] at goes
      cases goes
  | ok gate =>
      rw [installed] at goes
      cases armed : gate.arm (before.runtime home).config.timerInterval with
      | error failure =>
          simp only [armed] at goes
          cases goes
      | ok started =>
          exact Gate.arm_of_kind armed (Gate.keeps_install installed).1.kind.symm

/-- The timer of a runtime that has threads can be started afresh. -/
theorem Run.rearms (run : Run home past machine) (going : machine.outcome = none)
    (present : (machine.runtime home).scheduler.isSome = true) :
    ∃ gate, (machine.runtime home).gate.arm (machine.runtime home).config.timerInterval =
      .ok gate := by
  induction run with
  | start fresh code => simp [fresh, Runtime.new] at present
  | @move past machine move run before fits ih =>
      have sound := run.sound before
      have keeps := machine.make_keeps home move
      cases earlier : (machine.runtime home).scheduler with
      | some scheduler =>
          obtain ⟨gate, armed⟩ := ih before (by rw [earlier]; rfl)
          rw [keeps.config]
          exact Gate.arm_of_kind armed keeps.gate.kind
      | none =>
          have absent (same : ((machine.make move).runtime home).scheduler =
              (machine.runtime home).scheduler) : False := by
            rw [same, earlier] at present
            cases present
          by_cases library : move = .work
          · subst library
            cases sound.next with
            | @decides parking rest todo =>
                refine (absent ?_).elim
                rw [Machine.make, Machine.step_eq before todo]
                exact congrArg (fun machine => (machine.runtime home).scheduler)
                  ((machine.withTodo rest).schedule_of_none earlier)
            | @works action rest todo apart =>
                cases sound.shift before todo (apart home) going with
                | keeps same | drops same => exact (absent same).elim
                | activates =>
                    change machine.step.outcome = none at going
                    rw [Machine.step_eq before todo] at going
                    rw [keeps.config]
                    obtain ⟨gate, armed⟩ := (machine.withTodo rest).enroll_arms earlier
                      (sound.unpopulated earlier).active going
                    exact Gate.arm_of_kind armed keeps.gate.kind
                | issues found | begins found | blocks found | completes found | reaps found
                | wakes found => cases earlier.symm.trans found
          · refine (absent ?_).elim
            rw [(machine.make_own library).1]

theorem Scheduler.rotate_completed {κ : Type} {scheduler : Scheduler κ ν}
    (status : scheduler.current.status = .completed) (others : scheduler.ready.elements ≠ [])
    (waiting : Option (WaitQueue κ ν)) : ∃ rotation, scheduler.rotate waiting = .ok rotation := by
  unfold rotate
  split
  · exact ⟨_, rfl⟩
  · simp only [outgoing?, status, if_true]
    exact seat_exists _ _ _ others

theorem Machine.schedule_goes (before : Machine n k C ν) {parking : Option (Fin k)}
    {scheduler : Scheduler (Context n k C ν) ν} {rotation : Rotation (Context n k C ν) ν}
    {gate : Gate} (present : (before.runtime home).scheduler = some scheduler)
    (rotated : (before.save scheduler).rotate (before.waiters? parking) = .ok rotation)
    (armed : (before.runtime home).gate.arm (before.runtime home).config.timerInterval =
      .ok gate) : (before.schedule home parking).outcome = before.outcome := by
  have parked : (before.setWaiters parking rotation.waiting).outcome = before.outcome := by
    unfold setWaiters
    split <;> rfl
  simp only [schedule, present, rotated, armed]
  split
  · exact parked
  · split <;> exact parked

/-- The first ready thread takes over from one that has exited. -/
structure HandsOver (home : Fin n) (machine after : Machine n k C ν)
    (first : Block (Context n k C ν) ν) : Prop where
  next : (machine.readyOn home).head? = some first
  goes : after.outcome = none
  thread : after.thread home = first.id
  todo : after.todo = first.context.todo
  code : after.code = first.context.code

theorem Run.hands_over (run : Run home past machine) (going : machine.outcome = none)
    (todo : machine.todo = .schedule home none :: .resumed :: rest) :
    ∃ first, HandsOver home machine machine.step first := by
  have sound := run.sound going
  obtain ⟨scheduler, present, status⟩ := run.exiting going todo
  have populated := sound.populated scheduler present
  have others : scheduler.ready.elements ≠ [] := by
    cases populated.standing with
    | ready other | blocked other => exact absurd (status.symm.trans other) (by decide)
    | completed _ _ _ _ others => exact others
  have step : machine.step = (machine.withTodo (.resumed :: rest)).schedule home none :=
    Machine.step_eq going todo
  have completed : ((machine.withTodo (.resumed :: rest)).save scheduler).current.status =
      .completed := status
  obtain ⟨rotation, rotated⟩ := Scheduler.rotate_completed completed others
    ((machine.withTodo (.resumed :: rest)).waiters? none)
  obtain ⟨gate, armed⟩ := run.rearms going (by rw [present]; rfl)
  have goes : ((machine.withTodo (.resumed :: rest)).schedule home none).outcome = none :=
    ((machine.withTodo (.resumed :: rest)).schedule_goes present rotated armed).trans going
  obtain ⟨rotation', rotated', scheduled⟩ :=
    Machine.schedule_rotated (machine.withTodo (.resumed :: rest)) present goes
  cases rotated.symm.trans rotated'
  have decides := Scheduler.decides_of_rotate rotated
  obtain ⟨thread, left⟩ := scheduled.seated populated decides
  have code := scheduled.seated_code populated present rotated goes
  rw [step]
  refine ⟨rotation.scheduler.current, ?_, goes, thread, left, code⟩
  cases decides with
  | stays alone => exact absurd alone others
  | requeues other | parks _ other => exact absurd (status.symm.trans other) (by decide)
  | completes _ ready =>
      have ready : scheduler.ready.elements = _ := ready
      rw [Machine.readyOn_eq present, ready]
      rfl

end handing

section retirement

variable {age : Nat} {move : Move n k C ν}

/-- Only the running thread gets among the completed ones. -/
theorem Sound.completed_before {block : Block (Context n k C ν) ν}
    (sound : Sound home past machine) (going : machine.outcome = none)
    (goes : (machine.make move).outcome = none)
    (member : block ∈ (machine.make move).completedOn home) :
    block ∈ machine.completedOn home ∨ block.id = machine.thread home := by
  by_cases library : move = .work
  · subst library
    change machine.step.outcome = none at goes
    change block ∈ machine.step.completedOn home at member
    cases sound.next with
    | @decides parking rest todo =>
        rw [Machine.step_eq going todo] at goes member
        change ((machine.withTodo rest).schedule home parking).outcome = none at goes
        change block ∈ ((machine.withTodo rest).schedule home parking).completedOn home at member
        cases present : (machine.runtime home).scheduler with
        | none =>
            rw [(machine.withTodo rest).schedule_of_none present] at member
            exact .inl member
        | some scheduler =>
            have populated := sound.populated scheduler present
            obtain ⟨rotation, decides, scheduled⟩ :=
              Machine.schedule_spec (machine.withTodo rest) present goes
            rw [Machine.completedOn_eq scheduled.scheduler] at member
            rcases decides.completed member with member | filed
            · exact .inl (Machine.completedOn_eq present ▸ member)
            · exact .inr (filed.id.trans populated.current)
    | works todo apart =>
        refine .inl ?_
        cases sound.shift going todo (apart home) goes with
        | keeps same | drops same =>
            rw [Machine.completedOn, same] at member
            exact member
        | activates absent present =>
            rw [Machine.completedOn_eq present] at member
            cases member
        | issues present seated | begins present seated | blocks present seated
        | completes present seated | wakes present seated =>
            rw [Machine.completedOn_eq seated] at member
            exact Machine.completedOn_eq present ▸ member
        | reaps present seated taken =>
            rw [Machine.completedOn_eq seated] at member
            exact Machine.completedOn_eq present ▸ taken.mem_iff.mpr (List.mem_cons_of_mem _ member)
  · rw [Machine.completedOn, (machine.make_own library).1] at member
    exact .inl member

/-- A thread that exits is filed among the completed ones as it is. -/
theorem Run.files {scheduler : Scheduler (Context n k C ν) ν} (run : Run home past machine)
    (going : machine.outcome = none)
    (todo : machine.todo = .schedule home none :: .resumed :: rest)
    (present : (machine.runtime home).scheduler = some scheduler)
    (goes : machine.step.outcome = none) :
    ∃ block, machine.step.completedOn home =
        OrderedQueue.insertByAge block (machine.completedOn home) ∧
      block.id = scheduler.current.id ∧ block.status = .completed ∧
      block.age = scheduler.current.age ∧ block.value = scheduler.current.value := by
  have populated := (run.sound going).populated scheduler present
  obtain ⟨same, present', status⟩ := run.exiting going todo
  cases present.symm.trans present'
  have step : machine.step = (machine.withTodo (.resumed :: rest)).schedule home none :=
    Machine.step_eq going todo
  rw [step] at goes ⊢
  obtain ⟨rotation, decides, scheduled⟩ :=
    Machine.schedule_spec (machine.withTodo (.resumed :: rest)) present goes
  rw [Machine.completedOn_eq scheduled.scheduler, Machine.completedOn_eq present]
  cases decides with
  | stays alone =>
      cases populated.standing with
      | ready other | blocked other => exact absurd (status.symm.trans other) (by decide)
      | completed _ _ _ _ others => exact absurd alone others
  | requeues other | parks _ other => exact absurd (status.symm.trans other) (by decide)
  | completes _ _ same => exact ⟨_, rfl, rfl, status, same, rfl⟩

theorem Run.retires {moment : Moment n k C ν} {older : List (Moment n k C ν)}
    (run : Run home (moment :: older) machine) (going : machine.outcome = none)
    (retires : moment.Retires home thread age value) :
    Retired home (moment :: older) machine thread age value ∧ moment.thread home = thread ∧
      thread ∉ vanished (moment :: older) := by
  cases run with
  | @move _ before move run earlier fits =>
      cases retires with
      | @intro rest scheduler value working todo present ended =>
          cases working
          change before.todo = _ at todo
          change (before.runtime home).scheduler = _ at present
          have sound := run.sound earlier
          have populated := sound.populated scheduler present
          obtain ⟨block, completed, id, status, age, value⟩ := run.files earlier todo present going
          have here : block ∈ before.step.completedOn home :=
            completed ▸ OrderedQueue.mem_insertByAge.mpr (.inl rfl)
          refine ⟨⟨?still, .inr ⟨block, here, id⟩, ?kept⟩, populated.current.symm, ?unvanished⟩
          case still =>
            rw [populated.current]
            exact fun context => run.ends earlier todo going
          case kept =>
            intro other member name
            change other ∈ before.step.completedOn home at member
            rw [completed, Machine.completedOn_eq present] at member
            rcases OrderedQueue.mem_insertByAge.mp member with rfl | member
            · exact ⟨status, age, value.trans ended⟩
            · exact absurd name (populated.apart_completed member)
          case unvanished =>
            intro member
            have nobody : Moment.dropped ⟨before, .work⟩ = [] := by
              simp only [Moment.dropped, todo]
            rw [vanished, List.flatMap_cons, nobody, List.nil_append, ← vanished] at member
            exact sound.apart_gone (mem_gone.mpr (.inr member)) populated.current

theorem Moment.parked_of_dropped {moment : Moment n k C ν} (member : thread ∈ moment.dropped) :
    ∃ mutex, ∃ block ∈ moment.machine.parkedOn mutex, block.id = thread := by
  unfold dropped at member
  split at member
  · rename_i mutex _ _ _
    exact ⟨mutex, List.mem_map.mp member⟩
  · cases member

/-- A thread that has exited stays where it is until it is joined. -/
theorem Retired.later (retired : Retired home past machine thread age value)
    (run : Run home past machine) (going : machine.outcome = none) (fits : move.Fits home machine)
    (goes : (machine.make move).outcome = none) (known : thread = .main ∨ thread ∈ issued past)
    (unvanished : thread ∉ vanished past) :
    Retired home (⟨machine, move⟩ :: past) (machine.make move) thread age value ∧
      thread ∉ vanished (⟨machine, move⟩ :: past) := by
  have sound := run.sound going
  have apart : thread ≠ machine.thread home := by
    rintro rfl
    exact retired.still _ .running
  have unvanished' : thread ∉ vanished (⟨machine, move⟩ :: past) := by
    intro member
    rw [vanished, List.flatMap_cons] at member
    rcases List.mem_append.mp member with dropped | earlier
    · obtain ⟨mutex, block, parked, rfl⟩ := Moment.parked_of_dropped dropped
      exact retired.still _ (.parked parked)
    · exact unvanished earlier
  have still (context : Context n k C ν) : ¬Alive home (machine.make move) thread context := by
    intro alive
    cases sound.evolves going fits goes alive with
    | acts | pauses => exact apart rfl
    | waits earlier => exact retired.still _ earlier
    | begins working todo made =>
        subst working
        exact known.elim (run.newcomer going todo goes made).1 (run.newcomer going todo goes made).2
  refine ⟨⟨still, ?held, ?kept⟩, unvanished'⟩
  case held =>
    have known' : thread = .main ∨ thread ∈ issued (⟨machine, move⟩ :: past) :=
      known.imp_right fun member => (List.sublist_cons_self _ past).filterMap _ |>.mem member
    rcases (run.move going fits).whereabouts goes known' with rfl | ⟨block, ready, rfl⟩ | settled
    · exact (still _ .running).elim
    · exact (still _ (.ready ready)).elim
    · cases settled with
      | completed completed => exact completed.held.imp_right fun ⟨block, member, name, _⟩ =>
          ⟨block, member, name⟩
      | parked member => exact (still _ (.parked member)).elim
      | vanished member => exact absurd member unvanished'
  case kept =>
    intro block member name
    rcases sound.completed_before going goes member with earlier | running
    · exact retired.kept block earlier name
    · exact absurd (name.symm.trans running) apart

theorem Run.retired {later older : List (Moment n k C ν)} {moment : Moment n k C ν}
    (run : Run home (later ++ moment :: older) machine) (going : machine.outcome = none)
    (retires : moment.Retires home thread age value) :
    Retired home (later ++ moment :: older) machine thread age value ∧
      moment.thread home = thread ∧ thread ∉ vanished (later ++ moment :: older) := by
  induction later generalizing machine with
  | nil => exact run.retires going retires
  | cons next later ih =>
      cases run with
      | @move _ before move run earlier fits =>
          have run : Run home (later ++ moment :: older) before := run
          obtain ⟨retired, name, unvanished⟩ := ih run earlier
          have known := run.moved moment (by simp)
          rw [name] at known
          obtain ⟨retired, unvanished⟩ := retired.later run earlier fits going known unvanished
          exact ⟨retired, name, unvanished⟩

/-- A thread that has exited makes no move any more. -/
theorem Run.rests {later older : List (Moment n k C ν)} {moment next : Moment n k C ν}
    (run : Run home (later ++ moment :: older) machine)
    (retires : moment.Retires home thread age value) (member : next ∈ later) :
    next.thread home ≠ thread := by
  induction later generalizing machine with
  | nil => cases member
  | cons latest later ih =>
      cases run with
      | @move _ before move run earlier fits =>
          have run : Run home (later ++ moment :: older) before := run
          rcases List.mem_cons.mp member with rfl | member
          · rintro rfl
            exact (run.retired earlier retires).1.still _ .running
          · exact ih run member

end retirement

section silence

/-- Work behind which own code does not go on. -/
structure Unreturning (todo : List (Action n k C ν)) : Prop where
  foreign : ∀ host, todo ≠ [.own host]
  unanswered : ∀ answer, .reply answer ∉ todo

/-- A thread that ends has own code right behind nothing but the last piece of its exit. -/
theorem stage_ends {me : ThreadId} {move : Move n k C ν} {closed : Bool}
    {action : Action n k C ν} (stage : Stage home me (some move) closed (action :: rest))
    (ends : move.exitValue?.isSome = true) (unanswered : ∀ answer, .reply answer ∉ action :: rest)
    (foreign : action.isOwn = false) :
    (∀ host, rest ≠ [.own host]) ∨ (∃ value, action = .finish home value) ∨ action = .resumed := by
  generalize shape : action :: rest = todo at stage
  cases stage with
  | initial | own => cases shape; cases foreign
  | guarded asked doing way =>
      cases doing with
      | exit | leave | finish =>
          cases way <;> cases shape <;> first
            | exact .inr (.inl ⟨_, rfl⟩)
            | exact .inl fun host same => by cases same
      | _ => cases ends
  | piece asked doing =>
      cases doing with
      | finishing => cases shape; exact absurd (.tail _ (.head _)) (unanswered _)
      | replying => cases shape; exact absurd (.head _) (unanswered _)
      | exiting | leaving => cases shape; exact .inl fun host same => by cases same
      | exited | left => cases shape; exact .inr (.inr rfl)
      | _ => cases ends

theorem Sound.unreturning_working {move : Move n k C ν} (sound : Sound home past machine)
    (going : machine.outcome = none)
    (library : machine.inOwnCode = false)
    (stays : ∀ parking rest, machine.todo ≠ .schedule home parking :: rest)
    (goes : machine.step.outcome = none)
    (errand : errand? home (machine.thread home) past = some move)
    (ends : move.exitValue?.isSome = true) (unreturning : Unreturning machine.todo) :
    Unreturning machine.step.todo := by
  cases todo : machine.todo with
  | nil => exact absurd todo (stage_ne_nil sound.stage)
  | cons action rest =>
      have foreign : action.isOwn = false := by simpa only [Machine.inOwnCode, todo] using library
      have step := Machine.step_eq going todo
      have stage := errand ▸ todo ▸ sound.stage
      have unanswered := todo ▸ unreturning.unanswered
      cases gate : action.movesGate with
      | true =>
          obtain ⟨pushed, left, unreturned⟩ := (machine.withTodo rest).todo_of_movesGate gate
          rw [step, left]
          refine ⟨fun host same => ?_, fun answer member => ?_⟩
          · cases pushed with
            | cons first pushed =>
                obtain rfl := (List.cons.inj same).1
                cases unreturned _ List.mem_cons_self
            | nil =>
                rcases stage_ends stage ends unanswered foreign with own | ⟨value, rfl⟩ | rfl
                · exact own host same
                · cases gate
                · cases gate
          · rcases List.mem_append.mp member with pushed | behind
            · cases unreturned _ pushed
            · exact unanswered answer (List.mem_cons_of_mem _ behind)
      | false =>
          rcases stage_ending stage ends gate foreign with
            ⟨value, rfl⟩ | ⟨parking, rfl⟩ | rfl | ⟨answer, host, rfl, -⟩
          · rw [(Sound.completes going todo goes).1]
            refine ⟨fun host same => (by cases same), fun answer member => ?_⟩
            have behind : .reply answer ∈ rest := by simpa using member
            exact unanswered answer (List.mem_cons_of_mem _ behind)
          · exact absurd todo (stays _ _)
          · rw [step] at goes
            cases goes
          · exact absurd List.mem_cons_self (unanswered answer)

/-- From its call of exit or the end of its own code on, a thread does not come back to
own code. -/
theorem Run.unreturning {context : Context n k C ν} (run : Run home past machine)
    (going : machine.outcome = none) (alive : Alive home machine thread context)
    (ends : (exitValue? home thread past).isSome = true) : Unreturning context.todo := by
  induction run generalizing thread context with
  | start fresh code => cases ends
  | @move past machine move run before fits ih =>
      have sound := run.sound before
      cases sound.evolves before fits going alive with
      | waits earlier other =>
          have elsewhere : Moment.thread home ⟨machine, move⟩ ≠ thread := fun same =>
            other same.symm
          rw [exitValue?, errand_of_other elsewhere] at ends
          exact ih before earlier ends
      | begins working todo made =>
          subst working
          rw [exitValue?, errand_work, (sound.newborn before todo going made).2] at ends
          cases ends
      | @pauses parking rest working todo =>
          subst working
          rw [exitValue?, errand_work] at ends
          have unreturning := ih before .running ends
          have unanswered := todo ▸ unreturning.unanswered
          obtain ⟨-, _, -, resumes⟩ := stage_resumes (todo ▸ sound.stage)
          obtain ⟨first, others, rfl, foreign⟩ := resumes.foreign
          refine ⟨fun host same => ?_, fun answer member => ?_⟩
          · cases same
            cases foreign
          · exact unanswered answer (List.mem_cons_of_mem _ member)
      | acts stays =>
          by_cases library : move = .work
          · subst library
            rw [exitValue?, errand_work] at ends
            obtain ⟨value, exits⟩ := Option.isSome_iff_exists.mp ends
            obtain ⟨asked, errand, exits⟩ := Option.bind_eq_some_iff.mp exits
            exact sound.unreturning_working before fits (stays rfl) going errand
              (Option.isSome_iff_exists.mpr ⟨value, exits⟩) (ih before .running ends)
          · obtain ⟨host, todo, said⟩ := sound.said fits library going
            cases said with
            | @think code =>
                rw [exitValue?, errand_of_stays rfl] at ends
                exact absurd todo ((ih before .running ends).foreign host)
            | @ask request =>
                have asked : errand? home (machine.thread home) (⟨machine, .ask request⟩ :: past) =
                    some (.ask request) := errand_of_enters ⟨machine, .ask request⟩ rfl
                rw [exitValue?, asked] at ends
                change Unreturning (request.actions ++ machine.todo)
                rw [todo]
                cases request with
                | exit runtime value =>
                    refine ⟨fun host same => (by cases same), fun answer member => ?_⟩
                    simp [Call.actions] at member
                | _ => cases ends
            | leave left =>
                rw [left]
                refine ⟨fun host same => (by cases same), fun answer member => ?_⟩
                simp [Machine.withTodo] at member

end silence

/-- How the exits of a run come out. -/
structure Exits (home : Fin n) (past : List (Moment n k C ν)) (machine : Machine n k C ν) :
    Prop where
  /-- An exit that ends the process leaves nobody behind who could go on. -/
  settles : machine.outcome = some .exited → ∀ thread, thread = .main ∨ thread ∈ issued past →
    thread ≠ machine.thread home → Settled home past machine thread
  completes : machine.outcome = some .exited → (∀ mutex, machine.parkedOn mutex = []) →
    vanished past = [] → ∀ thread, thread = .main ∨ thread ∈ issued past →
      thread ≠ machine.thread home → Completed home past machine thread
  /-- It ends the process if nobody is ready, and otherwise the first ready thread goes on. -/
  passes : machine.outcome = none → ∀ value rest, machine.todo = .finish home value :: rest →
    machine.readyOn home = [] ∧ machine.step.outcome = some .exited ∨
      ∃ scheduler first, (machine.runtime home).scheduler = some scheduler ∧
        (machine.readyOn home).head? = some first ∧ machine.step.outcome = none ∧
        Moment.Retires home ⟨machine.step, .work⟩ (machine.thread home) scheduler.current.age
          value ∧ HandsOver home machine.step machine.step.step first
  /-- From its call of exit on a thread does not come back to its own code. -/
  silent : machine.outcome = none → (exitValue? home (machine.thread home) past).isSome = true →
    machine.inOwnCode = false
  rests : ∀ later moment older thread age value, past = later ++ moment :: older →
    moment.Retires home thread age value → (∀ next ∈ later, next.thread home ≠ thread) ∧
      (machine.outcome = none → Retired home past machine thread age value)

theorem Run.settles (run : Run home past machine) (exited : machine.outcome = some .exited)
    (known : thread = .main ∨ thread ∈ issued past) (other : thread ≠ machine.thread home) :
    Settled home past machine thread := by
  cases run with
  | start => cases exited
  | @move past machine move run before fits =>
      obtain ⟨value, rest, rfl, todo⟩ := (run.sound before).exits before exited
      have same : reaped (⟨machine, .work⟩ :: past) = reaped past ∧
          vanished (⟨machine, .work⟩ :: past) = vanished past := by
        simp [reaped, vanished, Moment.reaped?, Moment.dropped, todo]
      rw [issued_work todo fun _ _ => by simp] at known
      cases (run.sound before).finishes before todo with
      | goes _ _ goes => cases goes.symm.trans exited
      | ends alone _ here completed parked =>
          change thread ≠ machine.step.thread home at other
          rw [here] at other
          rcases run.whereabouts before known with running | ⟨block, ready, -⟩ | settled
          · exact absurd running other
          · rw [alone] at ready
            cases ready
          · cases settled with
            | completed ended =>
                refine .completed ⟨?_, ?_⟩
                · rw [exitValue?, errand_work]
                  exact ended.ended
                · change _ ∨ ∃ block ∈ machine.step.completedOn home, _
                  rw [same.1, completed]
                  exact ended.held
            | @parked mutex block member =>
                have member : block ∈ machine.step.parkedOn mutex := parked ▸ member
                exact .parked member
            | vanished member => exact .vanished (same.2 ▸ member)

/-- Exits end the process only when nobody can go on, and whoever has exited is never run
again. -/
theorem Run.exits_last (run : Run home past machine) : Exits home past machine := by
  constructor
  case settles => exact fun exited thread => run.settles exited
  case completes =>
    intro exited unparked unvanished thread known other
    cases run.settles exited known other with
    | completed completed => exact completed
    | parked member =>
        rw [unparked] at member
        cases member
    | vanished member =>
        rw [unvanished] at member
        cases member
  case passes =>
    intro going value rest todo
    cases (run.sound going).finishes going todo with
    | ends alone exited => exact .inl ⟨alone, exited⟩
    | @goes scheduler present others goes left seated =>
        refine .inr ?_
        obtain ⟨first, hands⟩ := (run.work going todo rfl).hands_over goes left
        have retires := Moment.Retires.intro
          (rfl : (⟨machine.step, .work⟩ : Moment n k C ν).move = .work) left seated rfl
        have populated := (run.sound going).populated scheduler present
        refine ⟨scheduler, first, present, ?_, goes, ?_, hands⟩
        · rw [Machine.readyOn_eq present, ← hands.next]
          exact congrArg List.head? (Machine.readyOn_eq seated).symm
        · rw [← populated.current]
          exact retires
  case silent =>
    intro going ends
    have unreturning := run.unreturning going .running ends
    refine eq_false_of_ne_true fun inside => ?_
    obtain ⟨host, rest, todo⟩ := Machine.own_of_inOwnCode inside
    obtain ⟨-, rfl, -⟩ := (run.sound going).own_todo todo
    exact unreturning.foreign host todo
  case rests =>
    rintro later moment older thread age value rfl retires
    exact ⟨fun next member => run.rests retires member, fun going => (run.retired going retires).1⟩

/-- Thread 1 exits, and then the context does. -/
def quitting : List (Move 1 1 Unit Nat) :=
  Move.calling (.create sole ()) 5 ++ Move.calling (.yield sole) 5 ++
    Move.calling (.exit sole 7) 5 ++ Move.calling (.exit sole 8) 2

theorem exits_last_quitting :
    ((lone 0).play quitting).outcome = some .exited ∧
      Completed sole (trail [] (lone 0) quitting) ((lone 0).play quitting) ⟨1⟩ ∧
      Exits sole (trail [] (lone 0) quitting) ((lone 0).play quitting) := by
  have run := Run.play (.start rfl ()) quitting (by decide : (lone 0).allows sole quitting = true)
  have exits := run.exits_last
  exact ⟨rfl, exits.completes rfl (by decide) rfl ⟨1⟩ (.inr (by decide)) (by decide), exits⟩

/-- Thread 1 parks on the mutex that the context holds, and the context gives the mutex up
and exits. -/
def abandoning : List (Move 1 1 Unit Nat) :=
  Move.calling (.init sole) 2 ++ Move.calling (.create sole ()) 5 ++
    Move.calling (.lock sole sole) 4 ++ Move.calling (.yield sole) 5 ++
    Move.calling (.lock sole sole) 7 ++ Move.calling (.dropMutex sole) 2 ++
    Move.calling (.exit sole 8) 2

/-- An exit can end the process while a thread that was parked on a mutex given up has not
completed and is not parked any more. -/
theorem exit_past_vanished :
    ¬∀ (past : List (Moment 1 1 Unit Nat)) (machine : Machine 1 1 Unit Nat),
      Run sole past machine → machine.outcome = some .exited →
        ∀ thread, thread = .main ∨ thread ∈ issued past → thread ≠ machine.thread sole →
          Completed sole past machine thread ∨
            ∃ mutex, ∃ block ∈ machine.parkedOn mutex, block.id = thread := by
  intro always
  have run := Run.play (.start rfl ()) abandoning
    (by decide : (lone 0).allows sole abandoning = true)
  rcases always _ _ run rfl ⟨1⟩ (.inr (by decide)) (by decide) with completed | ⟨mutex, parked⟩
  · exact absurd completed.ended (by decide)
  · revert mutex
    decide

end UserThreads
