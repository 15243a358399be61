import UserThreads.Proofs.Handling

/-!
What is left for each thread of a run, and how moves change it.
-/

namespace UserThreads

variable {n k : Nat} {C ν : Type}

/-- The threads that run or wait for the processor, with what is left for each. -/
inductive Runnable (home : Fin n) (machine : Machine n k C ν) :
    ThreadId → List (Action n k C ν) → Prop
  | running : Runnable home machine (machine.thread home) machine.todo
  | ready {block : Block (Context n k C ν) ν} (member : block ∈ machine.readyOn home) :
      Runnable home machine block.id block.context.todo

/-- The threads that have not ended, with what is left for each. -/
inductive Left (home : Fin n) (machine : Machine n k C ν) :
    ThreadId → List (Action n k C ν) → Prop
  | runnable {thread : ThreadId} {todo : List (Action n k C ν)}
      (runnable : Runnable home machine thread todo) : Left home machine thread todo
  | parked {mutex : Fin k} {block : Block (Context n k C ν) ν}
      (member : block ∈ machine.parkedOn mutex) : Left home machine block.id block.context.todo

/-- What a decision does to the threads that wait. -/
structure Decided (home : Fin n) (past : List (Moment n k C ν)) (parking : Option (Fin k))
    (before after : Machine n k C ν) : Prop where
  left : ∀ thread todo, Left home after thread todo → Left home before thread todo
  ready : ∀ block ∈ before.readyOn home, Runnable home after block.id block.context.todo
  current : parking = none → exitValue? home (before.thread home) past = none →
    Runnable home after (before.thread home) before.todo
  parked : ∀ mutex, parking ≠ some mutex → after.parkedOn mutex = before.parkedOn mutex

variable {home : Fin n} {mutex : Fin k} {past : List (Moment n k C ν)}
  {machine after : Machine n k C ν} {scheduler : Scheduler (Context n k C ν) ν}
  {parking : Option (Fin k)} {rest : List (Action n k C ν)}
  {rotation : Rotation (Context n k C ν) ν}

theorem Populated.decided (populated : Populated home past machine scheduler)
    (present : (machine.runtime home).scheduler = some scheduler)
    (decides : ((machine.withTodo rest).save scheduler).Decides
      ((machine.withTodo rest).waiters? parking) rotation)
    (scheduled : Machine.Scheduled home parking (machine.withTodo rest) rotation after) :
    Decided home past parking (machine.withTodo rest) after := by
  obtain ⟨thread, todo⟩ := scheduled.seated populated decides
  have before : (machine.withTodo rest).readyOn home = scheduler.ready.elements :=
    Machine.readyOn_eq present
  have line := Machine.readyOn_eq scheduled.scheduler
  have self : (machine.withTodo rest).thread home = scheduler.current.id := populated.current.symm
  have waiting {block : Block (Context n k C ν) ν} (member : block ∈ scheduler.ready.elements) :
      Left home (machine.withTodo rest) block.id block.context.todo :=
    .runnable (.ready (before ▸ member))
  have seated : Runnable home after rotation.scheduler.current.id
      rotation.scheduler.current.context.todo := thread ▸ todo ▸ .running
  have next {block : Block (Context n k C ν) ν}
      (member : block ∈ rotation.scheduler.ready.elements) :
      Runnable home after block.id block.context.todo := .ready (line ▸ member)
  -- Whoever is left with something after the decision is listed in its outcome.
  have left_of (running : Left home (machine.withTodo rest) rotation.scheduler.current.id
        rotation.scheduler.current.context.todo)
      (ready : ∀ block ∈ rotation.scheduler.ready.elements,
        Left home (machine.withTodo rest) block.id block.context.todo)
      (parked : ∀ mutex, ∀ block ∈ after.parkedOn mutex,
        Left home (machine.withTodo rest) block.id block.context.todo)
      (other : ThreadId) (work : List (Action n k C ν)) (left : Left home after other work) :
      Left home (machine.withTodo rest) other work := by
    cases left with
    | runnable runnable =>
        cases runnable with
        | running =>
            rw [thread, todo]
            exact running
        | ready member => exact ready _ (line ▸ member)
    | parked member => exact parked _ _ member
  have standing : Left home (machine.withTodo rest) scheduler.current.id rest :=
    self ▸ .runnable .running
  cases decides with
  | stays alone =>
      have same := scheduled.unparked rfl
      rw [Block.unblock_id, Block.unblock_context] at seated
      refine ⟨left_of ?_ (fun _ member => waiting member) fun mutex _ member => ?_, ?_,
        fun _ _ => self ▸ seated, fun mutex _ => same mutex⟩
      · rw [Block.unblock_id, Block.unblock_context]
        exact standing
      · exact .parked (same mutex ▸ member)
      · exact fun block member => next (before ▸ member)
  | @requeues age first remaining event status filed =>
      have same := scheduled.unparked rfl
      have seats {block : Block (Context n k C ν) ν}
          (member : block ∈ first :: remaining.elements) :
          Runnable home after block.id block.context.todo := by
        rcases List.mem_cons.mp member with rfl | member
        · exact seated
        · exact next member
      have line {block : Block (Context n k C ν) ν}
          (member : block ∈ first :: remaining.elements) :
          Left home (machine.withTodo rest) block.id block.context.todo := by
        rcases OrderedQueue.mem_insertByAge.mp (filed ▸ member) with rfl | member
        · exact standing
        · exact waiting member
      refine ⟨left_of (line List.mem_cons_self)
          (fun _ member => line (List.mem_cons_of_mem _ member))
          (fun mutex _ member => .parked (same mutex ▸ member)),
        fun block member => seats ?_, fun _ _ => ?_, fun mutex _ => same mutex⟩
      · exact filed ▸ OrderedQueue.mem_insertByAge.mpr (.inr (before ▸ member))
      · have filed : ((machine.withTodo rest).save scheduler).current.aged age ∈
            first :: remaining.elements := filed ▸ OrderedQueue.mem_insertByAge.mpr (.inl rfl)
        exact self ▸ seats filed
  | @completes age first remaining event status ready =>
      have same := scheduled.unparked rfl
      have ready : scheduler.ready.elements = first :: remaining.elements := ready
      refine ⟨left_of (waiting (ready ▸ List.mem_cons_self))
          (fun _ member => waiting (ready ▸ List.mem_cons_of_mem _ member))
          (fun mutex _ member => .parked (same mutex ▸ member)),
        fun block member => ?_, fun _ going => ?_, fun mutex _ => same mutex⟩
      · rcases List.mem_cons.mp (ready ▸ before ▸ member) with rfl | member
        · exact seated
        · exact next member
      · cases populated.standing with
        | completed _ value ended =>
            rw [value, populated.current] at ended
            exact absurd (going ▸ ended) (by simp)
        | ready other | blocked other => exact absurd (status.symm.trans other) (by decide)
  | @parks age first remaining queue event place status ready =>
      obtain ⟨index, rfl, rfl⟩ := Option.map_eq_some_iff.mp place
      have ready : scheduler.ready.elements = first :: remaining.elements := ready
      refine ⟨left_of (waiting (ready ▸ List.mem_cons_self))
          (fun _ member => waiting (ready ▸ List.mem_cons_of_mem _ member))
          (fun mutex block member => ?_),
        fun block member => ?_, fun parking => (by cases parking), fun mutex apart => ?_⟩
      · by_cases same : mutex = index
        · subst same
          rw [scheduled.joined rfl] at member
          rcases OrderedQueue.mem_insertByAge.mp member with rfl | member
          · exact standing
          · exact .parked member
        · exact .parked (scheduled.elsewhere rfl same ▸ member)
      · rcases List.mem_cons.mp (ready ▸ before ▸ member) with rfl | member
        · exact seated
        · exact next member
      · exact scheduled.elsewhere rfl fun same => apart (congrArg some same.symm)

/-- Whoever is left with something after a decision was so before, the decision aside. -/
theorem Sound.decided (sound : Sound home past machine) (going : machine.outcome = none)
    (todo : machine.todo = .schedule home parking :: rest) (goes : machine.step.outcome = none) :
    Decided home past parking (machine.withTodo rest) machine.step := by
  rw [Machine.step_eq going todo] at goes ⊢
  change ((machine.withTodo rest).schedule home parking).outcome = none at goes
  change Decided home past parking _ ((machine.withTodo rest).schedule home parking)
  cases present : (machine.runtime home).scheduler with
  | none =>
      rw [(machine.withTodo rest).schedule_of_none present]
      exact ⟨fun _ _ => id, fun _ member => .ready member, fun _ _ => .running, fun _ _ => rfl⟩
  | some scheduler =>
      obtain ⟨rotation, decides, scheduled⟩ :=
        Machine.schedule_spec (machine.withTodo rest) present goes
      exact (sound.populated scheduler present).decided present decides scheduled

theorem Sound.left_running (sound : Sound home past machine) {todo : List (Action n k C ν)}
    (left : Left home machine (machine.thread home) todo) : todo = machine.todo := by
  generalize running : machine.thread home = thread at left
  cases present : (machine.runtime home).scheduler with
  | none =>
      cases left with
      | runnable runnable =>
          cases runnable with
          | running => rfl
          | ready member =>
              rw [Machine.readyOn, present] at member
              cases member
      | parked member =>
          rw [(sound.unpopulated present).parked] at member
          cases member
  | some scheduler =>
      have populated := sound.populated scheduler present
      cases left with
      | runnable runnable =>
          cases runnable with
          | running => rfl
          | ready member =>
              rw [Machine.readyOn_eq present] at member
              exact absurd (running.symm.trans populated.current.symm)
                (populated.apart_ready member)
      | parked member =>
          exact absurd (running.symm.trans populated.current.symm) (populated.apart_parked member)

/-- Other threads keep what is left for them while one goes on. -/
theorem Stays.left {thread : ThreadId} {todo : List (Action n k C ν)}
    (stays : Stays home machine after) (left : Left home after thread todo) :
    thread = machine.thread home ∧ todo = after.todo ∨ Left home machine thread todo ∨
      todo = [.begin] := by
  cases left with
  | runnable runnable =>
      cases runnable with
      | running => exact .inl ⟨stays.thread, rfl⟩
      | ready member =>
          rcases stays.origin _ member with member | begins | ⟨mutex, parked, member, id, context⟩
          · exact .inr (.inl (.runnable (.ready member)))
          · exact .inr (.inr begins)
          · rw [id, context]
            exact .inr (.inl (.parked member))
  | parked member => exact .inr (.inl (.parked (stays.parked _ _ member)))

/-- How a thread comes to have a piece of work on the mutex before it after a move. -/
inductive PendingOrigin (home : Fin n) (past : List (Moment n k C ν)) (mutex : Fin k)
    (machine : Machine n k C ν) : Move n k C ν → ThreadId → Action n k C ν → Prop
  | asked {request : Call n k C ν} {next : Action n k C ν} (begins : request.actions = [next]) :
      PendingOrigin home past mutex machine (.ask request) (machine.thread home) next
  | kept {move : Move n k C ν} {thread : ThreadId} {todo : List (Action n k C ν)}
      {next : Action n k C ν} (left : Left home machine thread todo)
      (pending : pending? mutex todo = some next) :
      PendingOrigin home past mutex machine move thread next
  | handled {action next : Action n k C ν} {rest pushed : List (Action n k C ν)}
      {served : Move n k C ν} {cells : Mutex (Context n k C ν) ν}
      (todo : machine.todo = action :: rest) (concerned : action.concerns mutex = true)
      (errand : errand? home (machine.thread home) past = some served)
      (serves : Serves home mutex (machine.thread home) served action)
      (handles : Handles home mutex (machine.thread home) (machine.cells mutex) action cells
        pushed)
      (pending : pending? mutex pushed = some next) :
      PendingOrigin home past mutex machine .work (machine.thread home) next
  | woken {rest : List (Action n k C ν)}
      (todo : machine.todo = .schedule home (some mutex) :: rest) :
      PendingOrigin home past mutex machine .work (machine.thread home)
        (.woken home mutex (machine.thread home))

theorem Sound.pending_origin {move : Move n k C ν} {thread : ThreadId}
    {todo : List (Action n k C ν)} {next : Action n k C ν} (sound : Sound home past machine)
    (fits : move.Fits home machine) (going : machine.outcome = none)
    (goes : (machine.make move).outcome = none)
    (left : Left home (machine.make move) thread todo) (pending : pending? mutex todo = some next) :
    PendingOrigin home past mutex machine move thread next := by
  have unbegun : pending? (n := n) (C := C) (ν := ν) mutex [.begin] = none := rfl
  by_cases library : move = .work
  · subst library
    cases sound.works going fits goes mutex with
    | decides shape cells suspended =>
        rename_i parking rest
        cases (sound.decided going shape goes).left _ _ left with
        | runnable runnable =>
            cases runnable with
            | running =>
                obtain ⟨-, errand, -, resumes⟩ := stage_resumes (shape ▸ sound.stage)
                change pending? mutex rest = _ at pending
                by_cases parks : parking = some mutex
                · subst parks
                  cases resumes with
                  | waking asked =>
                      have concerned : (Action.woken home mutex (machine.thread home) :
                          Action n k C ν).concerns mutex = true := beq_self_eq_true mutex
                      rw [pending_aside rfl, pending_head concerned] at pending
                      cases pending
                      exact .woken shape
                · have elsewhere : (Action.schedule home parking : Action n k C ν).concerns mutex =
                      false := beq_false_of_ne parks
                  refine .kept (.runnable .running) ?_
                  rw [shape, pending_aside elsewhere]
                  exact pending
            | ready member => exact .kept (.runnable (.ready member)) pending
        | parked member => exact .kept (.parked member) pending
    | aside shape apart elsewhere cells same stays =>
        rcases stays.left left with ⟨rfl, rfl⟩ | left | rfl
        · refine .kept (.runnable .running) ?_
          rw [shape, pending_aside elsewhere, ← same]
          exact pending
        · exact .kept left pending
        · cases pending
    | handles shape concerned errand serves asked handles becomes pushed stays =>
        rcases stays.left left with ⟨rfl, rfl⟩ | left | rfl
        · change pending? mutex machine.step.todo = _ at pending
          rw [pushed, pending_append (pending_behind mutex asked)] at pending
          exact .handled shape concerned errand serves handles pending
        · exact .kept left pending
        · cases pending
  · have speaks := sound.speaks fits library goes mutex
    cases left with
    | runnable runnable =>
        cases runnable with
        | running =>
            obtain ⟨request, rfl, begins⟩ := speaks.after _ pending
            rw [speaks.thread home]
            exact .asked begins
        | ready member =>
            rw [Machine.readyOn, speaks.runtimes] at member
            exact .kept (.runnable (.ready member)) pending
    | parked member =>
        rw [Machine.parkedOn, speaks.mutexes] at member
        exact .kept (.parked member) pending

/-- The pieces of work that a call only gets to on a mutex that it has found usable. -/
def Action.admitted : Action n k C ν → Bool
  | .schedule _ (some _) | .claim .. | .claimAgain .. | .woken .. | .acquire .. | .drain ..
  | .releaseDestroyed .. | .wakeAll .. => true
  | _ => false

section handles

variable {me : ThreadId} {action next : Action n k C ν} {pushed : List (Action n k C ν)}
  {cells cells' : Mutex (Context n k C ν) ν}

theorem Handles.admits (handles : Handles home mutex me cells action cells' pushed)
    (pending : pending? mutex pushed = some next) (admitted : next.admitted = true) :
    action.admitted = true ∨ cells.status = .initialized := by
  cases handles with
  | lock usable | destroyOwned usable | destroy usable => exact .inr usable
  | claim | claimFails | claimAgain | blocks | woken | drain | drainAgain | releaseDestroyed
  | wakeAll => exact .inl rfl
  | unlockHands =>
      simp [pending?, Action.concerns] at pending
      exact absurd (pending ▸ admitted) (by simp [Action.admitted])
  | _ => simp [pending?, Action.concerns] at pending

theorem Handles.begun (handles : Handles home mutex me cells action cells' pushed)
    (begun : cells.status ≠ .uninitialized) : cells'.status ≠ .uninitialized := by
  cases handles with
  | init | destroy | destroyOwned => simp
  | _ => exact begun

end handles

theorem Works.begun (works : Works home past mutex machine after)
    (begun : (machine.cells mutex).status ≠ .uninitialized) :
    (after.cells mutex).status ≠ .uninitialized := by
  cases works with
  | decides todo cells suspended => exact cells.status ▸ begun
  | aside todo apart elsewhere cells pending stays => exact cells ▸ begun
  | handles todo concerned errand serves asked handles becomes left stays =>
      exact becomes ▸ handles.begun begun

theorem Run.begun {move : Move n k C ν} (run : Run home past machine)
    (going : machine.outcome = none) (fits : move.Fits home machine)
    (goes : (machine.make move).outcome = none)
    (begun : (machine.cells mutex).status ≠ .uninitialized) :
    ((machine.make move).cells mutex).status ≠ .uninitialized := by
  have sound := run.sound going
  by_cases library : move = .work
  · subst library
    exact (sound.works going fits goes mutex).begun begun
  · rw [(sound.speaks fits library goes mutex).mutexes]
    exact begun

theorem Call.unadmitted {request : Call n k C ν} {action : Action n k C ν}
    (begins : request.actions = [action]) : ¬action.admitted = true := by
  cases request <;> cases begins <;> simp [Action.admitted]

/-- At the start nobody but the initial context is left with anything. -/
theorem Left.at_start {runtimes : Vector (Runtime n k C ν) n} {config : Config} {kind : GateKind}
    {plan : Nat → Bool} {code : C} {thread : ThreadId} {todo : List (Action n k C ν)}
    (fresh : runtimes.get home = .new config (.new kind plan))
    (left : Left home (.start runtimes code) thread todo) : todo = [.own none] := by
  have absent : ((Machine.start runtimes code).runtime home).scheduler = none := by
    simp [fresh, Runtime.new]
  cases left with
  | runnable runnable =>
      cases runnable with
      | running => rfl
      | ready member =>
          rw [Machine.readyOn, absent] at member
          cases member
  | parked member =>
      rw [((Sound.start fresh code).unpopulated absent).parked] at member
      cases member

/-- Whoever is inside a call that found the mutex usable finds it initialized once. -/
theorem Run.admitted (run : Run home past machine) (going : machine.outcome = none)
    {thread : ThreadId} {todo : List (Action n k C ν)} {action : Action n k C ν}
    (left : Left home machine thread todo) (pending : pending? mutex todo = some action)
    (admitted : action.admitted = true) :
    (machine.cells mutex).status ≠ .uninitialized := by
  induction run generalizing thread todo action with
  | start fresh code =>
      cases Left.at_start fresh left
      cases pending
  | @move past machine move run before fits ih =>
      have sound := run.sound before
      apply run.begun before fits going
      cases sound.pending_origin fits before going left pending with
      | asked begins => exact absurd admitted (Call.unadmitted begins)
      | kept left pending => exact ih before left pending admitted
      | handled todo concerned errand serves handles pending =>
          have here := todo ▸ pending_head concerned
          rcases handles.admits pending admitted with already | usable
          · exact ih before (.runnable .running) here already
          · rw [usable]
            simp
      | woken todo =>
          have here := todo ▸ pending_parks home mutex _
          exact ih before (.runnable .running) here rfl

end UserThreads
