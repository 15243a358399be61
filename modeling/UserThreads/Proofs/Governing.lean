import UserThreads.Proofs.Creating

/-!
One runtime at a time drives an OS thread. It is the only one that has a scheduler; on any
other one calls come to nothing, and once it has been given up the next creation of a thread
sets up another.
-/

namespace UserThreads

variable {n k : Nat} {C ν : Type}

namespace GateKind

/-- A gate of this kind can be installed, and its timer started. -/
def starts (kind : GateKind) (interval : Duration) : Bool :=
  match kind with
  | .refusing => false
  | .signal => decide (0 ≤ (Gate.period interval).1)
  | .cooperative | .scripted => true

end GateKind

theorem Gate.start_of_starts {gate : Gate} {interval : Duration}
    (starts : gate.kind.starts interval = true) :
    ∃ started, gate.start interval = .ok started := by
  cases kind : gate.kind with
  | refusing => simp [kind, GateKind.starts] at starts
  | cooperative | scripted => simp [start, install, arm, kind]
  | signal =>
      have nonnegative : ¬(period interval).1 < 0 := by
        simpa [kind, GateKind.starts] using starts
      simp [start, install, arm, kind, nonnegative]

theorem Gate.start_of_not_starts {gate : Gate} {interval : Duration}
    (starts : gate.kind.starts interval = false) :
    ∃ failure, gate.start interval = .error failure := by
  cases kind : gate.kind with
  | refusing => simp [start, install, kind]
  | cooperative | scripted => simp [kind, GateKind.starts] at starts
  | signal =>
      have negative : (period interval).1 < 0 := by
        simpa [kind, GateKind.starts] using starts
      simp [start, install, arm, kind, negative]

namespace Machine

/-- The machine once the running thread has passed the gate of the runtime `index`. -/
def passed (machine : Machine n k C ν) (index : Fin n) : Machine n k C ν :=
  machine.setGate index (machine.runtime index).gate.close.1.reopen.1

/-- What the creation of a thread that sets the runtime `index` up is answered. The first id
is that of thread 0. -/
def firstAnswer (machine : Machine n k C ν) (index : Fin n) : Reply ν :=
  if 1 < (machine.runtime index).config.maxThreads then .id ⟨1⟩
  else .failed ⟨Failure.tryAgain, .idsExhausted (machine.runtime index).config.maxThreads⟩

/-- The threads that are ready after it. -/
def firstReady (machine : Machine n k C ν) (index : Fin n) (entry : C) :
    List (Block (Context n k C ν) ν) :=
  if 1 < (machine.runtime index).config.maxThreads then
    [{ machine.newcomer index entry ⟨1⟩ with status := .ready }]
  else []

/-- The runtime `index` has been activated by the first creation of a thread on it, which
was answered by `answer`; its threads are thread 0 and those in `ready`. -/
structure Launched (machine after : Machine n k C ν) (index : Fin n) (answer : Reply ν)
    (ready : List (Block (Context n k C ν) ν)) : Prop where
  active : after.active = some index
  current : (after.runtime index).current = .main
  seated : ∃ scheduler, (after.runtime index).scheduler = some scheduler ∧
    scheduler.current = .main ⟨machine.todo, machine.code⟩ ∧
      scheduler.ready.elements = ready ∧ scheduler.completed.elements = []
  others : ∀ other, other ≠ index → after.runtime other = machine.runtime other
  mutexes : after.mutexes = machine.mutexes
  todo : after.todo = machine.todo
  code : after.code = machine.code
  answers : after.answer = answer
  outcome : after.outcome = none

/-- Calls on the runtime `index`, which has no scheduler, do no more than pass its gate. -/
structure Idle (machine : Machine n k C ν) (index : Fin n) : Prop where
  yields : machine.play (Move.calling (.yield index) 4) =
    { machine.passed index with answer := .done }
  ready : machine.play (Move.calling (.numReady index) 4) =
    { machine.passed index with answer := .count 0 }
  completed : machine.play (Move.calling (.numCompleted index) 4) =
    { machine.passed index with answer := .count 0 }
  current : machine.play (Move.calling (.current index) 1) = { machine with answer := .id .main }
  tryJoins : ∀ thread, machine.play (Move.calling (.tryJoin index thread) 4) =
    { machine.passed index with answer := .failed ⟨Failure.tryAgain, .notCompleted⟩ }

end Machine

variable {machine : Machine n k C ν} {index : Fin n} {past : List (Moment n k C ν)}
  {entry : C}

namespace Machine

/-- The calls that come to nothing on a runtime without a scheduler, with what they do behind
its gate and what they are answered. -/
inductive IdleCall (index : Fin n) : Call n k C ν → List (Action n k C ν) → Reply ν → Prop
  | yield :
      IdleCall index (.yield index) [.schedule index none, .reopen index, .reply .done] .done
  | numReady : IdleCall index (.numReady index) [.countReady index] (.count 0)
  | numCompleted : IdleCall index (.numCompleted index) [.countCompleted index] (.count 0)
  | tryJoin {thread : ThreadId} :
      IdleCall index (.tryJoin index thread) [.tryReap index thread]
        (.failed ⟨Failure.tryAgain, .notCompleted⟩)

section calls

variable {request : Call n k C ν} {inner rest : List (Action n k C ν)} {answer : Reply ν}

theorem IdleCall.actions (call : IdleCall index request inner answer) :
    request.actions = .close index :: inner := by
  cases call <;> rfl

/-- Whatever has happened at the closing of the gate, behind it nothing is done. -/
theorem IdleCall.comes (call : IdleCall index request inner answer)
    (going : machine.outcome = none) (quiet : (machine.runtime index).gate.afterOpening = 0)
    (absent : (machine.runtime index).scheduler = none) :
    (machine.withTodo (inner ++ rest)).play (List.replicate 3 .work) =
      { (machine.withTodo rest).opened index with answer } := by
  have first : ∃ action later, inner ++ rest = action :: later ∧
      (machine.withTodo later).perform action =
        machine.withTodo (.reopen index :: .reply answer :: rest) := by
    cases call with
    | yield => exact ⟨_, _, rfl, schedule_of_none _ absent⟩
    | numReady | numCompleted =>
        refine ⟨_, _, rfl, ?_⟩
        simp only [perform, Runtime.numReady, Runtime.numCompleted, runtime_withTodo, absent]
        rfl
    | tryJoin =>
        refine ⟨_, _, rfl, ?_⟩
        simp only [perform, reapOnce, reap?, runtime_withTodo, absent]
        rfl
  obtain ⟨action, later, same, done⟩ := first
  change (machine.withTodo (inner ++ rest)).step.step.step = _
  rw [same, (machine.step_withTodo going action later).trans done]
  have goes : (machine.withTodo (.reopen index :: .reply answer :: rest)).outcome = none := going
  exact step_out goes rfl quiet

end calls

/-- What keeps a runtime from being used: it has no scheduler and its timer is not installed. -/
structure Unused (machine : Machine n k C ν) (index : Fin n) : Prop where
  absent : (machine.runtime index).scheduler = none
  uninstalled : (machine.runtime index).gate.installed = false
  quiet : (machine.runtime index).gate.afterOpening = 0
  current : (machine.runtime index).current = .main

theorem Driven.unused_of (driven : Driven machine) (live : (machine.runtime index).live = true)
    (absent : (machine.runtime index).scheduler = none) : machine.Unused index :=
  ⟨absent, (driven.unused index live absent).1, driven.quiet index,
    (driven.unused index live absent).2⟩

theorem Launched.of_issuing {fresh : Machine n k C ν} (gate : Gate)
    (went : fresh.outcome = none) (todo : fresh.todo = .issue index entry :: machine.todo)
    (seen : fresh.runtime index = { machine.runtime index with
      gate, scheduler := some (.start (.main ⟨machine.todo, machine.code⟩)), current := .main })
    (quiet : gate.afterOpening = 0)
    (others : ∀ other, other ≠ index → fresh.runtime other = machine.runtime other)
    (active : fresh.active = some index) (mutexes : fresh.mutexes = machine.mutexes)
    (code : fresh.code = machine.code) :
    machine.Launched (fresh.play (List.replicate 3 .work)) index (machine.firstAnswer index)
      (machine.firstReady index entry) := by
  have present : (fresh.runtime index).scheduler =
      some (.start (.main ⟨machine.todo, machine.code⟩)) := by rw [seen]
  have config : (fresh.runtime index).config = (machine.runtime index).config := by rw [seen]
  have current : (fresh.runtime index).current = .main := by rw [seen]
  have quiet : (fresh.runtime index).gate.afterOpening = 0 := by rw [seen]; exact quiet
  unfold firstAnswer firstReady
  split
  · rename_i room
    have room : ¬(fresh.runtime index).config.maxThreads ≤ 1 := config ▸ UInt32.not_le.mpr room
    rw [issue_makes went todo quiet present room]
    let threads := Scheduler.makeReady
      { Scheduler.start (.main ⟨machine.todo, machine.code⟩) with nextId := 1 + 1 }
      (fresh.newcomer index entry ⟨1⟩)
    have landed := (runtime_opened ((fresh.withTodo machine.todo).setScheduler index threads) index
      index).trans (if_pos rfl)
    rw [runtime_setScheduler] at landed
    constructor
    case current => exact (congrArg Runtime.current landed).trans current
    case seated =>
      refine ⟨threads, congrArg Runtime.scheduler landed, rfl, ?_, rfl⟩
      have size : (fresh.runtime index).config.stackSize = _ := congrArg _ config
      simp only [threads, newcomer, size]
      rfl
    case others =>
      intro other apart
      refine (runtime_opened _ index other).trans ?_
      rw [if_neg apart.symm, runtime_setScheduler_other _ apart]
      exact others other apart
    case active => exact active
    case mutexes => exact mutexes
    case todo => rfl
    case code => exact code
    case answers => rfl
    case outcome => exact went
  · rename_i full
    have full : (fresh.runtime index).config.maxThreads ≤ 1 := config ▸ UInt32.not_lt.mp full
    rw [issue_fails went todo quiet present full]
    have landed := (runtime_opened (fresh.withTodo machine.todo) index index).trans (if_pos rfl)
    constructor
    case current => exact (congrArg Runtime.current landed).trans current
    case seated =>
      exact ⟨_, (congrArg Runtime.scheduler landed).trans present, rfl, rfl, rfl⟩
    case others =>
      intro other apart
      refine (runtime_opened _ index other).trans ?_
      rw [if_neg apart.symm]
      exact others other apart
    case active => exact active
    case mutexes => exact mutexes
    case todo => rfl
    case code => exact code
    case answers => rw [config]
    case outcome => exact went

namespace Unused

theorem closed (machine : Machine n k C ν) (index : Fin n) (todo : List (Action n k C ν)) :
    (machine.setGate index (machine.runtime index).gate.close.1 |>.withTodo todo).runtime index =
      { machine.runtime index with gate := (machine.runtime index).gate.close.1 } :=
  machine.runtime_setGate_self index _

variable {todo : List (Action n k C ν)}

theorem absent_closed (unused : machine.Unused index) :
    ((machine.setGate index (machine.runtime index).gate.close.1 |>.withTodo todo).runtime
      index).scheduler = none := by
  rw [closed]
  exact unused.absent

theorem quiet_closed (unused : machine.Unused index) :
    ((machine.setGate index (machine.runtime index).gate.close.1 |>.withTodo todo).runtime
      index).gate.afterOpening = 0 := by
  rw [closed]
  exact (Gate.afterOpening_of_close rfl).trans unused.quiet

theorem enters (unused : machine.Unused index) (going : machine.outcome = none)
    {request : Call n k C ν} {inner : List (Action n k C ν)}
    (actions : request.actions = .close index :: inner) : (machine.call request).step =
      (machine.setGate index (machine.runtime index).gate.close.1).withTodo
        (inner ++ machine.todo) := by
  have todo : (machine.call request).todo = .close index :: (inner ++ machine.todo) :=
    congrArg (· ++ machine.todo) actions
  refine (step_close ?_ todo ?_).trans rfl
  · exact going
  · exact Gate.silent_of_uninstalled unused.uninstalled

/-- A call that comes to nothing passes the gate. -/
theorem passes (unused : machine.Unused index) (going : machine.outcome = none)
    {request : Call n k C ν} {inner : List (Action n k C ν)} {answer : Reply ν}
    (call : IdleCall index request inner answer) :
    machine.play (Move.calling request 4) = { machine.passed index with answer } := by
  change (machine.call request).step.play (List.replicate 3 .work) = _
  rw [unused.enters going call.actions, passed, ← machine.opened_setGate]
  exact call.comes going unused.quiet_closed unused.absent_closed

theorem idle (unused : machine.Unused index) (going : machine.outcome = none) :
    machine.Idle index := by
  constructor
  case yields => exact unused.passes going .yield
  case ready => exact unused.passes going .numReady
  case completed => exact unused.passes going .numCompleted
  case tryJoins => exact fun thread => unused.passes going .tryJoin
  case current =>
    change (machine.call (.current index)).step = _
    refine (step_eq ?_ rfl).trans ?_
    · exact going
    · rw [← unused.current]
      rfl

theorem busy (unused : machine.Unused index) (going : machine.outcome = none)
    (driven : machine.active.isSome = true) (entry : C) :
    machine.play (Move.calling (.create index entry) 4) = { machine.passed index with
      answer := .failed ⟨Failure.busy, .otherRuntimeActive⟩
      log := .otherRuntimeActive :: machine.log } := by
  change (machine.call (.create index entry)).step.play (List.replicate 3 .work) = _
  rw [unused.enters going rfl, passed, ← machine.opened_setGate]
  exact create_busy going rfl unused.quiet_closed unused.absent_closed driven

/-- To give up a runtime that was not used takes no more than that. -/
theorem given_up (unused : machine.Unused index) (going : machine.outcome = none)
    (undriven : machine.active ≠ some index) :
    machine.play (Move.calling (.dropRuntime index) 3) =
      { machine.freed index with answer := .done } := by
  have asked : (machine.call (.dropRuntime index)).step =
      machine.withTodo (.discard index :: machine.todo) := by
    refine (step_eq ?_ rfl).trans ?_
    · exact going
    · exact if_neg undriven
  have freed : (machine.withTodo (.discard index :: machine.todo)).step =
      (machine.freed index).withTodo (.reply .done :: machine.todo) := by
    refine (step_eq ?_ rfl).trans ?_
    · exact going
    · refine (discard_eq _ index).trans ?_
      rw [if_pos (by exact unused.current)]
      rfl
  change (machine.call (.dropRuntime index)).step.step.step = _
  rw [asked, freed]
  refine (step_eq ?_ rfl).trans rfl
  exact going

/-- The first creation of a thread goes as far as the activation of the runtime. -/
theorem starts (unused : machine.Unused index) (going : machine.outcome = none)
    (idle : machine.active = none) (entry : C) :
    match (machine.runtime index).gate.close.1.start
        (machine.runtime index).config.timerInterval with
    | .ok gate => ∃ log, machine.play (Move.calling (.create index entry) 2) =
        { (machine.setGate index (machine.runtime index).gate.close.1).activated index gate with
          todo := .issue index entry :: machine.todo, log }
    | .error failure => (machine.play (Move.calling (.create index entry) 2)).outcome =
        some (.aborted (.gate failure)) := by
  have activates := ((machine.setGate index (machine.runtime index).gate.close.1).withTodo
    (.enroll index entry :: machine.todo)).step_activates going rfl unused.absent_closed idle
  rw [closed] at activates
  change match (machine.runtime index).gate.close.1.start _ with
    | .ok gate => ∃ log, (machine.call (.create index entry)).step.step = _
    | .error failure => (machine.call (.create index entry)).step.step.outcome = _
  rw [unused.enters going rfl]
  exact activates

theorem launches (unused : machine.Unused index) (going : machine.outcome = none)
    (idle : machine.active = none) (entry : C)
    (able : (machine.runtime index).gate.kind.starts
      (machine.runtime index).config.timerInterval = true) :
    machine.Launched (machine.play (Move.calling (.create index entry) 5)) index
      (machine.firstAnswer index) (machine.firstReady index entry) := by
  have kind : (machine.runtime index).gate.close.1.kind = (machine.runtime index).gate.kind :=
    (Gate.keeps_close _).kind
  obtain ⟨gate, started⟩ := Gate.start_of_starts (kind ▸ able)
  have quiet : gate.afterOpening = 0 :=
    (Gate.keeps_start started).quiet ((Gate.afterOpening_of_close rfl).trans unused.quiet)
  have starts := unused.starts going idle entry
  rw [started] at starts
  obtain ⟨log, activated⟩ := starts
  change Launched machine ((machine.play (Move.calling (.create index entry) 2)).play
    (List.replicate 3 .work)) index _ _
  rw [activated]
  refine Launched.of_issuing gate ?went rfl ?seen quiet ?others ?active ?mutexes ?code
  case went => exact going
  case seen =>
    refine (runtime_activated _ index index gate).trans ?_
    rw [if_pos rfl, setGate, runtime_setRuntime_self]
    rfl
  case others =>
    intro other apart
    refine (runtime_activated _ index other gate).trans ?_
    rw [if_neg apart.symm, setGate, runtime_setRuntime, if_neg apart.symm]
  case active | mutexes | code => rfl

/-- The first creation of a thread on a runtime whose gate cannot be started ends the process. -/
theorem aborts (unused : machine.Unused index) (going : machine.outcome = none)
    (idle : machine.active = none) (entry : C)
    (unable : (machine.runtime index).gate.kind.starts
      (machine.runtime index).config.timerInterval = false) :
    ∃ failure, (machine.play (Move.calling (.create index entry) 2)).outcome =
      some (.aborted (.gate failure)) := by
  have kind : (machine.runtime index).gate.close.1.kind = (machine.runtime index).gate.kind :=
    (Gate.keeps_close _).kind
  obtain ⟨failure, refused⟩ := Gate.start_of_not_starts (kind ▸ unable)
  have starts := unused.starts going idle entry
  rw [refused] at starts
  exact ⟨failure, starts⟩

end Unused

/-- The machine once the runtime that drives it has been detached from it and given up. -/
def surrendered (machine : Machine n k C ν) (index : Fin n) : Machine n k C ν :=
  let gate := (machine.runtime index).gate.close.1.disarm.reopen.1
  { (machine.setGate index gate).freed index with active := none }

/-- Thread 0 gives up the runtime that drives it, and the timer does not come in between. -/
theorem surrenders (going : machine.outcome = none) (driver : machine.active = some index)
    (current : (machine.runtime index).current = .main)
    (silent : (machine.runtime index).gate.close.2 = false)
    (quiet : (machine.runtime index).gate.afterOpening = 0) :
    machine.play (Move.calling (.dropRuntime index) 6) =
      { machine.surrendered index with answer := .done } := by
  let shut := machine.setGate index (machine.runtime index).gate.close.1
  let loose : Machine n k C ν :=
    { machine.setGate index (machine.runtime index).gate.close.1.disarm with active := none }
  let left : Machine n k C ν :=
    { machine.setGate index (machine.runtime index).gate.close.1.disarm.reopen.1 with
      active := none }
  have asked : (machine.call (.dropRuntime index)).step = machine.withTodo
      (.close index :: .deactivate index :: .reopen index :: .discard index :: machine.todo) :=
    (machine.step_withTodo going _ _).trans (if_pos driver)
  have closed : step (machine.withTodo (.close index :: .deactivate index :: .reopen index ::
      .discard index :: machine.todo)) =
        shut.withTodo (.deactivate index :: .reopen index :: .discard index :: machine.todo) :=
    (machine.step_withTodo going _ _).trans (closeGate_silent _ silent)
  have detached : step (shut.withTodo (.deactivate index :: .reopen index :: .discard index ::
      machine.todo)) = loose.withTodo (.reopen index :: .discard index :: machine.todo) := by
    refine (shut.step_withTodo going _ _).trans ?_
    simp only [perform, deactivate, runtime_withTodo, shut, runtime_setGate_self]
    exact congrArg (fun after => withTodo { after with active := none }
      (.reopen index :: .discard index :: machine.todo)) (machine.setGate_setGate index _ _)
  have seen : (loose.runtime index).gate = (machine.runtime index).gate.close.1.disarm :=
    congrArg Runtime.gate (machine.runtime_setGate_self index _)
  have opened : step (loose.withTodo (.reopen index :: .discard index :: machine.todo)) =
      left.withTodo (.discard index :: machine.todo) := by
    have still : (loose.runtime index).gate.afterOpening = 0 := by
      rw [seen]
      exact (Gate.afterOpening_of_close rfl).trans quiet
    refine (loose.step_withTodo going _ _).trans ?_
    refine ((loose.withTodo (.discard index :: machine.todo)).reopenGate_quiet still).trans ?_
    rw [runtime_withTodo, seen]
    exact congrArg (fun after => withTodo { after with active := none }
      (.discard index :: machine.todo)) (machine.setGate_setGate index _ _)
  have freed : step (left.withTodo (.discard index :: machine.todo)) =
      (machine.surrendered index).withTodo (.reply .done :: machine.todo) := by
    have main : (left.runtime index).current = .main :=
      (congrArg Runtime.current (machine.runtime_setGate_self index _)).trans current
    refine (left.step_withTodo going _ _).trans ?_
    refine ((left.withTodo machine.todo).discard_eq index).trans ?_
    rw [runtime_withTodo, if_pos main]
    rfl
  change (machine.call (.dropRuntime index)).step.step.step.step.step.step = _
  rw [asked, closed, detached, opened, freed]
  exact (machine.surrendered index).step_withTodo going (.reply .done) machine.todo

/-- A decision by which nobody parks leaves the mutexes as they are. -/
theorem mutexes_schedule (machine : Machine n k C ν) (index : Fin n) :
    (machine.schedule index none).mutexes = machine.mutexes := by
  simp only [schedule]
  split
  · rfl
  · split
    · rfl
    · split
      · rfl
      · split
        · rfl
        · split <;> rfl

/-- An entry of the timer keeps to the active runtime. -/
theorem entry_others (machine : Machine n k C ν) {driver : Fin n}
    (active : machine.active = some driver) (apart : index ≠ driver) :
    ∀ piece ∈ [.timer, .close driver, .schedule driver none],
      (machine.perform piece).runtime index = machine.runtime index ∧
        (machine.perform piece).mutexes = machine.mutexes := by
  have elsewhere (gate : Gate) :
      (machine.setGate driver gate).runtime index = machine.runtime index :=
    (machine.runtime_setRuntime driver index _).trans (if_neg apart.symm)
  intro piece member
  simp only [List.mem_cons, List.not_mem_nil, or_false] at member
  rcases member with rfl | rfl | rfl
  · simp only [perform, enterTimer, active]
    exact ⟨rfl, rfl⟩
  · simp only [perform, closeGate]
    split
    · exact ⟨elsewhere _, rfl⟩
    · exact ⟨elsewhere _, rfl⟩
  · exact ⟨machine.schedule_others none apart, machine.mutexes_schedule driver⟩

end Machine

/-- A runtime lives until it is given up, which detaches it first if it is the active one. -/
def Machine.Lives (machine : Machine n k C ν) (index : Fin n) : Prop :=
  (machine.runtime index).live = true ∧ ¬machine.discards index

/-- How runtimes take turns in driving the OS thread. -/
structure Governed (machine : Machine n k C ν) : Prop where
  single : ∀ index other, (machine.runtime index).scheduler.isSome = true →
    (machine.runtime other).scheduler.isSome = true → index = other
  governs : ∀ index, machine.active = some index ↔
    machine.Lives index ∧ (machine.runtime index).scheduler.isSome = true
  /-- Own code finds no runtime half given up. -/
  lives : machine.inOwnCode = true → ∀ index,
    machine.Lives index ↔ (machine.runtime index).live = true
  busy : machine.inOwnCode = true → ∀ driver index entry, machine.active = some driver →
    (machine.runtime index).live = true → index ≠ driver →
      machine.play (Move.calling (.create index entry) 4) = { machine.passed index with
        answer := .failed ⟨Failure.busy, .otherRuntimeActive⟩
        log := .otherRuntimeActive :: machine.log }
  idle : machine.inOwnCode = true → ∀ index, (machine.runtime index).live = true →
    (machine.runtime index).scheduler = none → machine.Idle index
  /-- Where gates hold the timer back together, the entry of the active runtime's timer may come
  in at the closing of another one's gate. It does nothing to the other one, -/
  entry : ∀ driver index, machine.active = some driver → index ≠ driver →
    ∀ piece ∈ [.timer, .close driver, .schedule driver none],
      (machine.perform piece).runtime index = machine.runtime index ∧
        (machine.perform piece).mutexes = machine.mutexes
  /-- and once it has left, the calls come to what they come to without it. -/
  entered : ∀ index, (machine.runtime index).live = true →
    (machine.runtime index).scheduler = none →
      ∀ request inner answer, Machine.IdleCall index request inner answer → ∀ rest,
        (machine.withTodo (.closed index :: (inner ++ rest))).play (List.replicate 4 .work) =
          { ((machine.settleGate index true).withTodo rest).opened index with answer }
  leaves : machine.inOwnCode = true → ∀ index, (machine.runtime index).live = true →
    machine.active ≠ some index → machine.play (Move.calling (.dropRuntime index) 3) =
      { machine.freed index with answer := .done }
  surrenders : machine.inOwnCode = true → ∀ index, machine.active = some index →
    (machine.runtime index).current = .main → (machine.runtime index).gate.close.2 = false →
      machine.play (Move.calling (.dropRuntime index) 6) =
        { machine.surrendered index with answer := .done }
  succession : machine.inOwnCode = true → ∀ index other entry, machine.active = some index →
    (machine.runtime index).current = .main → (machine.runtime index).gate.close.2 = false →
      other ≠ index → (machine.runtime other).live = true →
        (machine.runtime other).gate.kind.starts (machine.runtime other).config.timerInterval =
          true → Machine.Launched { machine.surrendered index with answer := .done }
            (machine.play (Move.calling (.dropRuntime index) 6 ++
              Move.calling (.create other entry) 5)) other (machine.firstAnswer other)
                (machine.firstReady other entry)
  /-- Whenever the runtime that drives is given up, own code goes on without one. -/
  surrendered : ∀ index rest, machine.todo = .discard index :: rest →
    (machine.runtime index).scheduler.isSome = true → machine.active = none ∧
      ∃ log, machine.step.step =
        { (machine.withTodo rest).freed index with answer := .done, log } ∧
          machine.step.step.inOwnCode = true
  launches : machine.inOwnCode = true → machine.active = none → ∀ index entry,
    (machine.runtime index).live = true → (machine.runtime index).gate.kind.starts
      (machine.runtime index).config.timerInterval = true →
        machine.Launched (machine.play (Move.calling (.create index entry) 5)) index
          (machine.firstAnswer index) (machine.firstReady index entry)
  aborts : machine.inOwnCode = true → machine.active = none → ∀ index entry,
    (machine.runtime index).live = true → (machine.runtime index).gate.kind.starts
      (machine.runtime index).config.timerInterval = false →
        ∃ failure, (machine.play (Move.calling (.create index entry) 2)).outcome =
          some (.aborted (.gate failure))

theorem Course.governs (course : Course past machine) (going : machine.outcome = none) :
    Governed machine := by
  have driven := course.driven going
  have elsewhere (inside : machine.inOwnCode = true) (index : Fin n) :
      ¬machine.discards index := by
    obtain ⟨host, rest, todo⟩ := Machine.own_of_inOwnCode inside
    exact Machine.Driven.undiscarded todo (by simp) (by simp) index
  have absent {driver index : Fin n} (active : machine.active = some driver)
      (apart : index ≠ driver) : (machine.runtime index).scheduler = none := by
    refine Option.not_isSome_iff_eq_none.mp fun present => apart ?_
    rcases driven.undriven index present with active' | ⟨idle, -⟩
    · exact Option.some.inj (active'.symm.trans active)
    · cases idle.symm.trans active
  have unused {index : Fin n} (inside : machine.inOwnCode = true)
      (live : (machine.runtime index).live = true) (undriven : machine.active ≠ some index) :
      machine.Unused index := by
    refine driven.unused_of live (Option.not_isSome_iff_eq_none.mp fun present => ?_)
    exact undriven ((driven.present_iff (elsewhere inside)).mp present)
  constructor
  case single => exact fun index other present present' => driven.single present present'
  case governs =>
    intro index
    constructor
    · intro active
      obtain ⟨live, present⟩ := driven.drives index active
      refine ⟨⟨live, ?_⟩, present⟩
      rintro ⟨rest, left | left⟩
      · cases active.symm.trans (driven.idle_of_reopen left)
      · exact (driven.of_discard left).1 active
    · rintro ⟨⟨-, kept⟩, present⟩
      exact (driven.undriven index present).resolve_right fun left => kept left.2
  case lives => exact fun inside index => and_iff_left (elsewhere inside index)
  case busy =>
    intro inside driver index entry active live apart
    have undriven : machine.active ≠ some index :=
      fun active' => apart (Option.some.inj (active'.symm.trans active))
    exact (unused inside live undriven).busy going (by rw [active]; rfl) entry
  case idle => exact fun inside index live absent => (driven.unused_of live absent).idle going
  case entry => exact fun driver index active apart => machine.entry_others active apart
  case entered =>
    intro index live absent request inner answer call rest
    have seen : (machine.settleGate index true).runtime index = { machine.runtime index with
        gate := { (machine.runtime index).gate with closed := true } } :=
      machine.runtime_setGate_self index _
    change ((machine.withTodo (.closed index :: (inner ++ rest))).step).play
      (List.replicate 3 .work) = _
    rw [machine.step_withTodo going]
    have quiet : ((machine.settleGate index true).runtime index).gate.afterOpening = 0 :=
      (congrArg (fun runtime => runtime.gate.afterOpening) seen).trans (driven.quiet index)
    have absent : ((machine.settleGate index true).runtime index).scheduler = none :=
      (congrArg Runtime.scheduler seen).trans absent
    have goes : (machine.settleGate index true).outcome = none := going
    exact call.comes goes quiet absent
  case leaves =>
    intro inside index live undriven
    exact (unused inside live undriven).given_up going undriven
  case surrenders =>
    intro inside index active current silent
    exact Machine.surrenders going active current silent (driven.quiet index)
  case succession =>
    intro inside index other entry active current silent apart live able
    have same : Machine.runtime { machine.surrendered index with answer := .done } other =
        machine.runtime other := by
      change (Machine.freed _ index).runtime other = _
      rw [Machine.freed, Machine.runtime_setRuntime, if_neg apart.symm, Machine.setGate,
        Machine.runtime_setRuntime, if_neg apart.symm]
    have unused := unused inside live
      fun active' => apart (Option.some.inj (active'.symm.trans active))
    have kept : Machine.Unused { machine.surrendered index with answer := .done } other :=
      ⟨same ▸ unused.absent, same ▸ unused.uninstalled, same ▸ unused.quiet,
        same ▸ unused.current⟩
    have launched := kept.launches going rfl entry (by rwa [same])
    rw [Machine.firstAnswer, Machine.firstReady, Machine.newcomer, same] at launched
    rw [Machine.play_append, Machine.surrenders going active current silent (driven.quiet index)]
    exact launched
  case surrendered =>
    intro index rest todo present
    obtain ⟨apart, host, later, rfl, -⟩ := driven.of_discard todo
    have idle := ((driven.undriven index present).resolve_left apart).1
    generalize left : (machine.withTodo (.own host :: later)).freed index = after
    obtain ⟨log, freed⟩ : ∃ log, machine.step =
        Machine.push { after with log } [.reply .done] := by
      subst left
      exact ⟨_, (Machine.step_eq going todo).trans (Machine.discard_eq _ index)⟩
    have went : after.outcome = none := left ▸ going
    have todo : after.todo = .own host :: later := left ▸ rfl
    have replied : machine.step.step = { after with answer := .done, log } := by
      rw [freed]
      refine (Machine.step_withTodo { after with log } went (.reply .done) after.todo).trans rfl
    refine ⟨idle, log, replied, ?_⟩
    rw [replied]
    exact Machine.inOwnCode_eq todo
  case launches =>
    intro inside idle index entry live able
    exact (unused inside live (by simp [idle])).launches going idle entry able
  case aborts =>
    intro inside idle index entry live unable
    exact (unused inside live (by simp [idle])).aborts going idle entry unable

/-- The context makes a thread on its first runtime and tries to on the second, gives the
first one up and makes one on the second. -/
def succeeding : List (Move 2 1 Unit Nat) :=
  Move.calling (.create former ()) 5 ++ Move.calling (.create latter ()) 4 ++
    Move.calling (.dropRuntime former) 6 ++ Move.calling (.create latter ()) 5

theorem governs_succeeding :
    ((paired .standard .cooperative ()).play succeeding).active = some 1 ∧
      Governed ((paired .standard .cooperative ()).play succeeding) := by
  have course := (Course.paired .standard .cooperative ()).play succeeding (by decide)
  exact ⟨rfl, course.governs rfl⟩

/-- A runtime whose gate cannot be installed does not follow the one that is given up. -/
theorem launch_refused :
    ¬∀ (past : List (Moment 2 1 Unit Nat)) (machine : Machine 2 1 Unit Nat),
      Course past machine → machine.outcome = none → machine.inOwnCode = true →
        ∀ index other, machine.active = some index →
          (machine.runtime index).current = .main → other ≠ index →
            (machine.runtime other).live = true →
              (machine.play (Move.calling (.dropRuntime index) 6 ++
                Move.calling (.create other ()) 5)).active = some other := by
  intro always
  have course := (Course.paired .standard .refusing ()).play (Move.calling (.create 0 ()) 5)
    (by decide)
  exact absurd (always _ _ course rfl rfl 0 1 rfl rfl (by decide) rfl) (by decide)

end UserThreads
