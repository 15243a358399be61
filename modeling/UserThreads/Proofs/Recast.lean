import UserThreads.Proofs.Contexts
import UserThreads.Proofs.Refit

/-!
Machines whose threads are to go on otherwise: the contexts in all blocks put through a
function of the thread. Neither the policy nor any other work looks at a context, so that
all of it comes to the same.
-/

namespace UserThreads

variable {n k : Nat} {C ν : Type} {κ κ' : Type}

def Block.recast (cast : ThreadId → κ → κ') (block : Block κ ν) : Block κ' ν :=
  { block with context := cast block.id block.context }

namespace OrderedQueue

def map {α β : Type} (change : α → β) (queue : OrderedQueue α) : OrderedQueue β :=
  ⟨queue.elements.map change⟩

variable {α β ι : Type} [Aged α ι] [Aged β ι] (change : α → β)

theorem insertByAge_map (ages : ∀ element, Aged.age (change element) = Aged.age element)
    (element : α) (elements : List α) :
    insertByAge (change element) (elements.map change) =
      (insertByAge element elements).map change := by
  induction elements with
  | nil => rfl
  | cons first rest ih =>
      simp only [List.map_cons, insertByAge, ages]
      split
      · rw [ih, List.map_cons]
      · rfl

theorem push_map (ages : ∀ element, Aged.age (change element) = Aged.age element)
    (queue : OrderedQueue α) (element : α) :
    (queue.map change).push (change element) = (queue.push element).map change :=
  congrArg mk (insertByAge_map change ages element queue.elements)

omit [Aged α ι] [Aged β ι] in
theorem length_map (queue : OrderedQueue α) : (queue.map change).length = queue.length :=
  List.length_map change

omit [Aged α ι] [Aged β ι] in
theorem popFront_map (queue : OrderedQueue α) :
    (queue.map change).popFront? =
      queue.popFront?.map fun (first, rest) => (change first, rest.map change) := by
  obtain ⟨elements⟩ := queue
  cases elements <;> rfl

omit [Aged α ι] [Aged β ι] in
theorem extract_map (wanted : β → Bool) (elements : List α) :
    extract? wanted (elements.map change) =
      (extract? (fun element => wanted (change element)) elements).map
        fun (found, others) => (change found, others.map change) := by
  induction elements with
  | nil => rfl
  | cons first rest ih =>
      simp only [List.map_cons, extract?]
      split
      · rfl
      · rw [ih]
        cases extract? _ rest <;> rfl

theorem removeById_map [DecidableEq ι] (ids : ∀ element, Aged.id (change element) = Aged.id element)
    (queue : OrderedQueue α) (id : ι) :
    (queue.map change).removeById? id =
      (queue.removeById? id).map fun (found, rest) => (change found, rest.map change) := by
  simp only [removeById?, map, extract_map, ids]
  cases extract? _ queue.elements <;> rfl

end OrderedQueue

namespace WaitQueue

variable (cast : ThreadId → κ → κ') (queue : WaitQueue κ ν)

def recast : WaitQueue κ' ν := ⟨queue.threads.map (Block.recast cast), queue.length⟩

theorem push_recast (block : Block κ ν) :
    (queue.recast cast).push (block.recast cast) = (queue.push block).recast cast := by
  have pushed := OrderedQueue.push_map (Block.recast cast) (fun _ => rfl) queue.threads block
  simp only [push, recast, pushed, OrderedQueue.length_map]

theorem pop_recast :
    (queue.recast cast).pop = (queue.pop.1.map (Block.recast cast), queue.pop.2.recast cast) := by
  obtain ⟨⟨elements⟩, length⟩ := queue
  cases elements with
  | nil => rfl
  | cons first rest =>
      have counted : (rest.map (Block.recast (ν := ν) cast)).length = rest.length :=
        List.length_map _
      simp only [pop, recast, OrderedQueue.map, OrderedQueue.popFront?, List.map_cons,
        OrderedQueue.length, counted]
      rfl

end WaitQueue

def Mutex.recast (cast : ThreadId → κ → κ') (cells : Mutex κ ν) : Mutex κ' ν :=
  { cells with waiters := cells.waiters.recast cast }

namespace Scheduler

variable (cast : ThreadId → κ → κ') (scheduler : Scheduler κ ν)

def recast : Scheduler κ' ν where
  current := scheduler.current.recast cast
  ready := scheduler.ready.map (Block.recast cast)
  completed := scheduler.completed.map (Block.recast cast)
  nextId := scheduler.nextId

/-- The scheduler with another context in the running thread's block. -/
def withContext (context : κ) : Scheduler κ ν :=
  { scheduler with current := { scheduler.current with context } }

end Scheduler

def Rotation.recast (cast : ThreadId → κ → κ') (rotation : Rotation κ ν) : Rotation κ' ν where
  scheduler := rotation.scheduler.recast cast
  waiting := rotation.waiting.map (WaitQueue.recast cast)
  switch := rotation.switch
  event := rotation.event

namespace Scheduler

variable (cast : ThreadId → κ → κ') (scheduler : Scheduler κ ν)

theorem issueId_recast {cast : ThreadId → κ → κ} {scheduler : Scheduler κ ν} {context : κ}
    (block : Block κ ν) (maxThreads : UInt32) :
    ((scheduler.recast cast).withContext context).issueId block maxThreads =
      (scheduler.issueId block maxThreads).map fun (block, scheduler) =>
        (block, (scheduler.recast cast).withContext context) := by
  simp only [issueId]
  change (if maxThreads ≤ scheduler.nextId then _ else _) = _
  split <;> rfl

theorem makeReady_recast (block : Block κ ν) :
    (scheduler.recast cast).makeReady (block.recast cast) =
      (scheduler.makeReady block).recast cast := by
  have pushed := OrderedQueue.push_map (Block.recast cast) (fun _ => rfl)
    scheduler.ready { block with status := .ready }
  exact congrArg (fun ready => { scheduler.recast cast with ready }) pushed

theorem reap_recast (id : ThreadId) :
    (scheduler.recast cast).reap? id =
      (scheduler.reap? id).map (Prod.map (Block.recast cast) (recast cast)) := by
  have removed := OrderedQueue.removeById_map (Block.recast cast) (fun _ => rfl)
    scheduler.completed id
  simp only [reap?, recast, removed]
  cases scheduler.completed.removeById? id <;> rfl

theorem hasReady_recast : (scheduler.recast cast).hasReady = scheduler.hasReady := by
  obtain ⟨current, ⟨elements⟩, completed, nextId⟩ := scheduler
  cases elements <;> rfl

theorem outgoing_recast :
    (scheduler.recast cast).outgoing? = scheduler.outgoing?.map (Block.recast cast) := by
  change (if scheduler.current.status = .completed then _
    else if scheduler.current.age + 1 < Block.ageLimit then _ else none) = _
  rw [outgoing?, Block.growOlder?]
  split
  · rfl
  · split <;> rfl

theorem seat_recast (outgoing : ThreadId) (waiting : Option (WaitQueue κ ν)) :
    (scheduler.recast cast).seat outgoing (waiting.map (WaitQueue.recast cast)) =
      (scheduler.seat outgoing waiting).map (Rotation.recast cast) := by
  simp only [seat, recast, OrderedQueue.popFront_map]
  cases scheduler.ready.popFront? <;> rfl

theorem stay_recast (waiting : Option (WaitQueue κ ν)) :
    (scheduler.recast cast).stay (waiting.map (WaitQueue.recast cast)) =
      (scheduler.stay waiting).recast cast := by
  change (if scheduler.current.status = .blocked then _ else _) = _
  rw [stay]
  split <;> rfl

/-- A decision does not look at contexts. -/
theorem rotate_recast (waiting : Option (WaitQueue κ ν)) :
    (scheduler.recast cast).rotate (waiting.map (WaitQueue.recast cast)) =
      (scheduler.rotate waiting).map (Rotation.recast cast) := by
  have empty : (scheduler.recast cast).ready.isEmpty = scheduler.ready.isEmpty := by
    obtain ⟨current, ⟨elements⟩, completed, nextId⟩ := scheduler
    cases elements <;> rfl
  rw [rotate, rotate, empty, outgoing_recast]
  split
  · rw [stay_recast]
    rfl
  · cases scheduler.outgoing? with
    | none => rfl
    | some outgoing =>
        have status : (outgoing.recast cast).status = outgoing.status := rfl
        simp only [Option.map_some, status]
        cases outgoing.status with
        | ready =>
            have pushed := OrderedQueue.push_map (Block.recast cast) (fun _ => rfl)
              scheduler.ready outgoing
            have seated := seat_recast cast
              { scheduler with ready := scheduler.ready.push outgoing } outgoing.id waiting
            simp only [recast, ← pushed] at seated
            exact seated
        | completed =>
            have pushed := OrderedQueue.push_map (Block.recast cast) (fun _ => rfl)
              scheduler.completed outgoing
            have seated := seat_recast cast
              { scheduler with completed := scheduler.completed.push outgoing } outgoing.id waiting
            simp only [recast, ← pushed] at seated
            exact seated
        | blocked =>
            cases waiting with
            | none => rfl
            | some queue =>
                simp only [Option.map_some, WaitQueue.push_recast]
                exact seat_recast cast scheduler outgoing.id (some (queue.push outgoing))

end Scheduler

/-- What another machine has in the place of things of a machine: in its runtime's gate, in
the contexts of its threads, and in the answer to its last operation. -/
structure Guise (n k : Nat) (C ν : Type) where
  cast : ThreadId → Context n k C ν → Context n k C ν
  plan : Nat → Bool
  seen : Nat
  tally : GateTally
  /-- What the running thread's block says, which is out of date. -/
  context : Context n k C ν
  answer : Reply ν

def Gate.recast (gate : Gate) (guise : Guise n k C ν) : Gate :=
  { gate with plan := guise.plan, seen := guise.seen, tally := guise.tally }

def Runtime.recast (runtime : Runtime n k C ν) (guise : Guise n k C ν) : Runtime n k C ν :=
  { runtime with
    gate := runtime.gate.recast guise
    scheduler := runtime.scheduler.map fun scheduler =>
      (scheduler.recast guise.cast).withContext guise.context }

namespace Gate

variable {gate : Gate} {guise : Guise n k C ν}

theorem install_recast : (gate.recast guise).install = gate.install.map fun started =>
    started.recast { guise with
      tally := { guise.tally with installs := guise.tally.installs + 1 } } := by
  obtain ⟨kind⟩ := gate
  cases kind <;> rfl

theorem arm_recast (interval : Duration) :
    (gate.recast guise).arm interval = (gate.arm interval).map fun armed =>
      armed.recast { guise with
        tally := { guise.tally with arms := guise.tally.arms + 1, interval } } := by
  simp only [arm]
  change (if gate.kind = .signal ∧ (period interval).1 < 0 then _ else _) = _
  split <;> rfl

end Gate

namespace Machine

/-- The machine in another guise, as far as the runtime `home` and the threads parked on
mutexes go. -/
def recast (machine : Machine n k C ν) (home : Fin n) (guise : Guise n k C ν) :
    Machine n k C ν :=
  machine.refit (fun index runtime => if index = home then runtime.recast guise else runtime)
    (fun _ queue => queue.map (Block.recast guise.cast)) fun _ => guise.answer

variable {machine : Machine n k C ν} {home : Fin n} {guise : Guise n k C ν}
  {action : Action n k C ν} {rest : List (Action n k C ν)} {parking : Option (Fin k)}

@[simp] theorem runtime_recast :
    (machine.recast home guise).runtime home = (machine.runtime home).recast guise := by
  simp [recast]

theorem runtime_recast_other {index : Fin n} (other : index ≠ home) :
    (machine.recast home guise).runtime index = machine.runtime index := by
  simp [recast, other]

@[simp] theorem cells_recast (mutex : Fin k) :
    (machine.recast home guise).cells mutex = (machine.cells mutex).recast guise.cast := by
  rw [recast, cells_refit]
  rfl

@[simp] theorem current_recast (index : Fin n) :
    ((machine.recast home guise).runtime index).current = (machine.runtime index).current := by
  by_cases same : index = home
  · subst same
    rw [runtime_recast]
    rfl
  · rw [runtime_recast_other same]

@[simp] theorem active_recast : (machine.recast home guise).active = machine.active := rfl

@[simp] theorem config_recast :
    ((machine.recast home guise).runtime home).config = (machine.runtime home).config := by
  rw [runtime_recast]
  rfl

@[simp] theorem gate_recast :
    ((machine.recast home guise).runtime home).gate =
      (machine.runtime home).gate.recast guise := by
  rw [runtime_recast]
  rfl

theorem scheduler_recast :
    ((machine.recast home guise).runtime home).scheduler =
      (machine.runtime home).scheduler.map fun scheduler =>
        (scheduler.recast guise.cast).withContext guise.context := by
  rw [runtime_recast]
  rfl

/-- What is put in the place of the runtime may bring other counts and another context. -/
theorem setRuntime_recast (runtime : Runtime n k C ν) (seen : Nat) (tally : GateTally)
    (context : Context n k C ν) :
    (machine.recast home guise).setRuntime home
        (runtime.recast { guise with seen, tally, context }) =
      (machine.setRuntime home runtime).recast home { guise with seen, tally, context } := by
  refine ext_places (funext fun index => ?_) (funext fun mutex => ?_) rfl
  · by_cases same : home = index
    · subst same
      simp
    · rw [runtime_recast_other (Ne.symm same), runtime_setRuntime, runtime_setRuntime,
        if_neg same, if_neg same, runtime_recast_other (Ne.symm same)]
  · rw [cells_setRuntime, cells_recast, cells_recast, cells_setRuntime]

theorem setGate_recast (gate : Gate) (seen : Nat) (tally : GateTally) :
    (machine.recast home guise).setGate home (gate.recast { guise with seen, tally }) =
      (machine.setGate home gate).recast home { guise with seen, tally } := by
  rw [setGate, runtime_recast]
  exact setRuntime_recast { machine.runtime home with gate } seen tally guise.context

theorem setScheduler_recast (scheduler : Scheduler (Context n k C ν) ν) :
    (machine.recast home guise).setScheduler home
        ((scheduler.recast guise.cast).withContext guise.context) =
      (machine.setScheduler home scheduler).recast home guise := by
  rw [setScheduler, runtime_recast]
  exact setRuntime_recast { machine.runtime home with scheduler := some scheduler } guise.seen
    guise.tally guise.context

theorem setMutex_recast (mutex : Fin k) (cells : Mutex (Context n k C ν) ν) :
    (machine.recast home guise).setMutex mutex (cells.recast guise.cast) =
      (machine.setMutex mutex cells).recast home guise :=
  setMutex_refit mutex rfl

theorem reap_recast (thread : ThreadId) :
    (machine.recast home guise).reap? home thread =
      (machine.reap? home thread).map
        (Prod.map (Block.recast guise.cast) (recast · home guise)) := by
  rw [reap?, scheduler_recast, reap?]
  cases (machine.runtime home).scheduler with
  | none => rfl
  | some scheduler =>
      have reaped : ((scheduler.recast guise.cast).withContext guise.context).reap? thread =
          ((scheduler.recast guise.cast).reap? thread).map
            (Prod.map id (Scheduler.withContext · guise.context)) := by
        simp only [Scheduler.reap?, Scheduler.withContext]
        cases (scheduler.recast guise.cast).completed.removeById? thread <;> rfl
      simp only [Option.map_some, reaped, Scheduler.reap_recast]
      cases scheduler.reap? thread with
      | none => rfl
      | some found =>
          obtain ⟨block, scheduler⟩ := found
          simp only [Option.map_some, Prod.map_apply, id, setScheduler_recast]

theorem wake_recast (block : Block (Context n k C ν) ν) :
    (machine.recast home guise).wake home (block.recast guise.cast) =
      (machine.wake home block).recast home guise := by
  simp only [wake, runtime_report, scheduler_recast]
  cases (machine.runtime home).scheduler with
  | none => rfl
  | some scheduler =>
      have seated : ((machine.report (.threadWoken block.id)).recast home guise).setScheduler home
          (((scheduler.makeReady block).recast guise.cast).withContext guise.context) = _ :=
        setScheduler_recast _
      rw [← Scheduler.makeReady_recast] at seated
      exact seated

theorem popWaiter_recast (mutex : Fin k) :
    (machine.recast home guise).popWaiter mutex =
      ((machine.popWaiter mutex).1.map (Block.recast guise.cast),
        (machine.popWaiter mutex).2.recast home guise) := by
  have popped := WaitQueue.pop_recast guise.cast (machine.cells mutex).waiters
  have waiters : ((machine.cells mutex).recast guise.cast).waiters =
      (machine.cells mutex).waiters.recast guise.cast := rfl
  simp only [popWaiter, cells_recast, waiters, popped]
  exact congrArg (Prod.mk _)
    (setMutex_recast mutex { machine.cells mutex with
      waiters := (machine.cells mutex).waiters.pop.2 })

theorem blockCurrent_recast :
    (machine.recast home guise).blockCurrent home =
      (machine.blockCurrent home).recast home guise := by
  rw [blockCurrent, scheduler_recast, blockCurrent]
  cases (machine.runtime home).scheduler with
  | none => rfl
  | some scheduler =>
      exact setScheduler_recast
        { scheduler with current := { scheduler.current with status := .blocked } }

/-- A new thread is not to go on otherwise. -/
theorem issue_recast {entry : C}
    (fresh : ∀ scheduler, (machine.runtime home).scheduler = some scheduler →
      ∀ context, guise.cast ⟨scheduler.nextId⟩ context = context) :
    (machine.recast home guise).issue home entry =
      (machine.issue home entry).recast home guise := by
  simp only [issue, scheduler_recast, config_recast]
  cases present : (machine.runtime home).scheduler with
  | none => rfl
  | some scheduler =>
      simp only [Option.map_some, Scheduler.issueId_recast]
      cases issued : scheduler.issueId
          (.new (machine.runtime home).config.stackSize ⟨[.begin], entry⟩)
          (machine.runtime home).config.maxThreads with
      | error cause => rfl
      | ok made =>
          obtain ⟨block, scheduler'⟩ := made
          have kept : block.recast guise.cast = block := by
            obtain ⟨rfl, -⟩ := Scheduler.issueId_eq issued
            exact congrArg (fun context =>
              { Block.new (machine.runtime home).config.stackSize context with
                id := ⟨scheduler.nextId⟩ }) (fresh scheduler present ⟨[.begin], entry⟩)
          have seated : (machine.recast home guise).setScheduler home
              (((scheduler'.makeReady block).recast guise.cast).withContext guise.context) = _ :=
            setScheduler_recast _
          rw [← Scheduler.makeReady_recast, kept] at seated
          exact congrArg (fun machine => (machine.report (.threadCreated block.id)).finishWith home
            (.id block.id)) seated

/-- The runtime that is made the active one starts with the running thread alone. -/
theorem activate_recast : ∃ tally context, (machine.recast home guise).activate home =
    (machine.activate home).recast home { guise with tally, context } := by
  simp only [activate, gate_recast, config_recast, Gate.install_recast]
  cases (machine.runtime home).gate.install with
  | error failure => exact ⟨guise.tally, guise.context, rfl⟩
  | ok installed =>
      simp only [Except.map, Gate.arm_recast]
      cases installed.arm (machine.runtime home).config.timerInterval with
      | error failure => exact ⟨guise.tally, guise.context, rfl⟩
      | ok armed =>
          let tally := { guise.tally with
            installs := guise.tally.installs + 1
            arms := guise.tally.arms + 1
            interval := (machine.runtime home).config.timerInterval }
          let context : Context n k C ν := ⟨machine.todo, machine.code⟩
          have seated : ((machine.reportAll installed.installationLog).recast home guise).setRuntime
              home (Runtime.recast { machine.runtime home with
                gate := armed, scheduler := some (.start (.main context)), current := .main }
                { guise with tally, context }) = _ :=
            setRuntime_recast _ guise.seen tally context
          refine ⟨tally, context, ?_⟩
          rw [runtime_recast]
          exact congrArg (fun after => report { after with active := some home }
            (.runtimeStarted (machine.runtime home).config.preemption
              (machine.runtime home).config.timerInterval)) seated

theorem exitProcess_recast : ∃ tally, (machine.recast home guise).exitProcess home =
    (machine.exitProcess home).recast home { guise with tally } := by
  let tally := { guise.tally with disarms := guise.tally.disarms + 1 }
  refine ⟨tally, ?_⟩
  have disarmed : ((machine.report (.lastRunnable (machine.runtime home).current)).recast home
      guise).setGate home ((machine.runtime home).gate.disarm.recast { guise with tally }) = _ :=
    setGate_recast _ guise.seen tally
  simp only [exitProcess, current_recast, gate_recast]
  exact congrArg (fun machine => { machine with outcome := some .exited }) disarmed

theorem finish_recast (value : ν) : ∃ tally, (machine.recast home guise).finish home value =
    (machine.finish home value).recast home { guise with tally } := by
  rw [finish, scheduler_recast, finish]
  cases (machine.runtime home).scheduler with
  | none => exact exitProcess_recast
  | some scheduler =>
      have completes : (((scheduler.recast guise.cast).withContext
          guise.context).current.complete? value) =
            (scheduler.current.complete? value).map fun block =>
              { block with context := guise.context } := by
        simp only [Block.complete?, Scheduler.recast, Scheduler.withContext, Block.recast]
        cases scheduler.current.value <;> rfl
      simp only [Option.map_some, completes]
      cases scheduler.current.complete? value with
      | none => exact ⟨guise.tally, rfl⟩
      | some block =>
          have seated : (machine.recast home guise).setScheduler home
              ((Scheduler.recast guise.cast { scheduler with current := block }).withContext
                guise.context) = _ := setScheduler_recast _
          have ready : ((scheduler.recast guise.cast).withContext guise.context).hasReady =
              scheduler.hasReady := scheduler.hasReady_recast guise.cast
          change ∃ tally, (if ((scheduler.recast guise.cast).withContext guise.context).hasReady
            then (((machine.recast home guise).setScheduler home _).report _).push _
            else ((machine.recast home guise).setScheduler home _).exitProcess home) = _
          simp only [ready, current_recast]
          split
          · refine ⟨guise.tally, ?_⟩
            exact congrArg (fun after => (after.report
              (.threadCompleted (machine.runtime home).current)).push
                [.schedule home none, .resumed]) seated
          · obtain ⟨tally, exits⟩ := exitProcess_recast (k := k)
            exact ⟨tally, (congrArg (exitProcess · home) seated).trans exits⟩

/-- Work other than a decision comes to the same in every guise, the gate's own moves aside. -/
theorem perform_recast (keepsTo : action.KeepsTo home)
    (active : ∀ index, machine.active = some index → index = home)
    (fresh : ∀ scheduler, (machine.runtime home).scheduler = some scheduler →
      ∀ context, guise.cast ⟨scheduler.nextId⟩ context = context)
    (apart : ∀ index parking, action ≠ .schedule index parking)
    (quiet : action.movesGate = false) :
    ∃ tally context answer, (machine.recast home guise).perform action =
      (machine.perform action).recast home { guise with tally, context, answer } := by
  have same {before after : Machine n k C ν} (same : before = after.recast home guise) :
      ∃ tally context answer, before = after.recast home { guise with tally, context, answer } :=
    ⟨guise.tally, guise.context, guise.answer, same⟩
  cases action with
  | schedule index parking => exact absurd rfl (apart index parking)
  | close | closed | reopen | reopened | timer => cases quiet
  | dropRuntime | deactivate | discard => exact keepsTo.elim
  | reply answer => exact ⟨guise.tally, guise.context, answer, rfl⟩
  | readCurrent index =>
      refine ⟨guise.tally, guise.context, .id (machine.runtime index).current, ?_⟩
      simp only [perform, current_recast]
      rfl
  | countReady index =>
      have same' : ((machine.recast home guise).runtime index).numReady =
          (machine.runtime index).numReady := by
        by_cases here : index = home
        · subst here
          rw [Runtime.numReady, scheduler_recast, Runtime.numReady]
          cases (machine.runtime index).scheduler with
          | none => rfl
          | some scheduler => exact OrderedQueue.length_map ..
        · rw [runtime_recast_other here]
      refine same ?_
      simp only [perform, same']
      rfl
  | countCompleted index =>
      have same' : ((machine.recast home guise).runtime index).numCompleted =
          (machine.runtime index).numCompleted := by
        by_cases here : index = home
        · subst here
          rw [Runtime.numCompleted, scheduler_recast, Runtime.numCompleted]
          cases (machine.runtime index).scheduler with
          | none => rfl
          | some scheduler => exact OrderedQueue.length_map ..
        · rw [runtime_recast_other here]
      refine same ?_
      simp only [perform, same']
      rfl
  | begin =>
      refine same ?_
      have driven : (machine.recast home guise).active = machine.active := rfl
      simp only [perform, begin, driven]
      cases present : machine.active with
      | none => rfl
      | some index =>
          obtain rfl := active index present
          simp only [scheduler_recast]
          cases (machine.runtime index).scheduler with
          | none => rfl
          | some scheduler =>
              exact congrArg (push · [.reopen index, .enter index scheduler.current.unstarted])
                (setScheduler_recast
                  { scheduler with current := scheduler.current.takeEntry.2 })
  | enroll index entry =>
      obtain rfl : index = home := keepsTo
      have driven : (machine.recast index guise).active = machine.active := rfl
      simp only [perform, enroll, scheduler_recast, Option.isSome_map, driven]
      split
      · exact same rfl
      · split
        · exact same rfl
        · obtain ⟨tally, context, activated⟩ := activate_recast
          exact ⟨tally, context, guise.answer, congrArg (push · [.issue index entry]) activated⟩
  | issue index entry =>
      obtain rfl : index = home := keepsTo
      exact same (issue_recast fresh)
  | reap index thread =>
      obtain rfl : index = home := keepsTo
      refine same ?_
      simp only [perform, tryReaping, reap_recast]
      cases machine.reap? index thread with
      | none => rfl
      | some found =>
          obtain ⟨⟨_, _, _, _, _, _, value⟩, after⟩ := found
          cases value <;> rfl
  | tryReap index thread =>
      obtain rfl : index = home := keepsTo
      refine same ?_
      simp only [perform, reapOnce, reap_recast]
      cases machine.reap? index thread with
      | none => rfl
      | some found =>
          obtain ⟨⟨_, _, _, _, _, _, value⟩, after⟩ := found
          cases value <;> rfl
  | finish index value =>
      obtain rfl : index = home := keepsTo
      obtain ⟨tally, finished⟩ := finish_recast value
      exact ⟨tally, guise.context, guise.answer, finished⟩
  | claimAgain index mutex me =>
      obtain rfl : index = home := keepsTo
      refine same ?_
      have claimed : ((machine.cells mutex).recast guise.cast).claim =
          ((machine.cells mutex).claim.1, (machine.cells mutex).claim.2.recast guise.cast) := rfl
      simp only [perform, claimAgain, cells_recast, claimed]
      obtain ⟨free, cells⟩ := (machine.cells mutex).claim
      cases free with
      | true =>
          exact congrArg (push · [.reopen index, .acquire mutex me]) (setMutex_recast mutex cells)
      | false =>
          have blocked : (((machine.setMutex mutex cells).report (.lockBlocks me)).recast index
              guise).blockCurrent index = _ := blockCurrent_recast
          have parked : ((machine.recast index guise).setMutex mutex
              (cells.recast guise.cast)).report (.lockBlocks me) = _ :=
            congrArg (report · (.lockBlocks me)) (setMutex_recast mutex cells)
          exact congrArg (push · [.schedule index (some mutex), .reopen index,
            .woken index mutex me]) ((congrArg (blockCurrent · index) parked).trans blocked)
  | handOn index mutex =>
      obtain rfl : index = home := keepsTo
      refine same ?_
      simp only [perform, handOn, popWaiter_recast]
      obtain ⟨first, after⟩ := machine.popWaiter mutex
      cases first with
      | none => rfl
      | some waiter => exact congrArg (finishWith · index .done) (wake_recast waiter)
  | wakeAll index mutex =>
      obtain rfl : index = home := keepsTo
      refine same ?_
      simp only [perform, wakeAll, popWaiter_recast]
      obtain ⟨first, after⟩ := machine.popWaiter mutex
      cases first with
      | none =>
          simp only [Option.map_none, current_recast]
          rfl
      | some waiter => exact congrArg (push · [.wakeAll index mutex]) (wake_recast waiter)
  | dropMutex mutex =>
      refine same ?_
      have set (before : Machine n k C ν) :
          ((before.recast home guise).setMutex mutex
            (Mutex.recast guise.cast { machine.cells mutex with waiters := .empty })).push
              [.reply .done] = _ :=
        congrArg (push · [.reply .done]) (setMutex_recast mutex _)
      simp only [perform, dropMutex, cells_recast]
      change push (setMutex (if (machine.cells mutex).waiters.isEmpty then _ else _) _ _) _ = _
      split
      · exact set machine
      · exact set (machine.report _)
  | _ =>
      refine same (machine.perform_refit rfl fun index runtime => ?_)
      split <;> rfl

section gate

theorem closeGate_eq (machine : Machine n k C ν) (index : Fin n) :
    machine.closeGate index =
      (machine.setGate index (machine.runtime index).gate.close.1).push
        (if (machine.runtime index).gate.close.2 then [.timer, .closed index] else []) := by
  unfold closeGate
  obtain ⟨gate, fired⟩ := (machine.runtime index).gate.close
  cases fired <;> rfl

/-- The guises of a machine do not show what its gate has counted. -/
theorem recast_setGate {gate gate' : Gate} (same : gate.recast guise = gate'.recast guise) :
    (machine.setGate home gate).recast home guise =
      (machine.setGate home gate').recast home guise := by
  refine ext_places (funext fun index => ?_) rfl rfl
  by_cases here : index = home
  · subst here
    rw [runtime_recast, runtime_recast, setGate, setGate, runtime_setRuntime_self,
      runtime_setRuntime_self]
    exact congrArg (fun gate => { (machine.runtime index).recast guise with gate }) same
  · rw [runtime_recast_other here, runtime_recast_other here, setGate, setGate,
      runtime_setRuntime, runtime_setRuntime, if_neg (Ne.symm here), if_neg (Ne.symm here)]

theorem setGate_setGate (machine : Machine n k C ν) (home : Fin n) (gate gate' : Gate) :
    (machine.setGate home gate).setGate home gate' = machine.setGate home gate' := by
  refine ext_places (funext fun index => ?_) rfl rfl
  simp only [setGate, runtime_setRuntime_self]
  rw [runtime_setRuntime, runtime_setRuntime, runtime_setRuntime]
  split <;> rfl

theorem setGate_self (machine : Machine n k C ν) (home : Fin n) :
    machine.setGate home (machine.runtime home).gate = machine := by
  refine ext_places (funext fun index => ?_) rfl rfl
  rw [setGate, runtime_setRuntime]
  split
  · rename_i here
    subst here
    rfl
  · rfl

theorem settleGate_self {closed : Bool} (stands : machine.shut home = closed) :
    machine.settleGate home closed = machine := by
  subst stands
  exact machine.setGate_self home

@[simp] theorem gate_settleGate (closed : Bool) :
    ((machine.settleGate home closed).runtime home).gate =
      { (machine.runtime home).gate with closed } := by
  simp [settleGate, setGate]

@[simp] theorem thread_settleGate (closed : Bool) :
    (machine.settleGate home closed).thread home = machine.thread home := by
  simp [settleGate, setGate, thread]

/-- A closing comes to the same if the timer is due in both guises or in neither. -/
theorem closeGate_recast
    (due : ((machine.runtime home).gate.recast guise).close.2 =
      (machine.runtime home).gate.close.2) :
    ∃ tally, (machine.recast home guise).closeGate home =
      (machine.closeGate home).recast home { guise with
        seen := if machine.shut home then guise.seen else guise.seen + 1
        tally } := by
  have closes : ∃ tally, ((machine.runtime home).gate.recast guise).close.1 =
      (machine.runtime home).gate.close.1.recast { guise with
        seen := if machine.shut home then guise.seen else guise.seen + 1
        tally } := by
    rw [shut]
    cases closed : (machine.runtime home).gate.closed <;>
      simp only [Gate.close, Gate.recast, closed] <;> exact ⟨_, rfl⟩
  obtain ⟨tally, closes⟩ := closes
  refine ⟨tally, ?_⟩
  rw [closeGate_eq, closeGate_eq, gate_recast, due, closes, setGate_recast]
  rfl

theorem settleGate_recast (closed : Bool) :
    (machine.recast home guise).settleGate home closed =
      (machine.settleGate home closed).recast home guise := by
  rw [settleGate, gate_recast]
  exact setGate_recast { (machine.runtime home).gate with closed } guise.seen guise.tally

/-- An opening that lets no timer in comes to no more than opening the gate. -/
theorem reopenGate_recast (opening : (machine.runtime home).gate.afterOpening = 0) :
    ∃ tally, (machine.recast home guise).reopenGate home =
        (machine.settleGate home false).recast home { guise with tally } ∧
      (machine.reopenGate home).recast home { guise with tally } =
        (machine.settleGate home false).recast home { guise with tally } := by
  have opens (gate : Gate) (opening : gate.afterOpening = 0) : ∃ tally, gate.reopen =
      ({ gate with closed := false, tally }, false) := by
    have quiet : (gate.installed && (0 : Nat) == 1) = false := by simp
    obtain ⟨kind, plan, installed, closed, beforeClosing, afterOpening, seen, tally⟩ := gate
    cases opening
    simp only [Gate.reopen, quiet]
    exact ⟨_, rfl⟩
  obtain ⟨tally, opened⟩ := opens (machine.runtime home).gate opening
  obtain ⟨tally', opened'⟩ := opens ((machine.runtime home).gate.recast guise) opening
  refine ⟨tally', ?_, ?_⟩
  · simp only [reopenGate, gate_recast, opened']
    exact setGate_recast { (machine.runtime home).gate with closed := false } guise.seen tally'
  · simp only [reopenGate, opened]
    exact recast_setGate rfl

/-- That a gate was closed and opened again does not show in any guise. -/
theorem closeGate_opened (todo : List (Action n k C ν))
    (ordered : (machine.runtime home).gate.beforeClosing = 0) :
    (((machine.closeGate home).settleGate home false).withTodo todo).recast home guise =
      ((machine.settleGate home false).withTodo todo).recast home guise := by
  have same : Gate.recast { (machine.runtime home).gate.close.1 with closed := false } guise =
      Gate.recast { (machine.runtime home).gate with closed := false } guise := by
    cases closed : (machine.runtime home).gate.closed <;>
      simp only [Gate.close, Gate.recast, closed, ordered] <;> rfl
  have gate : ((machine.closeGate home).runtime home).gate =
      (machine.runtime home).gate.close.1 := by
    simp [closeGate_eq, setGate]
  rw [settleGate, gate, closeGate_eq]
  exact (congrArg (recast · home guise) (setGate_setGate (machine.withTodo todo) home ..)).trans
    (recast_setGate same)

/-- A closed gate may have been opened and closed again with no entry of the timer. -/
theorem closeGate_behind (shut : machine.shut home = true)
    (ordered : (machine.runtime home).gate.beforeClosing = 0)
    (planned : guise.plan (guise.seen + 1) = false) :
    ∃ tally, ((machine.settleGate home false).recast home guise).closeGate home =
      machine.recast home { guise with seen := guise.seen + 1, tally } := by
  have shut : (machine.runtime home).gate.closed = true := shut
  have closes : ∃ tally, (Gate.recast { (machine.runtime home).gate with closed := false }
      guise).close = ((machine.runtime home).gate.recast
        { guise with seen := guise.seen + 1, tally }, false) := by
    have quiet : ((machine.runtime home).gate.installed && ((0 : Nat) == 1 || false)) = false := by
      simp
    simp only [Gate.close, Gate.recast, ordered, planned, quiet, shut]
    exact ⟨_, rfl⟩
  obtain ⟨tally, closes⟩ := closes
  refine ⟨tally, ?_⟩
  rw [closeGate_eq, gate_recast, gate_settleGate, closes, setGate_recast, settleGate,
    setGate_setGate]
  exact congrArg (recast · home _) (machine.setGate_self home)

end gate

/-- The machine in a guise in which the running thread goes on otherwise, too. -/
def echo (machine : Machine n k C ν) (home : Fin n) (guise : Guise n k C ν) : Machine n k C ν :=
  (machine.withTodo
    (guise.cast (machine.thread home) ⟨machine.todo, machine.code⟩).todo).recast home guise

end Machine

/-- Whoever comes to run by a decision takes the place of the thread that made it. -/
theorem Scheduler.Decides.switches {scheduler : Scheduler κ ν} {waiting : Option (WaitQueue κ ν)}
    {rotation : Rotation κ ν} (decides : scheduler.Decides waiting rotation) {switch : Switch}
    (switches : rotation.switch = some switch) :
    switch.outgoing = scheduler.current.id ∧
      switch.incoming = rotation.scheduler.current.id := by
  cases decides <;> cases switches <;> exact ⟨rfl, rfl⟩

namespace Machine

variable {machine : Machine n k C ν} {home : Fin n} {guise : Guise n k C ν}

theorem setWaiters_recast (parking : Option (Fin k))
    (waiting : Option (WaitQueue (Context n k C ν) ν)) :
    (machine.recast home guise).setWaiters parking
        (waiting.map (WaitQueue.recast guise.cast)) =
      (machine.setWaiters parking waiting).recast home guise := by
  cases parking with
  | none => rfl
  | some mutex =>
      cases waiting with
      | none => rfl
      | some waiters =>
          simp only [setWaiters, Option.map_some, cells_recast]
          exact setMutex_recast mutex { machine.cells mutex with waiters }

theorem waiters_recast (parking : Option (Fin k)) :
    (machine.recast home guise).waiters? parking =
      (machine.waiters? parking).map (WaitQueue.recast guise.cast) := by
  cases parking with
  | none => rfl
  | some mutex =>
      simp only [waiters?, Option.map_some, cells_recast]
      rfl

theorem save_recast {scheduler : Scheduler (Context n k C ν) ν} {todo : List (Action n k C ν)}
    (goes : guise.cast scheduler.current.id ⟨machine.todo, machine.code⟩ = ⟨todo, machine.code⟩) :
    ((machine.withTodo todo).recast home guise).save
        ((scheduler.recast guise.cast).withContext guise.context) =
      (machine.save scheduler).recast guise.cast := by
  simp only [save, Scheduler.recast, Scheduler.withContext, Block.recast, goes]
  rfl

theorem resume_echo {scheduler : Scheduler (Context n k C ν) ν} (todo : List (Action n k C ν))
    (seated : machine.thread home = scheduler.current.id)
    (codes : ∀ thread context, (guise.cast thread context).code = context.code) :
    ((machine.withTodo todo).recast home guise).resume (scheduler.recast guise.cast) =
      (machine.resume scheduler).echo home guise := by
  have code : (guise.cast scheduler.current.id scheduler.current.context).code =
      scheduler.current.context.code := codes _ _
  have thread : (machine.resume scheduler).thread home = scheduler.current.id := seated
  rw [echo, thread]
  simp only [resume, Scheduler.recast, Block.recast, code]
  rfl

section deciding

variable {todo : List (Action n k C ν)}
  (left : (guise.cast (machine.thread home) ⟨machine.todo, machine.code⟩).todo = todo)

include left in
/-- Whoever still runs, and has done nothing since, goes on with `todo`. -/
theorem echo_stays {after : Machine n k C ν} (guise' : Guise n k C ν)
    (same : guise'.cast = guise.cast) (thread : after.thread home = machine.thread home)
    (behind : after.todo = machine.todo) (code : after.code = machine.code) :
    after.echo home guise' = (after.withTodo todo).recast home guise' := by
  rw [echo, same, thread, behind, code, left]

theorem park_recast (todo : List (Action n k C ν)) (parking : Option (Fin k))
    (rotation : Rotation (Context n k C ν) ν) :
    (((machine.withTodo todo).recast home guise).setWaiters parking
        (rotation.waiting.map (WaitQueue.recast guise.cast))).reportAll rotation.event.toList =
      (((machine.setWaiters parking rotation.waiting).reportAll
        rotation.event.toList).withTodo todo).recast home guise := by
  rw [setWaiters_recast]
  cases parking <;> cases rotation.waiting <;> rfl

include left in
/-- Whoever is seated in place of the running thread goes on as the guise says. -/
theorem seat_echo (runtime : Runtime n k C ν) {scheduler : Scheduler (Context n k C ν) ν}
    {switch : Switch} (tally : GateTally) (context : Context n k C ν)
    (outgoing : switch.outgoing = machine.thread home)
    (incoming : switch.incoming = scheduler.current.id)
    (current : runtime.current = switch.incoming)
    (codes : ∀ thread context, (guise.cast thread context).code = context.code) :
    (if switch.outgoing = switch.incoming then
        ((machine.withTodo todo).recast home guise).setRuntime home
          (runtime.recast { guise with tally, context })
      else (((machine.withTodo todo).recast home guise).setRuntime home
        (runtime.recast { guise with tally, context })).resume (scheduler.recast guise.cast)) =
      (if switch.outgoing = switch.incoming then machine.setRuntime home runtime
        else (machine.setRuntime home runtime).resume scheduler).echo home
          { guise with tally, context } := by
  have seated : ((machine.withTodo todo).recast home guise).setRuntime home
      (runtime.recast { guise with tally, context }) = _ :=
    setRuntime_recast runtime guise.seen tally context
  have seats : (machine.setRuntime home runtime).thread home = switch.incoming := by
    rw [thread, runtime_setRuntime_self, current]
  by_cases same : switch.outgoing = switch.incoming
  · have thread := seats.trans (same.symm.trans outgoing)
    rw [if_pos same, if_pos same, echo_stays left { guise with tally, context } rfl thread rfl rfl]
    exact seated
  · rw [if_neg same, if_neg same]
    exact (congrArg (resume · (scheduler.recast guise.cast)) seated).trans
      (resume_echo todo (seats.trans incoming) codes)

end deciding

/-- A decision comes to the same in every guise, and whoever runs after it goes on as the
guise says. -/
theorem schedule_echo (parking : Option (Fin k))
    (self : ∀ scheduler, (machine.runtime home).scheduler = some scheduler →
      scheduler.current.id = machine.thread home)
    (codes : ∀ thread context, (guise.cast thread context).code = context.code) :
    ∃ tally context, (machine.echo home guise).schedule home parking =
      (machine.schedule home parking).echo home { guise with tally, context } := by
  generalize left : (guise.cast (machine.thread home) ⟨machine.todo, machine.code⟩).todo = todo
  rw [echo_stays left guise rfl rfl rfl rfl]
  simp only [schedule, scheduler_recast, runtime_withTodo]
  cases present : (machine.runtime home).scheduler with
  | none =>
      exact ⟨guise.tally, guise.context, (echo_stays left guise rfl rfl rfl rfl).symm⟩
  | some scheduler =>
      have goes : guise.cast scheduler.current.id ⟨machine.todo, machine.code⟩ =
          ⟨todo, machine.code⟩ := by
        rw [self scheduler present, ← left]
        exact congrArg (Context.mk _) (codes _ _)
      have waiting : ((machine.withTodo todo).recast home guise).waiters? parking =
          (machine.waiters? parking).map (WaitQueue.recast guise.cast) := waiters_recast parking
      simp only [Option.map_some, save_recast goes, waiting, Scheduler.rotate_recast]
      cases rotated : (machine.save scheduler).rotate (machine.waiters? parking) with
      | error fault =>
          exact ⟨guise.tally, guise.context, (echo_stays left guise rfl rfl rfl rfl :
            (machine.abort fault).echo home guise = _).symm⟩
      | ok rotation =>
          simp only [Except.map, Rotation.recast, park_recast]
          obtain ⟨runtimes, -, behind⟩ := machine.setWaiters_frame parking rotation.waiting
          have code := machine.code_setWaiters parking rotation.waiting
          generalize filed : (machine.setWaiters parking rotation.waiting).reportAll
            rotation.event.toList = parked
          replace runtimes : parked.runtime = machine.runtime := filed ▸ runtimes
          have stays : parked.thread home = machine.thread home := by
            rw [thread, runtimes, thread]
          replace left : (guise.cast (parked.thread home) ⟨parked.todo, parked.code⟩).todo =
              todo := by
            rw [← left, stays, ← filed]
            exact congrArg (fun context => (guise.cast _ context).todo)
              (congr (congrArg Context.mk behind) code)
          -- The block of whoever runs next says where that thread goes on.
          let context := guise.cast rotation.scheduler.current.id rotation.scheduler.current.context
          cases decided : rotation.switch with
          | none =>
              refine ⟨guise.tally, context, ?_⟩
              have seated : ((parked.withTodo todo).recast home guise).setRuntime home
                  (Runtime.recast { parked.runtime home with
                    scheduler := some rotation.scheduler } { guise with context }) = _ :=
                setRuntime_recast _ guise.seen guise.tally context
              have thread : (parked.setScheduler home rotation.scheduler).thread home =
                  parked.thread home := by
                simp [thread]
              rw [echo_stays left { guise with context } rfl thread rfl rfl, setScheduler,
                runtime_recast]
              exact seated
          | some switch =>
              obtain ⟨outgoing, incoming⟩ :=
                (Scheduler.decides_of_rotate rotated).switches decided
              have outgoing : switch.outgoing = parked.thread home :=
                (outgoing.trans (self scheduler present)).trans stays.symm
              simp only [gate_recast, config_recast, Gate.arm_recast, runtime_withTodo]
              cases (machine.runtime home).gate.arm (machine.runtime home).config.timerInterval with
              | error failure =>
                  exact ⟨guise.tally, guise.context, (echo_stays left guise rfl rfl rfl rfl :
                    (parked.abort (.gate failure)).echo home guise = _).symm⟩
              | ok gate =>
                  let tally := { guise.tally with
                    arms := guise.tally.arms + 1
                    interval := (machine.runtime home).config.timerInterval }
                  let seated := { machine.runtime home with
                    gate, scheduler := some rotation.scheduler, current := switch.incoming }
                  refine ⟨tally, context, ?_⟩
                  simp only [Except.map, runtime_recast]
                  exact seat_echo left seated tally context outgoing incoming rfl codes

theorem thread_recast (index : Fin n) :
    (machine.recast home guise).thread index = machine.thread index := current_recast index

theorem make_recast {move : Move n k C ν} (own : move ≠ .work) :
    (machine.recast home guise).make move = (machine.make move).recast home guise := by
  have left : (machine.recast home guise).todo = machine.todo := rfl
  cases move with
  | work => exact absurd rfl own
  | think | ask => rfl
  | leave value =>
      simp only [make, leave, left]
      split <;> rfl
  | panic =>
      simp only [make, panic, left, current_recast]
      split <;> rfl

/-- In a guise in which the running thread goes on as it does, nothing but the guise is new. -/
theorem echo_eq (same : (guise.cast (machine.thread home) ⟨machine.todo, machine.code⟩).todo =
    machine.todo) : machine.echo home guise = machine.recast home guise := by
  rw [echo, same]
  rfl

/-- Only contexts of threads in queues are recast. -/
theorem recast_congr {cast : ThreadId → Context n k C ν → Context n k C ν}
    (queued : ∀ scheduler, (machine.runtime home).scheduler = some scheduler →
      ∀ block ∈ scheduler.ready.elements ++ scheduler.completed.elements,
        cast block.id = guise.cast block.id)
    (parked : ∀ mutex, ∀ block ∈ machine.parkedOn mutex, cast block.id = guise.cast block.id) :
    machine.recast home { guise with cast } = machine.recast home guise := by
  have same {blocks : List (Block (Context n k C ν) ν)}
      (agree : ∀ block ∈ blocks, cast block.id = guise.cast block.id) :
      blocks.map (Block.recast cast) = blocks.map (Block.recast guise.cast) :=
    List.map_congr_left fun block member => by rw [Block.recast, agree block member]; rfl
  refine ext_places (funext fun index => ?_) (funext fun mutex => ?_) rfl
  · by_cases here : index = home
    · subst here
      rw [runtime_recast, runtime_recast, Runtime.recast, Runtime.recast]
      cases present : (machine.runtime index).scheduler with
      | none => rfl
      | some scheduler =>
          have agree := queued scheduler present
          have ready := same fun block member => agree block (List.mem_append_left _ member)
          have completed := same fun block member => agree block (List.mem_append_right _ member)
          simp only [Option.map_some, Scheduler.recast, Scheduler.withContext, OrderedQueue.map,
            ready, completed]
          rfl
    · rw [runtime_recast_other here, runtime_recast_other here]
  · have waiting := same (parked mutex)
    rw [parkedOn] at waiting
    simp only [cells_recast, Mutex.recast, WaitQueue.recast, OrderedQueue.map, waiting]

end Machine

end UserThreads
