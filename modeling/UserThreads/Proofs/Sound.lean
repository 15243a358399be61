import UserThreads.Proofs.Accounts
import UserThreads.Proofs.Stage

/-!
Soundness of the machine along a run: every thread is at a stage of its errand and
on one queue that suits its status, and no thread is lost or held twice.
-/

namespace UserThreads

variable {n k : Nat} {C ν : Type}

/-- The value that a thread has ended with. -/
def exitValue? (home : Fin n) (thread : ThreadId) (past : List (Moment n k C ν)) : Option ν :=
  (errand? home thread past).bind Move.exitValue?

/-- How the running thread stands. It is blocked or completed only on its way to
the decision that takes the processor from it. -/
inductive Standing (home : Fin n) (past : List (Moment n k C ν)) (machine : Machine n k C ν)
    (scheduler : Scheduler (Context n k C ν) ν) : Prop
  | ready (status : scheduler.current.status = .ready) (value : scheduler.current.value = none)
  | blocked {mutex : Fin k} {rest : List (Action n k C ν)}
      (status : scheduler.current.status = .blocked) (value : scheduler.current.value = none)
      (todo : machine.todo = .schedule home (some mutex) :: rest)
  | completed {rest : List (Action n k C ν)} (status : scheduler.current.status = .completed)
      (value : scheduler.current.value = exitValue? home scheduler.current.id past)
      (ended : scheduler.current.value.isSome = true)
      (todo : machine.todo = .schedule home none :: rest)
      (others : scheduler.ready.elements ≠ [])

/-- The block of a thread in line for the processor. -/
structure InLine (home : Fin n) (past : List (Moment n k C ν))
    (block : Block (Context n k C ν) ν) : Prop where
  status : block.status = .ready
  value : block.value = none
  stage : Suspended home block.id (errand? home block.id past) block.context.todo

/-- The block of a thread that has ended and waits to be joined. -/
structure Ended (home : Fin n) (past : List (Moment n k C ν))
    (block : Block (Context n k C ν) ν) : Prop where
  status : block.status = .completed
  value : block.value = exitValue? home block.id past
  ended : block.value.isSome = true

/-- The block of a thread parked on a mutex. -/
structure ParkedAt (home : Fin n) (past : List (Moment n k C ν)) (mutex : Fin k)
    (block : Block (Context n k C ν) ν) : Prop where
  status : block.status = .blocked
  value : block.value = none
  stage : Stage home block.id (errand? home block.id past) true
    (.schedule home (some mutex) :: block.context.todo)

/-- A runtime with threads, and the threads parked on mutexes. -/
structure Populated (home : Fin n) (past : List (Moment n k C ν)) (machine : Machine n k C ν)
    (scheduler : Scheduler (Context n k C ν) ν) : Prop where
  active : machine.active = some home
  current : scheduler.current.id = machine.thread home
  accounts : (accounted (gone past) machine scheduler).Perm (List.range scheduler.nextId.toNat)
  standing : Standing home past machine scheduler
  ready : ∀ block ∈ scheduler.ready.elements, InLine home past block
  completed : ∀ block ∈ scheduler.completed.elements, Ended home past block
  parked : ∀ mutex, ∀ block ∈ machine.parkedOn mutex, ParkedAt home past mutex block
  unborn : ∀ thread : ThreadId, scheduler.nextId.toNat ≤ thread.number.toNat →
    errand? home thread past = none

/-- A machine before the runtime's first thread was created. -/
structure Unpopulated (home : Fin n) (past : List (Moment n k C ν))
    (machine : Machine n k C ν) : Prop where
  active : machine.active = none
  current : machine.thread home = .main
  parked : ∀ mutex, machine.parkedOn mutex = []
  gone : gone past = []
  unborn : ∀ thread, thread ≠ .main → errand? home thread past = none

/-- What holds at every point of a run. -/
structure Sound (home : Fin n) (past : List (Moment n k C ν)) (machine : Machine n k C ν) :
    Prop where
  opening : (machine.runtime home).gate.afterOpening = 0
  stage : Stage home (machine.thread home) (errand? home (machine.thread home) past)
    (machine.shut home) machine.todo
  exact : ∀ mutex : Fin k, (machine.cells mutex).waiters.Exact
  unpopulated : (machine.runtime home).scheduler = none → Unpopulated home past machine
  populated : ∀ scheduler, (machine.runtime home).scheduler = some scheduler →
    Populated home past machine scheduler

/-- The same thread goes on, and the others stay where they are, but that parked
threads may be woken and new ones made. -/
structure Stays (home : Fin n) (machine after : Machine n k C ν) : Prop where
  thread : after.thread home = machine.thread home
  ready : ∀ block ∈ machine.readyOn home, block ∈ after.readyOn home
  origin : ∀ block ∈ after.readyOn home, block ∈ machine.readyOn home ∨
    block.context.todo = [.begin] ∨ ∃ mutex, ∃ parked ∈ machine.parkedOn mutex,
      block.id = parked.id ∧ block.context = parked.context
  parked : ∀ mutex, ∀ block ∈ after.parkedOn mutex, block ∈ machine.parkedOn mutex

theorem Stays.unparked {home : Fin n} {machine after : Machine n k C ν} {mutex : Fin k}
    (stays : Stays home machine after) (unparked : machine.parkedOn mutex = []) :
    after.parkedOn mutex = [] := by
  refine List.eq_nil_iff_forall_not_mem.mpr fun block member => ?_
  have earlier := stays.parked mutex block member
  rw [unparked] at earlier
  cases earlier

/-- What the running thread does next: it makes a decision, or it does not. -/
inductive Machine.Next (home : Fin n) (machine : Machine n k C ν) : Prop
  | decides {parking : Option (Fin k)} {rest : List (Action n k C ν)}
      (todo : machine.todo = .schedule home parking :: rest) : Next home machine
  | works {action : Action n k C ν} {rest : List (Action n k C ν)}
      (todo : machine.todo = action :: rest)
      (apart : ∀ index parking, action ≠ .schedule index parking) : Next home machine

/-- What own code does after which the process goes on. -/
inductive Said (home : Fin n) (machine : Machine n k C ν) : Move n k C ν → Prop
  | think {code : C} : Said home machine (.think code)
  | ask {request : Call n k C ν} : Said home machine (.ask request)
  | leave {value : ν} (left : machine.make (.leave value) = (machine.withTodo []).push
      [.close home, .reopen home, .close home, .finish home value]) :
      Said home machine (.leave value)

/-- A piece of work other than a decision was done. -/
structure Proceeds (home : Fin n) (past : List (Moment n k C ν))
    (machine after : Machine n k C ν) : Prop where
  sound : Sound home (⟨machine, .work⟩ :: past) after
  stays : Stays home machine after

variable {home : Fin n} {past later : List (Moment n k C ν)} {machine after : Machine n k C ν}
  {scheduler : Scheduler (Context n k C ν) ν} {rest : List (Action n k C ν)}

/-- The pieces of work after which a thread can be in no place any more. -/
def Action.takesAway : Action n k C ν → Bool
  | .reap .. | .tryReap .. | .dropMutex _ => true
  | _ => false

theorem Action.stays_of_keepsQueues {action : Action n k C ν} (keeps : action.keepsQueues = true) :
    action.takesAway = false := by
  cases action <;> first | rfl | cases keeps

section history

variable {thread : ThreadId} {moment : Moment n k C ν}

theorem errand_of_stays (stays : moment.enters = false) :
    errand? home thread (moment :: past) = errand? home thread past := by
  simp [errand?, stays]

theorem errand_work (home : Fin n) (thread : ThreadId) (machine : Machine n k C ν)
    (past : List (Moment n k C ν)) :
    errand? home thread (⟨machine, .work⟩ :: past) = errand? home thread past :=
  errand_of_stays rfl

theorem errand_of_other (other : moment.thread home ≠ thread) :
    errand? home thread (moment :: past) = errand? home thread past := by
  simp [errand?, other]

theorem errand_of_enters (moment : Moment n k C ν) (enters : moment.enters = true) :
    errand? home (moment.thread home) (moment :: past) = some moment.move := by
  simp [errand?, enters]

/-- Until the thread is sent into the library again, it is on the same errand. -/
theorem errand_of_alone {recent : List (Moment n k C ν)} {asking : Moment n k C ν}
    (asks : asking.enters = true)
    (alone : ∀ moment ∈ recent, moment.thread home = asking.thread home → moment.enters = false) :
    errand? home (asking.thread home) (recent ++ asking :: past) = some asking.move := by
  induction recent with
  | nil => exact errand_of_enters asking asks
  | cons moment recent ih =>
      have earlier := ih fun other member => alone other (List.mem_cons_of_mem _ member)
      by_cases same : moment.thread home = asking.thread home
      · rw [List.cons_append, errand_of_stays (alone moment List.mem_cons_self same), earlier]
      · rw [List.cons_append, errand_of_other same, earlier]

theorem gone_of_none (none : moment.gone = []) : gone (moment :: past) = gone past := by
  simp [gone, none]

/-- Only joins and the end of a mutex take threads away. -/
theorem gone_work {action : Action n k C ν} (todo : machine.todo = action :: rest)
    (keeps : action.takesAway = false) : gone (⟨machine, .work⟩ :: past) = gone past := by
  apply gone_of_none
  simp only [Moment.gone, Moment.reaped?, Moment.dropped, todo]
  cases action with
  | reap | tryReap | dropMutex => cases keeps
  | _ => rfl

end history

namespace Populated

theorem distinct (populated : Populated home past machine scheduler) :
    (accounted (gone past) machine scheduler).Nodup :=
  populated.accounts.nodup_iff.mpr List.nodup_range

/-- Threads that only change places stay accounted for. -/
theorem rearranged {scheduler' : Scheduler (Context n k C ν) ν}
    (populated : Populated home past machine scheduler)
    (nextId : scheduler'.nextId = scheduler.nextId) (taken : gone later = gone past)
    (places : ∀ number,
      tally [scheduler'.current] number + tally scheduler'.ready.elements number +
          tally scheduler'.completed.elements number + tally after.parked number =
        tally [scheduler.current] number + tally scheduler.ready.elements number +
          tally scheduler.completed.elements number + tally machine.parked number) :
    (accounted (gone later) after scheduler').Perm (List.range scheduler'.nextId.toNat) := by
  refine List.perm_iff_count.mpr fun number => ?_
  rw [count_accounted, places, taken, nextId, ← populated.accounts.count_eq, count_accounted]

/-- The running thread waits nowhere. -/
theorem apart (populated : Populated home past machine scheduler)
    {block : Block (Context n k C ν) ν}
    (member : block ∈ scheduler.ready.elements ++ scheduler.completed.elements ++
      machine.parked) : block.id ≠ scheduler.current.id := by
  intro equal
  have distinct := populated.distinct
  simp only [accounted, List.map_cons, List.cons_append, List.nodup_cons] at distinct
  apply distinct.1
  have same : block.number = scheduler.current.number := by simp [Block.number, equal]
  exact same ▸ List.mem_append_left _ (List.mem_map_of_mem member)

theorem apart_ready (populated : Populated home past machine scheduler)
    {block : Block (Context n k C ν) ν} (member : block ∈ scheduler.ready.elements) :
    block.id ≠ scheduler.current.id :=
  populated.apart (by simp [member])

theorem apart_completed (populated : Populated home past machine scheduler)
    {block : Block (Context n k C ν) ν} (member : block ∈ scheduler.completed.elements) :
    block.id ≠ scheduler.current.id :=
  populated.apart (by simp [member])

theorem apart_parked (populated : Populated home past machine scheduler)
    {block : Block (Context n k C ν) ν} {mutex : Fin k} (member : block ∈ machine.parkedOn mutex) :
    block.id ≠ scheduler.current.id :=
  populated.apart (List.mem_append_right _ (Machine.mem_parked.mpr ⟨mutex, member⟩))

theorem born (populated : Populated home past machine scheduler) :
    scheduler.current.number < scheduler.nextId.toNat := by
  have member : scheduler.current.number ∈ accounted (gone past) machine scheduler := by
    simp [accounted]
  exact List.mem_range.mp (populated.accounts.mem_iff.mp member)

/-- Threads stay where they were unless they are put somewhere else. -/
theorem turn {scheduler' : Scheduler (Context n k C ν) ν}
    (populated : Populated home past machine scheduler)
    (errands : ∀ thread, thread ≠ machine.thread home →
      errand? home thread later = errand? home thread past)
    (active : after.active = machine.active) (current : scheduler'.current.id = after.thread home)
    (grows : scheduler.nextId.toNat ≤ scheduler'.nextId.toNat)
    (accounts : (accounted (gone later) after scheduler').Perm (List.range scheduler'.nextId.toNat))
    (standing : Standing home later after scheduler')
    (ready : ∀ block ∈ scheduler'.ready.elements,
      block ∈ scheduler.ready.elements ∨ InLine home later block)
    (completed : ∀ block ∈ scheduler'.completed.elements,
      block ∈ scheduler.completed.elements ∨ Ended home later block)
    (parked : ∀ mutex, ∀ block ∈ after.parkedOn mutex,
      block ∈ machine.parkedOn mutex ∨ ParkedAt home later mutex block) :
    Populated home later after scheduler' := by
  -- A thread that is not the running one keeps its errand, and with it its stage.
  have others {thread : ThreadId} (apart : thread ≠ scheduler.current.id) :
      errand? home thread later = errand? home thread past :=
    errands thread (populated.current ▸ apart)
  constructor
  case active => rw [active, populated.active]
  case current => exact current
  case accounts => exact accounts
  case standing => exact standing
  case ready =>
    intro block member
    rcases ready block member with member | inLine
    · obtain ⟨status, value, stage⟩ := populated.ready block member
      exact ⟨status, value, others (populated.apart_ready member) ▸ stage⟩
    · exact inLine
  case completed =>
    intro block member
    rcases completed block member with member | ended
    · obtain ⟨status, value, ended⟩ := populated.completed block member
      refine ⟨status, ?_, ended⟩
      rw [exitValue?, others (populated.apart_completed member)]
      exact value
    · exact ended
  case parked =>
    intro mutex block member
    rcases parked mutex block member with member | parkedAt
    · obtain ⟨status, value, stage⟩ := populated.parked mutex block member
      exact ⟨status, value, others (populated.apart_parked member) ▸ stage⟩
    · exact parkedAt
  case unborn =>
    intro thread future
    have apart : thread ≠ scheduler.current.id := by
      rintro rfl
      exact absurd populated.born (Nat.not_lt.mpr (Nat.le_trans grows future))
    rw [others apart]
    exact populated.unborn thread (Nat.le_trans grows future)

theorem keep (populated : Populated home past machine scheduler)
    (status : scheduler.current.status = .ready) (value : scheduler.current.value = none)
    (active : after.active = machine.active) (thread : after.thread home = machine.thread home)
    (parked : ∀ mutex, after.parkedOn mutex = machine.parkedOn mutex)
    (errands : ∀ thread, thread ≠ machine.thread home →
      errand? home thread later = errand? home thread past)
    (taken : gone later = gone past) : Populated home later after scheduler := by
  apply populated.turn errands active (populated.current.trans thread.symm) (Nat.le_refl _)
  case accounts =>
    refine populated.rearranged rfl taken fun number => ?_
    rw [Machine.parked_congr parked]
  case standing => exact .ready status value
  case ready => exact fun block member => .inl member
  case completed => exact fun block member => .inl member
  case parked => exact fun mutex block member => .inl (parked mutex ▸ member)

end Populated

theorem Standing.ready_of {action : Action n k C ν} {rest : List (Action n k C ν)}
    (standing : Standing home past machine scheduler) (todo : machine.todo = action :: rest)
    (apart : ∀ parking, action ≠ .schedule home parking) :
    scheduler.current.status = .ready ∧ scheduler.current.value = none := by
  cases standing with
  | ready status value => exact ⟨status, value⟩
  | blocked _ _ deciding | completed _ _ _ deciding _ =>
      rw [todo] at deciding
      cases deciding
      exact absurd rfl (apart _)

namespace Sound

theorem keep {action : Action n k C ν} {rest : List (Action n k C ν)}
    (sound : Sound home past machine) (todo : machine.todo = action :: rest)
    (apart : ∀ parking, action ≠ .schedule home parking)
    (keeps : Machine.KeepsQueues home machine after)
    (stage : Stage home (after.thread home) (errand? home (after.thread home) later)
      (after.shut home) after.todo)
    (errands : ∀ thread, thread ≠ machine.thread home →
      errand? home thread later = errand? home thread past)
    (taken : gone later = gone past) : Sound home later after := by
  have parked (mutex : Fin k) : after.parkedOn mutex = machine.parkedOn mutex := by
    rw [Machine.parkedOn, Machine.parkedOn, keeps.waiters]
  constructor
  case opening => exact keeps.quiet sound.opening
  case stage => exact stage
  case exact =>
    intro mutex
    rw [keeps.waiters]
    exact sound.exact mutex
  case unpopulated =>
    intro absent
    have before := sound.unpopulated (keeps.scheduler ▸ absent)
    exact ⟨keeps.active.trans before.active, keeps.current.trans before.current,
      fun mutex => (parked mutex).trans (before.parked mutex), taken.trans before.gone,
      fun thread apart => (errands thread (before.current ▸ apart)).trans
        (before.unborn thread apart)⟩
  case populated =>
    intro scheduler present
    have populated := sound.populated scheduler (keeps.scheduler ▸ present)
    obtain ⟨status, value⟩ := populated.standing.ready_of todo apart
    exact populated.keep status value keeps.active keeps.current parked errands taken

theorem of_populated (present : (after.runtime home).scheduler = some scheduler)
    (opening : (after.runtime home).gate.afterOpening = 0)
    (stage : Stage home (after.thread home) (errand? home (after.thread home) later)
      (after.shut home) after.todo)
    (exact : ∀ mutex : Fin k, (after.cells mutex).waiters.Exact)
    (populated : Populated home later after scheduler) : Sound home later after := by
  refine ⟨opening, stage, exact, fun absent => ?_, fun other same => ?_⟩
  · exact absurd (present.symm.trans absent) (by simp)
  · obtain rfl := Option.some.inj (present.symm.trans same)
    exact populated

theorem start {runtimes : Vector (Runtime n k C ν) n} {config : Config} {kind : GateKind}
    {plan : Nat → Bool} (fresh : runtimes.get home = .new config (.new kind plan)) (code : C) :
    Sound home [] (.start runtimes code) := by
  constructor
  case opening => simp [fresh, Runtime.new, Gate.new]
  case stage =>
    have opened : (Machine.start runtimes code).shut home = false := by
      simp [Machine.shut, fresh, Runtime.new, Gate.new]
    exact opened ▸ .initial
  case exact =>
    intro mutex
    simp [Mutex.new, WaitQueue.exact_empty]
  case unpopulated =>
    intro _
    constructor
    · rfl
    · simp [Machine.thread, fresh, Runtime.new]
    · intro mutex
      simp [Machine.parkedOn, Mutex.new, WaitQueue.empty, OrderedQueue.empty]
    · rfl
    · exact fun _ _ => rfl
  case populated =>
    intro scheduler present
    simp [fresh, Runtime.new] at present

theorem next (sound : Sound home past machine) : machine.Next home := by
  cases todo : machine.todo with
  | nil => exact absurd todo (stage_ne_nil sound.stage)
  | cons action rest =>
      by_cases decides : ∃ index parking, action = .schedule index parking
      · obtain ⟨index, parking, rfl⟩ := decides
        obtain rfl := stage_host (todo ▸ sound.stage)
        exact .decides todo
      · exact .works todo fun index parking same => decides ⟨index, parking, same⟩

theorem own_todo {host : Option (Fin n)} {rest : List (Action n k C ν)}
    (sound : Sound home past machine) (todo : machine.todo = .own host :: rest) :
    machine.shut home = false ∧ rest = [] ∧ (host = none ∨ host = some home) :=
  stage_own (todo ▸ sound.stage)

theorem said {move : Move n k C ν} (sound : Sound home past machine)
    (fits : move.Fits home machine) (own : move ≠ .work)
    (goes : (machine.make move).outcome = none) :
    ∃ host, machine.todo = [.own host] ∧ Said home machine move := by
  obtain ⟨host, rest, todo⟩ := Machine.own_of_inOwnCode (fits.own own)
  obtain ⟨-, rfl, ours⟩ := sound.own_todo todo
  refine ⟨host, todo, ?_⟩
  cases move with
  | work => exact absurd rfl own
  | think => exact .think
  | ask => exact .ask
  | leave value =>
      rcases ours with rfl | rfl
      · simp [Machine.make, Machine.leave, todo] at goes
      · exact .leave (by simp [Machine.make, Machine.leave, todo, Machine.withTodo])
  | panic => cases host <;> simp [Machine.make, Machine.panic, todo, Machine.abort] at goes

theorem think {host : Option (Fin n)} {rest : List (Action n k C ν)}
    (sound : Sound home past machine) (todo : machine.todo = .own host :: rest) (code : C) :
    Sound home (⟨machine, .think code⟩ :: past) (machine.make (.think code)) := by
  have same (thread : ThreadId) :
      errand? home thread (⟨machine, .think code⟩ :: past) = errand? home thread past :=
    errand_of_stays rfl
  refine sound.keep todo (by simp) ⟨rfl, rfl, rfl, fun _ => rfl, id⟩ ?_
    (fun thread _ => same thread) rfl
  rw [same]
  exact sound.stage

theorem ask {host : Option (Fin n)} {rest : List (Action n k C ν)}
    (sound : Sound home past machine) (todo : machine.todo = .own host :: rest)
    {request : Call n k C ν} (keeps : request.KeepsTo home) :
    Sound home (⟨machine, .ask request⟩ :: past) (machine.make (.ask request)) := by
  obtain ⟨opened, rfl, ours⟩ := sound.own_todo todo
  have behind : Errand home (.ask request) [.own host] := by
    rcases ours with rfl | rfl
    · exact .initial
    · exact .thread
  refine sound.keep todo (by simp) ⟨rfl, rfl, rfl, fun _ => rfl, id⟩ ?_
    (fun thread apart => errand_of_other apart.symm) rfl
  have errand : errand? home (machine.thread home) (⟨machine, .ask request⟩ :: past) =
      some (.ask request) := errand_of_enters ⟨machine, .ask request⟩ rfl
  have left : (machine.make (.ask request)).todo = request.actions ++ [.own host] := by
    simp [Machine.make, Machine.call, todo]
  have stage := Machine.stage_call (machine.thread home) keeps behind
  rw [← left, ← opened, ← errand] at stage
  exact stage

theorem leave {host : Option (Fin n)} {rest : List (Action n k C ν)}
    (sound : Sound home past machine) (todo : machine.todo = .own host :: rest) {value : ν}
    (goes : (machine.make (.leave value)).outcome = none) :
    Sound home (⟨machine, .leave value⟩ :: past) (machine.make (.leave value)) := by
  have opened := (sound.own_todo todo).1
  have fits : Move.Fits home machine (.leave value) := by
    change machine.inOwnCode = true
    rw [Machine.inOwnCode, todo]
    rfl
  obtain ⟨-, -, said⟩ := sound.said fits (by simp) goes
  cases said with
  | leave left =>
      rw [left]
      refine sound.keep todo (by simp) ⟨rfl, rfl, rfl, fun _ => rfl, id⟩ ?_
        (fun thread apart => errand_of_other apart.symm) rfl
      have errand : errand? home (machine.thread home) (⟨machine, .leave value⟩ :: past) =
          some (.leave value) := errand_of_enters ⟨machine, .leave value⟩ rfl
      have stage : Stage (k := k) (C := C) home (machine.thread home) (some (.leave value)) false
          [.close home, .reopen home, .close home, .finish home value] :=
        .guarded .leave .leave .close
      rw [← opened, ← errand] at stage
      exact stage

theorem keep_work {action : Action n k C ν} (sound : Sound home past machine)
    (todo : machine.todo = action :: rest) (apart : ∀ parking, action ≠ .schedule home parking)
    (keeps : Machine.KeepsQueues home machine after)
    (stage : Stage home (machine.thread home) (errand? home (machine.thread home) past)
      (after.shut home) after.todo)
    (taken : gone (⟨machine, .work⟩ :: past) = gone past) :
    Proceeds home past machine after := by
  have thread : after.thread home = machine.thread home := keeps.current
  have ready : after.readyOn home = machine.readyOn home := by
    rw [Machine.readyOn, keeps.scheduler, Machine.readyOn]
  have parked (mutex : Fin k) : after.parkedOn mutex = machine.parkedOn mutex := by
    rw [Machine.parkedOn, keeps.waiters, Machine.parkedOn]
  constructor
  case sound =>
    refine sound.keep todo apart keeps ?_ (fun thread _ => errand_work home thread ..) taken
    rw [errand_work, thread]
    exact stage
  case stays =>
    exact ⟨thread, fun block member => ready ▸ member, fun block member => .inl (ready ▸ member),
      fun mutex block member => parked mutex ▸ member⟩

/-- Only the runtime of the run drives the OS thread. -/
theorem driven (sound : Sound home past machine) :
    ∀ index, machine.active = some index → index = home := by
  intro index driven
  cases present : (machine.runtime home).scheduler with
  | none => simp [(sound.unpopulated present).active] at driven
  | some scheduler =>
      rw [(sound.populated scheduler present).active] at driven
      exact (Option.some.inj driven).symm

theorem work_keeping {action : Action n k C ν}
    (sound : Sound home past machine) (going : machine.outcome = none)
    (todo : machine.todo = action :: rest) (library : action.isOwn = false)
    (keeps : action.keepsQueues = true) (goes : machine.step.outcome = none) :
    Proceeds home past machine machine.step := by
  rw [Machine.step_eq going todo] at goes ⊢
  have queues := (machine.withTodo rest).perform_keepsQueues home keeps
  refine sound.keep_work todo ?_ queues.of_withTodo
    (Machine.stage_work (todo ▸ sound.stage) rfl rfl sound.opening sound.driven library keeps
      goes)
    (gone_work todo (Action.stays_of_keepsQueues keeps))
  rintro parking rfl
  contradiction

end Sound

end UserThreads
