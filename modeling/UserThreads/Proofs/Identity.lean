import UserThreads.Proofs.Entries
import UserThreads.Proofs.Exclusion

/-!
Identity of threads: the number that a thread reads as its own is that of the block which
the scheduler holds for it, and the code that runs is the one that was made with that
number. Whoever a decision goes to is resumed where it was put aside.
-/

namespace UserThreads

variable {n k : Nat} {C ν : Type}

/-- The machine on which a history began. -/
def Machine.oldest (machine : Machine n k C ν) : List (Moment n k C ν) → Machine n k C ν
  | [] => machine
  | moment :: past => moment.machine.oldest past

/-- The code that a thread was made with. -/
inductive Origin (home : Fin n) (past : List (Moment n k C ν)) (machine : Machine n k C ν) :
    ThreadId → C → Prop
  | main : Origin home past machine .main (machine.oldest past).code
  | made {moment : Moment n k C ν} {entry : C} {rest : List (Action n k C ν)} {thread : ThreadId}
      (member : moment ∈ past) (todo : moment.machine.todo = .issue home entry :: rest)
      (made : moment.issued? = some thread) : Origin home past machine thread entry

/-- Own code never changes its label. -/
def Labels {L : Type} (label : C → L) (past : List (Moment n k C ν)) : Prop :=
  ∀ moment ∈ past, ∀ code, moment.move = .think code → label code = label moment.machine.code

/-- The thread is put aside by this move with what it has left: it makes a decision, or it
is made. -/
inductive Moment.Suspends (home : Fin n) (moment : Moment n k C ν) :
    ThreadId → Context n k C ν → Prop
  | pauses {parking : Option (Fin k)} {rest : List (Action n k C ν)} (working : moment.move = .work)
      (todo : moment.machine.todo = .schedule home parking :: rest) :
      Suspends home moment (moment.thread home) ⟨rest, moment.machine.code⟩
  | begins {entry : C} {rest : List (Action n k C ν)} {thread : ThreadId}
      (todo : moment.machine.todo = .issue home entry :: rest)
      (made : moment.issued? = some thread) : Suspends home moment thread ⟨[.begin], entry⟩

/-- The thread was put aside with what it has left, and has made no move since. -/
def PutAside (home : Fin n) (past : List (Moment n k C ν)) (thread : ThreadId)
    (context : Context n k C ν) : Prop :=
  Since (fun moment _ => moment.Suspends home thread context)
    (fun moment => moment.thread home ≠ thread) past

/-- The thread in whose name a piece of work on a mutex is done. -/
def Action.caller? : Action n k C ν → Option ThreadId
  | .claim _ _ me | .claimAgain _ _ me | .woken _ _ me | .acquire _ me | .refuseUnlock _ me =>
      some me
  | _ => none

variable {home : Fin n} {past : List (Moment n k C ν)} {machine : Machine n k C ν}
  {rest : List (Action n k C ν)} {thread : ThreadId} {context : Context n k C ν}

namespace Origin

variable {moment : Moment n k C ν} {after : Machine n k C ν} {entry : C}

theorem later (origin : Origin home past moment.machine thread entry) :
    Origin home (moment :: past) after thread entry := by
  cases origin with
  | main => exact .main
  | made member todo made => exact .made (List.mem_cons_of_mem _ member) todo made

theorem cases_later (origin : Origin home (moment :: past) after thread entry) :
    Origin home past moment.machine thread entry ∨
      moment.issued? = some thread ∧ ∃ rest, moment.machine.todo = .issue home entry :: rest := by
  cases origin with
  | main => exact .inl .main
  | made member todo made =>
      rcases List.mem_cons.mp member with rfl | member
      · exact .inr ⟨made, _, todo⟩
      · exact .inl (.made member todo made)

theorem known (origin : Origin home past machine thread entry) :
    thread = .main ∨ thread ∈ issued past := by
  cases origin with
  | main => exact .inl rfl
  | made member todo made => exact .inr (List.mem_filterMap.mpr ⟨_, member, made⟩)

end Origin

/-- Nobody but the initial context was there before it was made. -/
theorem Run.made_new {moment : Moment n k C ν} {entry : C}
    (run : Run home (moment :: past) machine) (going : machine.outcome = none)
    (todo : moment.machine.todo = .issue home entry :: rest)
    (made : moment.issued? = some thread) : thread ≠ .main ∧ thread ∉ issued past := by
  cases run with
  | @move _ machine move run before fits =>
      have library : move = .work := by
        cases move with
        | work => rfl
        | _ => cases made
      subst library
      exact run.newcomer before todo going made

/-- No two threads bear the same number. -/
theorem Run.names_once (run : Run home past machine) (going : machine.outcome = none) :
    (.main :: issued past).Nodup := by
  induction run with
  | start fresh code => simp [issued]
  | @move past machine move run before fits ih =>
      have once := ih before
      rw [issued, List.filterMap_cons]
      cases made : Moment.issued? ⟨machine, move⟩ with
      | none => exact once
      | some thread =>
          have library : move = .work := by
            cases move with
            | work => rfl
            | _ => cases made
          subst library
          obtain ⟨entry, rest, todo⟩ := (run.sound before).making made
          obtain ⟨younger, unissued⟩ := run.newcomer before todo going made
          obtain ⟨apart, distinct⟩ := List.nodup_cons.mp once
          refine List.nodup_cons.mpr ⟨?_, List.nodup_cons.mpr ⟨unissued, distinct⟩⟩
          intro member
          exact (List.mem_cons.mp member).elim (fun same => younger same.symm) apart

/-- A thread was made once, with one code. -/
theorem Run.origin_unique {entry other : C} (run : Run home past machine)
    (going : machine.outcome = none) (origin : Origin home past machine thread entry)
    (again : Origin home past machine thread other) : entry = other := by
  induction run with
  | start fresh code =>
      cases origin with
      | main =>
          cases again with
          | main => rfl
          | made member => cases member
      | made member => cases member
  | @move past machine move run before fits ih =>
      have new {entry : C} (made : Moment.issued? ⟨machine, move⟩ = some thread)
          (todo : ∃ rest, machine.todo = .issue home entry :: rest) {other : C}
          (known : Origin home past machine thread other) : False := by
        obtain ⟨rest, todo⟩ := todo
        obtain ⟨younger, unissued⟩ := (run.move before fits).made_new going todo made
        exact known.known.elim younger unissued
      rcases origin.cases_later with earlier | ⟨made, todo⟩ <;>
        rcases again.cases_later with earlier' | ⟨made', todo'⟩
      · exact ih before earlier earlier'
      · exact (new made' todo' earlier).elim
      · exact (new made todo earlier').elim
      · obtain ⟨rest, todo⟩ := todo
        obtain ⟨rest', todo'⟩ := todo'
        cases todo.symm.trans todo'
        rfl

/-- A thread has the label of the code that it was made with. -/
theorem Run.labelled {L : Type} {label : C → L} (run : Run home past machine)
    (going : machine.outcome = none) (labels : Labels label past)
    (alive : Alive home machine thread context) :
    ∃ entry, Origin home past machine thread entry ∧ label context.code = label entry := by
  induction run generalizing thread context with
  | start fresh code =>
      obtain ⟨rfl, rfl⟩ := Alive.at_start fresh alive
      exact ⟨code, .main, rfl⟩
  | @move past machine move run before fits ih =>
      have sound := run.sound before
      have earlier {thread : ThreadId} {context : Context n k C ν}
          (alive : Alive home machine thread context) {code : C}
          (same : label code = label context.code) :
          ∃ entry, Origin home (⟨machine, move⟩ :: past) (machine.make move) thread entry ∧
            label code = label entry := by
        obtain ⟨entry, origin, labelled⟩ := ih before
          (fun moment member => labels moment (List.mem_cons_of_mem _ member)) alive
        exact ⟨entry, origin.later, same.trans labelled⟩
      cases sound.evolves before fits going alive with
      | pauses => exact earlier .running rfl
      | waits alive => exact earlier alive rfl
      | @begins entry rest thread working todo made =>
          exact ⟨entry, .made List.mem_cons_self todo made, rfl⟩
      | acts stays =>
          refine earlier .running ?_
          by_cases library : move = .work
          · subst library
            exact congrArg label (sound.code_working before (stays rfl))
          · obtain ⟨host, own, said⟩ := sound.said fits library going
            cases said with
            | @think code => exact labels _ List.mem_cons_self code rfl
            | ask => rfl
            | leave left =>
                rw [left]
                rfl

/-- Whoever is to begin has the code that it was made with. -/
theorem Run.begins_with (run : Run home past machine) (going : machine.outcome = none)
    (alive : Alive home machine thread context) (fresh : context.todo = [.begin]) :
    Origin home past machine thread context.code := by
  induction run generalizing thread context with
  | start start code =>
      obtain ⟨-, rfl⟩ := Alive.at_start start alive
      cases fresh
  | @move past machine move run before fits ih =>
      have sound := run.sound before
      cases sound.evolves before fits going alive with
      | acts stays => exact absurd fresh (sound.unbegun before fits going stays)
      | pauses working todo =>
          obtain ⟨-, _, -, resumes⟩ := stage_resumes (todo ▸ sound.stage)
          exact absurd fresh resumes.begun
      | waits earlier => exact (ih before earlier fresh).later
      | begins working todo made => exact .made List.mem_cons_self todo made

/-- Whoever waits was put aside with what it has left. -/
theorem Run.put_aside (run : Run home past machine) (going : machine.outcome = none)
    (alive : Alive home machine thread context) (waits : thread ≠ machine.thread home) :
    PutAside home past thread context := by
  induction run generalizing thread context with
  | start fresh code =>
      cases alive with
      | running => exact absurd rfl waits
      | ready member => simp [Machine.readyOn, fresh, Runtime.new] at member
      | parked member =>
          simp [Machine.parkedOn, Mutex.new, WaitQueue.empty, OrderedQueue.empty] at member
  | @move past machine move run before fits ih =>
      have sound := run.sound before
      cases sound.evolves before fits going alive with
      | acts stays => exact absurd (sound.keeps_thread before fits going stays).symm waits
      | pauses working todo => exact .inl (.pauses working todo)
      | waits earlier other => exact .inr ⟨ih before earlier other, other.symm⟩
      | begins working todo made => exact .inl (.begins todo made)

theorem Entering.callers {closed : Bool} {todo : List (Action n k C ν)}
    (way : Entering home rest closed todo) :
    ∀ action ∈ todo, action ∈ rest ∨ action.caller? = none := by
  cases way <;> simp +contextual [Action.caller?]

/-- A thread does work on mutexes in its own name. -/
theorem stage_callers {me : ThreadId} {errand : Option (Move n k C ν)} {closed : Bool}
    {todo : List (Action n k C ν)} (stage : Stage home me errand closed todo) :
    ∀ action ∈ todo, ∀ name ∈ action.caller?, name = me := by
  have behind {move : Move n k C ν} {work rest : List (Action n k C ν)}
      (asked : Errand home move rest)
      (named : ∀ action ∈ work, ∀ name ∈ action.caller?, name = me) :
      ∀ action ∈ work ++ rest, ∀ name ∈ action.caller?, name = me := by
    intro action member
    rcases List.mem_append.mp member with member | member
    · exact named action member
    · cases asked <;> simp at member
      all_goals simp [member, Action.caller?]
  cases stage with
  | initial | own | begin | beginning | enter => simp [Action.caller?]
  | piece asked doing =>
      refine behind asked ?_
      cases doing <;> simp [Action.caller?]
  | guarded asked doing way =>
      intro action member
      rcases way.callers action member with member | anonymous
      · refine behind asked ?_ action member
        cases doing <;> simp [Action.caller?]
      · simp [anonymous]

/-- What becomes of the running thread by a decision. -/
structure Passes (home : Fin n) (past : List (Moment n k C ν)) (machine : Machine n k C ν)
    (rest : List (Action n k C ν)) (scheduler : Scheduler (Context n k C ν) ν)
    (rotation : Rotation (Context n k C ν) ν) : Prop where
  stays : rotation.switch = none → machine.step.thread home = machine.thread home
  switches : ∀ switch, rotation.switch = some switch →
    switch.outgoing = machine.thread home ∧ switch.incoming = machine.step.thread home
  /-- The numbers are the same just when the blocks are. -/
  blocks : ∀ switch, rotation.switch = some switch → (switch.outgoing = switch.incoming ↔
    ∃ age, rotation.scheduler.current = scheduler.current.aged age)
  same : machine.step.thread home = machine.thread home →
    machine.step.todo = rest ∧ machine.step.code = machine.code
  other : machine.step.thread home ≠ machine.thread home →
    PutAside home past (machine.step.thread home) ⟨machine.step.todo, machine.step.code⟩

/-- What the running thread is, and by which name. -/
structure Identified (home : Fin n) (past : List (Moment n k C ν)) (machine : Machine n k C ν) :
    Prop where
  names : (.main :: issued past).Nodup
  once : ∀ thread entry other, Origin home past machine thread entry →
    Origin home past machine thread other → entry = other
  /-- The running code is what became of the code that the running thread was made with. -/
  code : ∀ {L : Type} (label : C → L), Labels label past →
    ∃ entry, Origin home past machine (machine.thread home) entry ∧
      label machine.code = label entry
  held : ∀ scheduler, (machine.runtime home).scheduler = some scheduler →
    scheduler.current.id = machine.thread home
  alone : (machine.runtime home).scheduler = none → machine.thread home = .main
  /-- Own code that asks who runs gets this name, and goes on as it was. -/
  current : machine.inOwnCode = true →
    (machine.make (.ask (.current home))).ComesBack home 1 (.id (machine.thread home)) ∧
      (machine.make (.ask (.current home))).step.code = machine.code
  decides : ∀ parking rest, machine.todo = .schedule home parking :: rest →
    machine.step.outcome = none → (machine.runtime home).scheduler.isSome = true →
      ∃ scheduler rotation, machine.deciding? = some (scheduler, .ok rotation) ∧
        Passes home past machine rest scheduler rotation
  /-- Nobody else comes to run. -/
  keeps : ∀ move, move.Fits home machine → (machine.make move).outcome = none →
    (move = .work → ∀ parking rest, machine.todo ≠ .schedule home parking :: rest) →
      (machine.make move).thread home = machine.thread home
  /-- A thread begins before all else it does, with its entry. -/
  begins : machine.todo = [.begin] → Origin home past machine (machine.thread home) machine.code ∧
    (∀ moment ∈ past, moment.thread home ≠ machine.thread home) ∧
      ∃ scheduler, (machine.runtime home).scheduler = some scheduler ∧
        scheduler.current.unstarted = true
  enters : ∀ host unstarted rest, machine.todo = .enter host unstarted :: rest → unstarted = true
  callers : ∀ action ∈ machine.todo, ∀ name ∈ action.caller?, name = machine.thread home
  acquires : ∀ mutex me rest, machine.todo = .acquire mutex me :: rest →
    (machine.step.cells mutex).owner? = some (machine.thread home)
  /-- A thread whose lock succeeds is the owner. -/
  locks : ∀ mutex, errand? home (machine.thread home) past = some (.ask (.lock home mutex)) →
    .reply .done ∈ machine.todo → (machine.cells mutex).owner? = some (machine.thread home)

section decision

variable {parking : Option (Fin k)} {scheduler : Scheduler (Context n k C ν) ν}
  {rotation : Rotation (Context n k C ν) ν}

/-- Outgoing and incoming block are one just when they bear one number. -/
theorem Populated.blocks (populated : Populated home past machine scheduler)
    (decides : ((machine.withTodo rest).save scheduler).Decides
      ((machine.withTodo rest).waiters? parking) rotation)
    {switch : Switch} (switches : rotation.switch = some switch) :
    switch.outgoing = machine.thread home ∧ (switch.outgoing = switch.incoming ↔
      ∃ age, rotation.scheduler.current =
        ((machine.withTodo rest).save scheduler).current.aged age) := by
  have self : ((machine.withTodo rest).save scheduler).current.id = machine.thread home :=
    populated.current
  have next {first : Block (Context n k C ν) ν} (member : first ∈ scheduler.ready.elements) :
      ((machine.withTodo rest).save scheduler).current.id = first.id ↔
        ∃ age, first = ((machine.withTodo rest).save scheduler).current.aged age := by
    have apart := populated.apart_ready member
    refine iff_of_false (fun same => apart same.symm) ?_
    rintro ⟨age, rfl⟩
    exact apart rfl
  cases decides with
  | stays => cases switches
  | requeues status filed =>
      cases switches
      refine ⟨self, ?_⟩
      rcases OrderedQueue.mem_insertByAge.mp (filed ▸ List.mem_cons_self) with rfl | member
      · exact iff_of_true rfl ⟨_, rfl⟩
      · exact next member
  | completes status ready | parks place status ready =>
      cases switches
      exact ⟨self, next (show _ ∈ scheduler.ready.elements from ready ▸ List.mem_cons_self)⟩

theorem Run.passes (run : Run home past machine) (going : machine.outcome = none)
    (todo : machine.todo = .schedule home parking :: rest) (goes : machine.step.outcome = none)
    (present : (machine.runtime home).scheduler = some scheduler) :
    ∃ scheduler rotation, machine.deciding? = some (scheduler, .ok rotation) ∧
      Passes home past machine rest scheduler rotation := by
  have sound := run.sound going
  have populated := sound.populated scheduler present
  have step := Machine.step_eq going todo
  change machine.step = (machine.withTodo rest).schedule home parking at step
  obtain ⟨rotation, rotated, scheduled⟩ :=
    Machine.schedule_rotated (machine.withTodo rest) present (step ▸ goes)
  have decides := Scheduler.decides_of_rotate rotated
  rw [← step] at scheduled
  have decided : machine.deciding? =
      some ((machine.withTodo rest).save scheduler, .ok rotation) := by
    rw [Machine.deciding?, todo]
    simp only [present, Option.map_some, rotated]
  -- Whoever runs after the decision has made it, or was waiting.
  have evolves := sound.evolves_deciding going todo goes .running
  refine ⟨_, rotation, decided, ?_⟩
  constructor
  case stays => exact fun unswitched => (scheduled.stayed unswitched).1
  case switches =>
    intro switch switches
    exact ⟨(populated.blocks decides switches).1, (scheduled.switched switch switches).1.symm⟩
  case blocks => exact fun switch switches => (populated.blocks decides switches).2
  case same =>
    intro same
    generalize here : (⟨machine.step.todo, machine.step.code⟩ : Context n k C ν) = context
      at evolves
    rw [same] at evolves
    generalize self : machine.thread home = thread at evolves
    cases evolves with
    | acts stays => exact absurd todo (stays rfl _ _)
    | waits alive other => exact absurd self.symm other
    | begins _ issuing => cases todo.symm.trans issuing
    | pauses _ deciding =>
        cases todo.symm.trans deciding
        exact ⟨congrArg Context.todo here, congrArg Context.code here⟩
  case other =>
    intro other
    generalize (⟨machine.step.todo, machine.step.code⟩ : Context n k C ν) = context at evolves ⊢
    generalize machine.step.thread home = thread at evolves other ⊢
    cases evolves with
    | acts | pauses => exact absurd rfl other
    | waits alive => exact run.put_aside going alive other
    | begins _ issuing => cases todo.symm.trans issuing

end decision

/-- Along a run a thread's own code is always told the number that it was made with, and
a thread is resumed where it was put aside. -/
theorem Run.identifies (run : Run home past machine) (going : machine.outcome = none) :
    Identified home past machine := by
  have sound := run.sound going
  constructor
  case names => exact run.names_once going
  case once => exact fun thread entry other => run.origin_unique going
  case code => exact fun label labels => run.labelled going labels .running
  case held => exact fun scheduler present => (sound.populated scheduler present).current
  case alone => exact fun absent => (sound.unpopulated absent).current
  case current =>
    intro inside
    obtain ⟨host, rest, own⟩ := Machine.own_of_inOwnCode inside
    have todo : (machine.make (.ask (.current home))).todo =
        .readCurrent home :: .own host :: rest := by
      change [.readCurrent home] ++ machine.todo = _
      rw [own]
      rfl
    have goes : (machine.make (.ask (.current home))).outcome = none := going
    have step := Machine.step_eq goes todo
    have library : (machine.make (.ask (.current home))).inOwnCode = false := by
      rw [Machine.inOwnCode, todo]
      rfl
    have back : (machine.make (.ask (.current home))).step.inOwnCode = true := by
      rw [step]
      rfl
    have answered : (machine.make (.ask (.current home))).step.answer =
        .id (machine.thread home) := by
      rw [step]
      rfl
    refine ⟨(answered ▸ Machine.ComesBack.of_own back).work goes library ?_, ?_⟩
    · rw [step]
      rfl
    · rw [step]
      rfl
  case decides =>
    intro parking rest todo goes populated
    obtain ⟨scheduler, present⟩ := Option.isSome_iff_exists.mp populated
    exact run.passes going todo goes present
  case keeps => exact fun move => sound.keeps_thread going
  case begins =>
    intro fresh
    exact ⟨run.begins_with going .running fresh, run.untaken going .running fresh,
      (run.fresh going).running fresh⟩
  case enters =>
    exact fun host unstarted rest entering => (run.fresh going).entering _ _ _ (.inl entering)
  case callers => exact stage_callers sound.stage
  case acquires =>
    intro mutex me rest todo
    have caller : me = machine.thread home :=
      stage_callers sound.stage _ (todo ▸ List.mem_cons_self) _ rfl
    subst caller
    have marked : machine.step.cells mutex =
        (machine.cells mutex).setOwner (machine.thread home) := by
      rw [Machine.step_eq going todo]
      exact Machine.cells_setMutex_self ..
    rw [marked, Mutex.owner?, if_neg (by exact sound.real)]
    rfl
  case locks => exact fun mutex errand member => run.granted going errand member

/-- A context whose code is a number. The timer comes in at the third closing. -/
def numbered : Machine 1 1 Nat Nat :=
  .start #v[.new .standard (.new .scripted fun closing => closing == 3)] 0

/-- Thread 1 goes on from code 1 to 11, is preempted at the head of a yield, and is
resumed in its timer's entry. -/
def resuming : List (Move 1 1 Nat Nat) :=
  Move.calling (.create sole 1) 5 ++ Move.calling (.yield sole) 5 ++
    .think 11 :: Move.calling (.yield sole) 6 ++ Move.calling (.yield sole) 2

theorem identifies_resumed :
    (numbered.play resuming).thread sole = ⟨1⟩ ∧ (numbered.play resuming).code = 11 ∧
      Identified sole (trail [] numbered resuming) (numbered.play resuming) := by
  have run := Run.play (.start rfl 0) resuming (by decide : numbered.allows sole resuming = true)
  exact ⟨rfl, rfl, run.identifies rfl⟩

end UserThreads
