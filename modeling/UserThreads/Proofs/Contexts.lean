import UserThreads.Proofs.Numbering
import UserThreads.Proofs.Rounds

/-!
Contexts of threads: what each thread that has not ended has left to do, with the
state of its own code, and where it has that from after a move. Whoever is in its own
code has come back from the library since it was sent there.
-/

namespace UserThreads

variable {n k : Nat} {C ν : Type}

/-- The threads that have not ended, with their contexts. -/
inductive Alive (home : Fin n) (machine : Machine n k C ν) :
    ThreadId → Context n k C ν → Prop
  | running : Alive home machine (machine.thread home) ⟨machine.todo, machine.code⟩
  | ready {block : Block (Context n k C ν) ν} (member : block ∈ machine.readyOn home) :
      Alive home machine block.id block.context
  | parked {mutex : Fin k} {block : Block (Context n k C ν) ν}
      (member : block ∈ machine.parkedOn mutex) : Alive home machine block.id block.context

/-- How a thread comes to its context by a move. -/
inductive Evolves (home : Fin n) (machine : Machine n k C ν) (move : Move n k C ν) :
    ThreadId → Context n k C ν → Prop
  /-- It makes the move, and goes on. -/
  | acts (stays : move = .work → ∀ parking rest, machine.todo ≠ .schedule home parking :: rest) :
      Evolves home machine move (machine.thread home)
        ⟨(machine.make move).todo, (machine.make move).code⟩
  /-- It makes a decision, after which it waits or goes on. -/
  | pauses {parking : Option (Fin k)} {rest : List (Action n k C ν)} (working : move = .work)
      (todo : machine.todo = .schedule home parking :: rest) :
      Evolves home machine move (machine.thread home) ⟨rest, machine.code⟩
  | waits {thread : ThreadId} {context : Context n k C ν}
      (alive : Alive home machine thread context) (other : thread ≠ machine.thread home) :
      Evolves home machine move thread context
  | begins {entry : C} {rest : List (Action n k C ν)} {thread : ThreadId}
      (working : move = .work) (todo : machine.todo = .issue home entry :: rest)
      (issued : Moment.issued? ⟨machine, move⟩ = some thread) :
      Evolves home machine move thread ⟨[.begin], entry⟩

variable {home : Fin n} {past : List (Moment n k C ν)} {machine after : Machine n k C ν}
  {action : Action n k C ν} {rest : List (Action n k C ν)} {parking : Option (Fin k)}
  {scheduler : Scheduler (Context n k C ν) ν} {rotation : Rotation (Context n k C ν) ν}
  {thread : ThreadId} {context : Context n k C ν}

namespace Sound

theorem apart_ready (sound : Sound home past machine) {block : Block (Context n k C ν) ν}
    (member : block ∈ machine.readyOn home) : block.id ≠ machine.thread home := by
  cases present : (machine.runtime home).scheduler with
  | none =>
      rw [Machine.readyOn, present] at member
      cases member
  | some scheduler =>
      have populated := sound.populated scheduler present
      rw [Machine.readyOn_eq present] at member
      exact populated.current ▸ populated.apart_ready member

theorem apart_parked (sound : Sound home past machine) {mutex : Fin k}
    {block : Block (Context n k C ν) ν} (member : block ∈ machine.parkedOn mutex) :
    block.id ≠ machine.thread home := by
  cases present : (machine.runtime home).scheduler with
  | none =>
      rw [(sound.unpopulated present).parked] at member
      cases member
  | some scheduler =>
      have populated := sound.populated scheduler present
      exact populated.current ▸ populated.apart_parked member

theorem alive_running (sound : Sound home past machine)
    (alive : Alive home machine (machine.thread home) context) :
    context = ⟨machine.todo, machine.code⟩ := by
  generalize running : machine.thread home = thread at alive
  cases alive with
  | running => rfl
  | ready member => exact absurd running.symm (sound.apart_ready member)
  | parked member => exact absurd running.symm (sound.apart_parked member)

end Sound

namespace Machine

theorem code_setWaiters (before : Machine n k C ν) (parking : Option (Fin k))
    (waiting : Option (WaitQueue (Context n k C ν) ν)) :
    (before.setWaiters parking waiting).code = before.code := by
  unfold setWaiters
  split <;> rfl

/-- A decision goes over to the code of the thread that it seats. -/
theorem schedule_code (before : Machine n k C ν)
    (present : (before.runtime home).scheduler = some scheduler)
    (rotated : (before.save scheduler).rotate (before.waiters? parking) = .ok rotation)
    (goes : (before.schedule home parking).outcome = none) :
    (before.schedule home parking).code = match rotation.switch with
      | none => before.code
      | some switch =>
          if switch.outgoing = switch.incoming then before.code
          else rotation.scheduler.current.context.code := by
  simp only [schedule, present, rotated] at goes ⊢
  cases decided : rotation.switch with
  | none => exact before.code_setWaiters parking rotation.waiting
  | some switch =>
      simp only [decided] at goes ⊢
      cases armed : (before.runtime home).gate.arm (before.runtime home).config.timerInterval with
      | error failure =>
          rw [armed] at goes
          cases goes
      | ok gate =>
          simp only
          split
          · exact before.code_setWaiters parking rotation.waiting
          · rfl

end Machine

/-- Whoever runs after a decision has the code of its block. -/
theorem Machine.Scheduled.seated_code
    (scheduled : Machine.Scheduled home parking (machine.withTodo rest) rotation
      ((machine.withTodo rest).schedule home parking))
    (populated : Populated home past machine scheduler)
    (present : (machine.runtime home).scheduler = some scheduler)
    (rotated : ((machine.withTodo rest).save scheduler).rotate
      ((machine.withTodo rest).waiters? parking) = .ok rotation)
    (goes : ((machine.withTodo rest).schedule home parking).outcome = none) :
    ((machine.withTodo rest).schedule home parking).code =
      rotation.scheduler.current.context.code := by
  have code := (machine.withTodo rest).schedule_code present rotated goes
  have decides := Scheduler.decides_of_rotate rotated
  rw [code]
  cases decides with
  | stays alone =>
      simp only [Block.unblock_context]
      rfl
  | requeues status filed =>
      simp only
      split
      · rename_i same
        rcases OrderedQueue.mem_insertByAge.mp (filed ▸ List.mem_cons_self) with rfl | member
        · rfl
        · exact absurd same.symm (populated.apart_ready member)
      · rfl
  | completes status next | parks place status next =>
      refine if_neg fun same => ?_
      exact absurd same.symm (populated.apart_ready (next ▸ List.mem_cons_self))

namespace Sound

/-- Where no queue has changed, only the running thread's context has. -/
theorem alive_spoken (sound : Sound home past machine) (runtimes : after.runtime = machine.runtime)
    (mutexes : after.cells = machine.cells) (alive : Alive home after thread context) :
    thread = machine.thread home ∧ context = ⟨after.todo, after.code⟩ ∨
      Alive home machine thread context ∧ thread ≠ machine.thread home := by
  cases alive with
  | running => exact .inl ⟨by rw [Machine.thread, runtimes, Machine.thread], rfl⟩
  | ready member =>
      rw [Machine.readyOn, runtimes, ← Machine.readyOn] at member
      exact .inr ⟨.ready member, sound.apart_ready member⟩
  | parked member =>
      rw [Machine.parkedOn, mutexes, ← Machine.parkedOn] at member
      exact .inr ⟨.parked member, sound.apart_parked member⟩

theorem evolves_own {move : Move n k C ν} (sound : Sound home past machine) (own : move ≠ .work)
    (alive : Alive home (machine.make move) thread context) :
    Evolves home machine move thread context := by
  obtain ⟨runtimes, mutexes, -⟩ := machine.make_own own
  rcases sound.alive_spoken runtimes mutexes alive with ⟨rfl, rfl⟩ | ⟨alive, other⟩
  · exact .acts fun working => absurd working own
  · exact .waits alive other

theorem evolves_deciding (sound : Sound home past machine) (going : machine.outcome = none)
    (todo : machine.todo = .schedule home parking :: rest) (goes : machine.step.outcome = none)
    (alive : Alive home machine.step thread context) :
    Evolves home machine .work thread context := by
  have after : machine.step = (machine.withTodo rest).schedule home parking :=
    Machine.step_eq going todo
  have paused : Evolves home machine .work (machine.thread home) ⟨rest, machine.code⟩ :=
    .pauses rfl todo
  cases present : (machine.runtime home).scheduler with
  | none =>
      have unpopulated := sound.unpopulated present
      rw [(machine.withTodo rest).schedule_of_none present] at after
      rw [after] at alive
      cases alive with
      | running => exact paused
      | ready member =>
          rw [Machine.readyOn, Machine.runtime_withTodo, present] at member
          cases member
      | parked member =>
          change _ ∈ machine.parkedOn _ at member
          rw [unpopulated.parked] at member
          cases member
  | some scheduler =>
      have populated := sound.populated scheduler present
      rw [after] at goes alive
      obtain ⟨rotation, rotated, scheduled⟩ :=
        Machine.schedule_rotated (machine.withTodo rest) present goes
      have decides := Scheduler.decides_of_rotate rotated
      have filed {block : Block (Context n k C ν) ν}
          (filed : ((machine.withTodo rest).save scheduler).Filed rotation block) :
          Evolves home machine .work block.id block.context := by
        have self : block.id = machine.thread home := filed.id.trans populated.current
        rw [self, filed.context]
        exact paused
      have line {block : Block (Context n k C ν) ν}
          (member : block ∈ rotation.scheduler.current :: rotation.scheduler.ready.elements) :
          Evolves home machine .work block.id block.context := by
        rcases decides.seated member with member | same
        · have member : block ∈ machine.readyOn home := Machine.readyOn_eq present ▸ member
          exact .waits (.ready member) (sound.apart_ready member)
        · exact filed same
      cases alive with
      | running =>
          obtain ⟨seat, left⟩ := scheduled.seated populated decides
          have code := scheduled.seated_code populated present rotated goes
          rw [seat, left, code]
          exact line List.mem_cons_self
      | ready member =>
          rw [Machine.readyOn_eq scheduled.scheduler] at member
          exact line (List.mem_cons_of_mem _ member)
      | parked member =>
          rcases scheduled.parked decides member with member | same
          · exact .waits (.parked member) (sound.apart_parked member)
          · exact filed same

/-- A new thread is about to begin with its entry. -/
theorem evolves_issuing {entry : C} {nextId : UInt32} (going : machine.outcome = none)
    (todo : machine.todo = .issue home entry :: rest)
    (present : (machine.runtime home).scheduler = some scheduler)
    (seated : (machine.step.runtime home).scheduler =
      some (Scheduler.makeReady { scheduler with nextId }
        { Block.new (machine.runtime home).config.stackSize ⟨[.begin], entry⟩ with
          id := ⟨scheduler.nextId⟩ }))
    (next : nextId.toNat = scheduler.nextId.toNat + 1) (goes : machine.step.outcome = none) :
    Evolves home machine .work ⟨scheduler.nextId⟩ ⟨[.begin], entry⟩ := by
  obtain ⟨other, answer, found, issues, -⟩ := issues_of_step going todo goes
  cases present.symm.trans found
  generalize made : Moment.issued? ⟨machine, .work⟩ = fresh at issues
  cases issues with
  | full limit same =>
      have same := congrArg Scheduler.nextId (Option.some.inj (same.symm.trans seated))
      change scheduler.nextId = nextId at same
      rw [same] at next
      omega
  | made => exact .begins rfl todo made

theorem evolves_working (sound : Sound home past machine) (going : machine.outcome = none)
    (todo : machine.todo = action :: rest) (apart : ∀ parking, action ≠ .schedule home parking)
    (library : machine.inOwnCode = false) (goes : machine.step.outcome = none)
    (alive : Alive home machine.step thread context) :
    Evolves home machine .work thread context := by
  have stays := (sound.proceeds going todo apart library goes).stays
  have waits {block : Block (Context n k C ν) ν} (member : block ∈ machine.readyOn home) :
      Evolves home machine .work block.id block.context :=
    .waits (.ready member) (sound.apart_ready member)
  have parked {mutex : Fin k} {block : Block (Context n k C ν) ν}
      (member : block ∈ machine.parkedOn mutex) :
      Evolves home machine .work block.id block.context :=
    .waits (.parked member) (sound.apart_parked member)
  cases alive with
  | running =>
      refine stays.thread ▸ .acts fun _ parking left same => ?_
      exact apart parking (List.cons.inj (todo.symm.trans same)).1
  | parked member => exact parked (stays.parked _ _ member)
  | ready member =>
      cases sound.shift going todo apart goes with
      | keeps same | drops same =>
          rw [Machine.readyOn, same, ← Machine.readyOn] at member
          exact waits member
      | activates absent present =>
          rw [Machine.readyOn_eq present] at member
          cases member
      | begins present seated | blocks present seated | completes present seated
      | reaps present seated =>
          rw [Machine.readyOn_eq seated] at member
          exact waits (Machine.readyOn_eq present ▸ member)
      | issues present seated next =>
          rw [Machine.readyOn_eq seated] at member
          rcases OrderedQueue.mem_insertByAge.mp member with rfl | member
          · exact evolves_issuing going todo present seated next goes
          · exact waits (Machine.readyOn_eq present ▸ member)
      | @wakes _ mutex _ waiter present seated first =>
          rw [Machine.readyOn_eq seated] at member
          rcases OrderedQueue.mem_insertByAge.mp member with rfl | member
          · have inside : waiter ∈ machine.parkedOn mutex := first ▸ List.mem_cons_self
            have woken := parked inside
            exact woken
          · exact waits (Machine.readyOn_eq present ▸ member)

/-- Whoever is alive after a move was so before, unless it is new. -/
theorem evolves {move : Move n k C ν} (sound : Sound home past machine)
    (going : machine.outcome = none) (fits : move.Fits home machine)
    (goes : (machine.make move).outcome = none)
    (alive : Alive home (machine.make move) thread context) :
    Evolves home machine move thread context := by
  by_cases library : move = .work
  · subst library
    cases sound.next with
    | decides todo => exact sound.evolves_deciding going todo goes alive
    | works todo apart => exact sound.evolves_working going todo (apart home) fits goes alive
  · exact sound.evolves_own library alive

end Sound

theorem Sound.making (sound : Sound home past machine)
    (made : Moment.issued? ⟨machine, .work⟩ = some thread) :
    ∃ entry rest, machine.todo = .issue home entry :: rest := by
  cases todo : machine.todo with
  | nil => exact absurd todo (stage_ne_nil sound.stage)
  | cons action rest =>
      rw [Moment.issued?, todo] at made
      cases action with
      | issue index entry =>
          have stage := todo ▸ sound.stage
          obtain rfl : index = home := stage_keepsTo stage
          exact ⟨entry, rest, rfl⟩
      | _ => cases made

/-- Whoever makes a thread has called for it. -/
theorem Sound.creating {entry : C} (sound : Sound home past machine)
    (todo : machine.todo = .issue home entry :: rest) :
    errand? home (machine.thread home) past = some (.ask (.create home entry)) := by
  obtain ⟨request, errand, -, -, steps⟩ := stage_earning (todo ▸ sound.stage) rfl
  cases steps with
  | way gate => cases gate
  | issues => exact errand

/-- A new thread has called for nothing. -/
theorem Sound.newborn {entry : C} (sound : Sound home past machine) (going : machine.outcome = none)
    (todo : machine.todo = .issue home entry :: rest) (goes : machine.step.outcome = none)
    (issued : Moment.issued? ⟨machine, .work⟩ = some thread) :
    machine.Unborn home thread ∧ errand? home thread past = none := by
  obtain ⟨scheduler, answer, present, issues, -⟩ := issues_of_step going todo goes
  rw [issued] at issues
  generalize made : some thread = fresh at issues
  cases issues with
  | full => cases made
  | made room seated next =>
      cases made
      refine ⟨fun other now => ?_, (sound.populated scheduler present).unborn _ (Nat.le_refl _)⟩
      cases present.symm.trans now
      exact Nat.le_refl _

theorem eq_of_distinct {blocks : List (Block (Context n k C ν) ν)}
    (distinct : (blocks.map Block.id).Nodup) {one other : Block (Context n k C ν) ν}
    (member : one ∈ blocks) (among : other ∈ blocks) (same : one.id = other.id) : one = other := by
  have apart := List.pairwise_map.mp distinct
  have equal : ∀ ⦃left⦄, left ∈ blocks → ∀ ⦃right⦄, right ∈ blocks →
      left.id = right.id → left = right :=
    List.Pairwise.forall_of_forall_of_flip (fun _ _ _ => rfl)
      (apart.imp fun differ same => absurd same differ)
      (apart.imp fun differ same => absurd same.symm differ)
  exact equal member among same

/-- Whoever is parked has nothing left but what its block says. -/
theorem Sound.alive_parked {mutex : Fin k} {block : Block (Context n k C ν) ν}
    (sound : Sound home past machine) (member : block ∈ machine.parkedOn mutex)
    (alive : Alive home machine block.id context) : context = block.context := by
  have inside : block ∈ machine.readyOn home ++ machine.parked :=
    List.mem_append_right _ (Machine.mem_parked.mpr ⟨mutex, member⟩)
  have same (other : Block (Context n k C ν) ν) (id : block.id = other.id)
      (among : other ∈ machine.readyOn home ++ machine.parked) : other.context = block.context := by
    rw [eq_of_distinct sound.waiting_distinct inside among id]
  generalize named : block.id = thread at alive
  cases alive with
  | running => exact absurd named (sound.apart_parked member)
  | ready other => exact same _ named (List.mem_append_left _ other)
  | parked other =>
      exact same _ named (List.mem_append_right _ (Machine.mem_parked.mpr ⟨_, other⟩))

/-- Whoever waits through a move with an errand was left with the same before it. -/
theorem Sound.alive_before {move : Move n k C ν} (sound : Sound home past machine)
    (going : machine.outcome = none) (fits : move.Fits home machine)
    (goes : (machine.make move).outcome = none) (other : thread ≠ machine.thread home)
    (busy : errand? home thread past ≠ none)
    (alive : Alive home (machine.make move) thread context) :
    Alive home machine thread context := by
  cases sound.evolves going fits goes alive with
  | acts | pauses => exact absurd rfl other
  | waits alive => exact alive
  | begins working todo issued =>
      subst working
      exact absurd (sound.newborn going todo goes issued).2 busy

theorem Run.newborn_unissued {entry : C} (run : Run home past machine)
    (going : machine.outcome = none) (todo : machine.todo = .issue home entry :: rest)
    (goes : machine.step.outcome = none)
    (made : Moment.issued? ⟨machine, .work⟩ = some thread) : thread ∉ issued past := by
  obtain ⟨scheduler, answer, present, issues, -⟩ := issues_of_step going todo goes
  rw [made] at issues
  generalize name : some thread = fresh at issues
  cases issues with
  | full => cases name
  | made room seated next =>
      cases name
      intro member
      have numbered := run.numbered going (Nat.zero_lt_of_lt room)
      have count := numbered.next scheduler present
      have below : scheduler.nextId.toNat ≤ _ := (numbered.below member).2
      omega

/-- Between decisions the same code runs. -/
theorem Sound.code_working (sound : Sound home past machine) (going : machine.outcome = none)
    (working : ∀ parking rest, machine.todo ≠ .schedule home parking :: rest) :
    machine.step.code = machine.code := by
  cases todo : machine.todo with
  | nil => exact absurd todo (stage_ne_nil sound.stage)
  | cons action rest =>
      rw [Machine.step_eq going todo]
      have constant : Machine.Constant home (machine.withTodo rest)
          ((machine.withTodo rest).perform action) := by
        refine (machine.withTodo rest).perform_constant fun index parking same => ?_
        subst same
        obtain rfl := stage_host (todo ▸ sound.stage)
        exact working parking rest todo
      exact constant.code

/-- At the start nobody but the initial context is there. -/
theorem Alive.at_start {runtimes : Vector (Runtime n k C ν) n} {config : Config}
    {kind : GateKind} {plan : Nat → Bool} {code : C}
    (fresh : runtimes.get home = .new config (.new kind plan))
    (alive : Alive home (.start runtimes code) thread context) :
    thread = .main ∧ context = ⟨[.own none], code⟩ := by
  have sound := Sound.start fresh code
  have absent : ((Machine.start runtimes code).runtime home).scheduler = none := by
    simp [fresh, Runtime.new]
  have unpopulated := sound.unpopulated absent
  cases alive with
  | running => exact ⟨unpopulated.current, rfl⟩
  | ready member =>
      rw [Machine.readyOn, absent] at member
      cases member
  | parked member =>
      rw [unpopulated.parked] at member
      cases member

/-- Until a thread is made, the initial context is alone. -/
theorem Run.alone (run : Run home past machine) (going : machine.outcome = none)
    (unmade : issued past = []) (alive : Alive home machine thread context) : thread = .main := by
  induction run generalizing thread context with
  | start fresh code => exact (Alive.at_start fresh alive).1
  | @move past machine move run before fits ih =>
      have unissued : Moment.issued? ⟨machine, move⟩ = none ∧ issued past = [] := by
        rw [issued, List.filterMap_cons] at unmade
        cases fresh : Moment.issued? ⟨machine, move⟩ with
        | none => exact ⟨rfl, by rwa [fresh] at unmade⟩
        | some thread =>
            rw [fresh] at unmade
            cases unmade
      cases (run.sound before).evolves before fits going alive with
      | acts | pauses => exact ih before unissued.2 .running
      | waits earlier => exact ih before unissued.2 earlier
      | begins working todo issued => exact absurd (unissued.1.symm.trans issued) (by simp)

/-- The thread has come back from the library by this move. -/
def Moment.ComesBack (home : Fin n) (thread : ThreadId) (moment : Moment n k C ν) : Prop :=
  moment.thread home = thread ∧ moment.move = .work ∧ ∃ answer, moment.Answers answer

/-- A thread that is in its own code has come back from its last errand. -/
theorem Run.came_back {host : Option (Fin n)} (run : Run home past machine)
    (going : machine.outcome = none) (alive : Alive home machine thread context)
    (own : context.todo = [.own host]) (sent : errand? home thread past ≠ none) :
    Since (fun moment _ => moment.ComesBack home thread)
      (fun moment => moment.thread home = thread → moment.enters = false) past := by
  induction run generalizing thread context host with
  | start fresh code => exact absurd rfl sent
  | @move past machine move run before fits ih =>
      have sound := run.sound before
      cases sound.evolves before fits going alive with
      | waits earlier other =>
          have elsewhere : Moment.thread home ⟨machine, move⟩ ≠ thread := fun same =>
            other same.symm
          rw [errand_of_other elsewhere] at sent
          exact .inr ⟨ih before earlier own sent, fun same => absurd same elsewhere⟩
      | pauses working todo =>
          obtain ⟨-, _, -, resumes⟩ := stage_resumes (todo ▸ sound.stage)
          obtain ⟨first, others, left, foreign⟩ := resumes.foreign
          cases left.symm.trans own
          cases foreign
      | begins => cases own
      | acts stays =>
          have own : (machine.make move).todo = [.own host] := own
          have inside : (machine.make move).inOwnCode = true := Machine.inOwnCode_eq own
          by_cases library : move = .work
          · subst library
            exact .inl ⟨rfl, rfl, _, fits, inside, rfl⟩
          · obtain ⟨host, todo, said⟩ := sound.said fits library going
            cases said with
            | @think code =>
                have stays : Moment.enters ⟨machine, .think code⟩ = false := rfl
                rw [errand_of_stays stays] at sent
                exact .inr ⟨ih before .running todo sent, fun _ => stays⟩
            | @ask request =>
                have left : (machine.make (.ask request)).todo = request.actions ++ machine.todo :=
                  rfl
                rw [left] at own
                cases request <;> cases own
            | leave left =>
                rw [left] at own
                cases own

/-- A thread goes into the library again only after it has come back. -/
theorem Run.back_between {recent older : List (Moment n k C ν)} {asking : Moment n k C ν}
    (run : Run home (recent ++ asking :: older) machine)
    (asks : asking.enters = true) :
    (∀ moment ∈ recent, moment.thread home = asking.thread home → moment.enters = false) ∨
      ∃ later back between, recent = later ++ back :: between ∧
        back.ComesBack home (asking.thread home) ∧
        ∀ moment ∈ between, moment.thread home = asking.thread home → moment.enters = false := by
  induction recent generalizing machine with
  | nil => exact .inl fun moment member => (nomatch member)
  | cons moment recent ih =>
      cases run with
      | @move _ machine move run before fits =>
          have run : Run home (recent ++ asking :: older) machine := run
          rcases ih run with alone | ⟨later, back, between, split, comes, alone⟩
          · by_cases again : machine.thread home = asking.thread home ∧
                Moment.enters ⟨machine, move⟩ = true
            · obtain ⟨same, enters⟩ := again
              have library : move ≠ .work := by
                rintro rfl
                cases enters
              obtain ⟨host, rest, todo⟩ := Machine.own_of_inOwnCode (fits.own library)
              obtain ⟨-, rfl, -⟩ := (run.sound before).own_todo todo
              have errand : errand? home (asking.thread home) (recent ++ asking :: older) =
                  some asking.move := errand_of_alone asks alone
              have since := run.came_back before .running todo (by rw [same, errand]; simp)
              rw [same] at since
              have unstarted : ¬asking.ComesBack home (asking.thread home) := by
                rintro ⟨-, working, -⟩
                simp [Moment.enters, working] at asks
              obtain ⟨later, back, between, split, comes⟩ :=
                since.split unstarted fun stays => absurd (asks.symm.trans (stays rfl)) (by decide)
              refine .inr ⟨⟨machine, move⟩ :: later, back, between, by rw [split]; rfl, comes, ?_⟩
              intro other member
              exact alone other (split ▸ List.mem_append_right _ (List.mem_cons_of_mem _ member))
            · refine .inl fun moment member same => ?_
              rcases List.mem_cons.mp member with rfl | member
              · exact eq_false_of_ne_true fun enters => again ⟨same, enters⟩
              · exact alone moment member same
          · exact .inr ⟨⟨machine, move⟩ :: later, back, between, by rw [split]; rfl, comes, alone⟩

end UserThreads
