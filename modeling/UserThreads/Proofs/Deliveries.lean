import UserThreads.Proofs.Contexts

/-!
Deliveries: a join takes a thread off the completed ones with the value that the thread
has ended with, and what it has earned so stays right.
-/

namespace UserThreads

variable {n k : Nat} {C ν : Type}

/-- The thread and the value that a join comes back with. -/
def delivery? : Call n k C ν × Reply ν → Option (ThreadId × ν)
  | (.join _ thread, .value value) | (.tryJoin _ thread, .value value) => some (thread, value)
  | _ => none

/-- The values that joins have come back with, each with its thread, the last one first. -/
def deliveries (home : Fin n) (past : List (Moment n k C ν)) : List (ThreadId × ν) :=
  (returns home past).filterMap delivery?

/-- The blocks of the threads that have ended and wait to be joined. -/
def Machine.completedOn (machine : Machine n k C ν) (home : Fin n) :
    List (Block (Context n k C ν) ν) :=
  match (machine.runtime home).scheduler with
  | none => []
  | some scheduler => scheduler.completed.elements

/-- What a creation or a join may come back with. -/
inductive CreateJoinAnswer (home : Fin n) (past : List (Moment n k C ν)) :
    Call n k C ν × Reply ν → Prop
  | creation {entry : C} {answer : Reply ν} :
      CreateJoinAnswer home past (.create home entry, answer)
  | join {thread : ThreadId} {value : ν} (ends : exitValue? home thread past = some value) :
      CreateJoinAnswer home past (.join home thread, .value value)
  | tryJoin {thread : ThreadId} {value : ν} (ends : exitValue? home thread past = some value) :
      CreateJoinAnswer home past (.tryJoin home thread, .value value)
  | refusal {thread : ThreadId} :
      CreateJoinAnswer home past (.tryJoin home thread, .failed ⟨Failure.tryAgain, .notCompleted⟩)

/-- What comes of an attempt to join: either the thread is taken off the completed ones,
or it is not there and all stays as it is. -/
inductive JoinAttempt (home : Fin n) (past : List (Moment n k C ν))
    (machine after : Machine n k C ν) (thread : ThreadId) : Option ThreadId → Reply ν → Prop
  | missed (absent : ∀ block ∈ machine.completedOn home, block.id ≠ thread)
      (scheduler : (after.runtime home).scheduler = (machine.runtime home).scheduler)
      (cells : after.cells = machine.cells) :
      JoinAttempt home past machine after thread none (.failed ⟨Failure.tryAgain, .notCompleted⟩)
  | taken {value : ν} (ended : ∃ block ∈ machine.completedOn home, block.id = thread)
      (ends : exitValue? home thread past = some value) :
      JoinAttempt home past machine after thread (some thread) (.value value)

variable {home : Fin n} {past later : List (Moment n k C ν)} {machine after : Machine n k C ν}
  {action : Action n k C ν} {rest : List (Action n k C ν)} {thread target : ThreadId}

namespace Machine

theorem completedOn_eq {scheduler : Scheduler (Context n k C ν) ν}
    (present : (machine.runtime home).scheduler = some scheduler) :
    machine.completedOn home = scheduler.completed.elements := by
  rw [completedOn, present]

theorem reap_eq_none (machine : Machine n k C ν) : machine.reap? home thread = none ↔
    ∀ block ∈ machine.completedOn home, block.id ≠ thread := by
  unfold reap? completedOn
  cases (machine.runtime home).scheduler with
  | none => simp
  | some scheduler =>
      simp only [Option.map_eq_none_iff, Scheduler.reap?]
      exact OrderedQueue.removeById_eq_none

end Machine

namespace Sound

/-- A thread that is taken off the completed ones has its value. -/
theorem reaps_ended {block : Block (Context n k C ν) ν} {reaping : Machine n k C ν}
    (sound : Sound home past machine)
    (found : (machine.withTodo rest).reap? home thread = some (block, reaping)) :
    ∃ value, block.value = some value ∧ exitValue? home thread past = some value ∧
      ∃ ended ∈ machine.completedOn home, ended.id = thread := by
  obtain ⟨scheduler, completed, present, rfl, arranged, rfl⟩ := Machine.reap_eq found
  have present : (machine.runtime home).scheduler = some scheduler := present
  have member : block ∈ scheduler.completed.elements :=
    arranged.mem_iff.mpr List.mem_cons_self
  have ended := (sound.populated scheduler present).completed block member
  obtain ⟨value, has⟩ := Option.isSome_iff_exists.mp ended.ended
  exact ⟨value, has, ended.value.symm.trans has, block,
    Machine.completedOn_eq present ▸ member, rfl⟩

theorem tries (sound : Sound home past machine) (going : machine.outcome = none)
    (todo : machine.todo = .tryReap home thread :: rest) :
    machine.step.outcome = none ∧ ∃ answer,
      JoinAttempt home past machine machine.step thread (Moment.reaped? ⟨machine, .work⟩) answer ∧
      machine.step.todo = .reopen home :: .reply answer :: rest := by
  have step : machine.step = (machine.withTodo rest).reapOnce home thread :=
    Machine.step_eq going todo
  rw [step, reaped_of_reap (.inr todo), Machine.reapOnce]
  cases found : (machine.withTodo rest).reap? home thread with
  | none =>
      have absent : ∀ block ∈ machine.completedOn home, block.id ≠ thread :=
        (machine.withTodo rest).reap_eq_none.mp found
      exact ⟨going, _, .missed absent rfl rfl, rfl⟩
  | some taking =>
      obtain ⟨block, reaping⟩ := taking
      obtain ⟨value, has, ends, ended⟩ := sound.reaps_ended found
      obtain ⟨scheduler, completed, -, rfl, -⟩ := Machine.reap_eq found
      simp only [has]
      exact ⟨going, _, .taken ended ends, rfl⟩

/-- An attempt of a join that waits: it is made again unless the thread was there. -/
theorem polls (sound : Sound home past machine) (going : machine.outcome = none)
    (todo : machine.todo = .reap home thread :: rest) :
    machine.step.outcome = none ∧
      ((∀ block ∈ machine.completedOn home, block.id ≠ thread) ∧
        Moment.reaped? ⟨machine, .work⟩ = none ∧ machine.step.todo =
          .schedule home none :: .reopen home :: .close home :: .reap home thread :: rest ∨
      ∃ value, JoinAttempt home past machine machine.step thread (some thread) (.value value) ∧
        Moment.reaped? ⟨machine, .work⟩ = some thread ∧
        machine.step.todo = .reopen home :: .reply (.value value) :: rest) := by
  have step : machine.step = (machine.withTodo rest).tryReaping home thread :=
    Machine.step_eq going todo
  rw [step, reaped_of_reap (.inl todo), Machine.tryReaping]
  cases found : (machine.withTodo rest).reap? home thread with
  | none =>
      have absent : ∀ block ∈ machine.completedOn home, block.id ≠ thread :=
        (machine.withTodo rest).reap_eq_none.mp found
      exact ⟨going, .inl ⟨absent, rfl, rfl⟩⟩
  | some taking =>
      obtain ⟨block, reaping⟩ := taking
      obtain ⟨value, has, ends, ended⟩ := sound.reaps_ended found
      obtain ⟨scheduler, completed, -, rfl, -⟩ := Machine.reap_eq found
      simp only [has]
      exact ⟨going, .inr ⟨value, .taken ended ends, rfl, rfl⟩⟩

/-- A join earns the value of the thread that it takes off the completed ones, and
nothing else earns a value. -/
theorem earned_delivery {move : Move n k C ν} (sound : Sound home past machine)
    (fits : move.Fits home machine) (going : machine.outcome = none)
    (goes : (machine.make move).outcome = none) :
    ((Moment.earned? home ⟨machine, move⟩ past).bind delivery?).map Prod.fst =
        Moment.reaped? ⟨machine, move⟩ ∧
      ∀ pair, Moment.earned? home ⟨machine, move⟩ past = some pair →
        CreateJoinAnswer home past pair := by
  by_cases library : move = .work
  · subst library
    cases todo : machine.todo with
    | nil => exact absurd todo (stage_ne_nil sound.stage)
    | cons action rest =>
        cases earns : action.earns with
        | false =>
            have idle : Moment.reaped? ⟨machine, .work⟩ = none := by
              rw [Moment.reaped?, todo]
              cases action with
              | reap | tryReap => cases earns
              | _ => rfl
            rw [unearned todo earns, idle]
            exact ⟨rfl, fun pair same => by cases same⟩
        | true =>
            have stage := todo ▸ sound.stage
            obtain ⟨request, errand, late, still, steps⟩ := stage_earning stage earns
            have errand := late_eq_some.mpr ⟨errand, late⟩
            rw [earned_eq todo earns]
            cases steps with
            | way gate => exact absurd (gate.symm.trans still) (by decide)
            | decides | enrolls | finishes | replies => cases earns
            | issues =>
                have thread := (sound.proceeds going todo (by simp) fits goes).stays.thread
                obtain ⟨scheduler, answer, present, issues, left⟩ := issues_of_step going todo goes
                have due : due? home past machine.step = some (.create home _, answer) :=
                  due_of_late (thread ▸ errand) (by rw [left]; rfl)
                have idle : Moment.reaped? ⟨machine, .work⟩ = none := by rw [Moment.reaped?, todo]
                rw [due, idle]
                refine ⟨rfl, fun pair same => ?_⟩
                cases same
                exact .creation
            | @reaps target _ asked =>
                have thread := (sound.proceeds going todo (by simp) fits goes).stays.thread
                rcases (sound.polls going todo).2 with
                  ⟨-, idle, left⟩ | ⟨value, attempt, taken, left⟩
                · have due : due? home past machine.step = none :=
                    due_of_silent (by rw [left]; exact asked.silent)
                  rw [due, idle]
                  exact ⟨rfl, fun pair same => by cases same⟩
                · have due : due? home past machine.step = some (.join home target, .value value) :=
                    due_of_late (thread ▸ errand) (by rw [left]; rfl)
                  rw [due, taken]
                  refine ⟨rfl, fun pair same => ?_⟩
                  cases same
                  cases attempt with
                  | taken ended ends => exact .join ends
            | @tryReaps target _ asked =>
                have thread := (sound.proceeds going todo (by simp) fits goes).stays.thread
                obtain ⟨-, answer, attempt, left⟩ := sound.tries going todo
                have due : due? home past machine.step = some (.tryJoin home target, answer) :=
                  due_of_late (thread ▸ errand) (by rw [left]; rfl)
                rw [due]
                generalize Moment.reaped? ⟨machine, .work⟩ = taken at attempt
                cases attempt with
                | missed =>
                    refine ⟨rfl, fun pair same => ?_⟩
                    cases same
                    exact .refusal
                | taken ended ends =>
                    refine ⟨rfl, fun pair same => ?_⟩
                    cases same
                    exact .tryJoin ends
  · rw [Move.unearned library]
    refine ⟨?_, fun pair same => by cases same⟩
    cases move with
    | work => exact absurd rfl library
    | _ => rfl

/-- The running thread has not been joined. -/
theorem apart_gone (sound : Sound home past machine) (member : thread ∈ gone past) :
    thread ≠ machine.thread home := by
  cases present : (machine.runtime home).scheduler with
  | none =>
      rw [(sound.unpopulated present).gone] at member
      cases member
  | some scheduler =>
      have populated := sound.populated scheduler present
      have distinct := populated.distinct
      intro same
      rw [← populated.current] at same
      simp only [accounted, List.map_cons, List.cons_append, List.nodup_cons] at distinct
      apply distinct.1
      have number : scheduler.current.number = thread.number.toNat := by rw [same]; rfl
      rw [number]
      exact List.mem_append_right _ (List.mem_map_of_mem member)

end Sound

theorem reaped_sublist_gone (past : List (Moment n k C ν)) :
    (reaped past).Sublist (gone past) := by
  induction past with
  | nil => exact .refl _
  | cons moment past ih =>
      rw [gone, List.flatMap_cons, ← gone, Moment.gone, reaped, List.filterMap_cons]
      cases moment.reaped? with
      | none => exact ih.trans (List.sublist_append_right _ _)
      | some thread => exact (ih.trans (List.sublist_append_right _ _)).cons_cons thread

/-- What joins have earned are the values of the threads that they have taken off the
completed ones. -/
theorem Run.earned_deliveries (run : Run home past machine) (going : machine.outcome = none) :
    ((earnings home past).filterMap delivery?).map Prod.fst = reaped past := by
  induction run with
  | start fresh code => rfl
  | @move past machine move run before fits ih =>
      have earned := ((run.sound before).earned_delivery fits before going).1
      rw [earnings, List.filterMap_append, List.map_append, ih before, reaped, reaped,
        List.filterMap_cons, ← earned]
      cases Moment.earned? home ⟨machine, move⟩ past with
      | none => rfl
      | some pair =>
          simp only [Option.toList, List.filterMap_cons, List.filterMap_nil, Option.bind_some]
          cases delivery? pair <;> rfl

theorem CreateJoinAnswer.keep {pair : Call n k C ν × Reply ν}
    (answers : CreateJoinAnswer home past pair)
    (same : ∀ taking, delivery? pair = some taking →
      exitValue? home taking.1 later = exitValue? home taking.1 past) :
    CreateJoinAnswer home later pair := by
  cases answers with
  | creation => exact .creation
  | join ends => exact .join ((same _ rfl).trans ends)
  | tryJoin ends => exact .tryJoin ((same _ rfl).trans ends)
  | refusal => exact .refusal

/-- What a join has come back with stays right, since the thread that it took does not
run any more. -/
theorem Run.answer_later {pair : Call n k C ν × Reply ν} {move : Move n k C ν}
    (run : Run home past machine) (going : machine.outcome = none)
    (member : pair ∈ earnings home past) (answers : CreateJoinAnswer home past pair) :
    CreateJoinAnswer home (⟨machine, move⟩ :: past) pair := by
  refine answers.keep fun taking same => ?_
  have joined : taking.1 ∈ reaped past := by
    rw [← run.earned_deliveries going]
    exact List.mem_map_of_mem (List.mem_filterMap.mpr ⟨pair, member, same⟩)
  have apart := (run.sound going).apart_gone ((reaped_sublist_gone past).subset joined)
  have other : Moment.thread home ⟨machine, move⟩ ≠ taking.1 := apart.symm
  rw [exitValue?, errand_of_other other, exitValue?]

theorem Run.earned_answer {pair : Call n k C ν × Reply ν} (run : Run home past machine)
    (going : machine.outcome = none) (member : pair ∈ earnings home past) :
    CreateJoinAnswer home past pair := by
  induction run with
  | start fresh code => cases member
  | @move past machine move run before fits ih =>
      rw [earnings] at member
      rcases List.mem_append.mp member with new | earlier
      · have earned := Option.mem_toList.mp new
        have answers := ((run.sound before).earned_delivery fits before going).2 pair earned
        by_cases library : move = .work
        · subst library
          refine answers.keep fun taking _ => ?_
          rw [exitValue?, errand_work, exitValue?]
        · rw [Move.unearned library] at earned
          cases earned
      · exact run.answer_later before earlier (ih before earlier)

theorem Run.returned_answer {pair : Call n k C ν × Reply ν} (run : Run home past machine)
    (going : machine.outcome = none) (member : pair ∈ returns home past) :
    pair ∈ earnings home past ∧ CreateJoinAnswer home past pair := by
  have earned : pair ∈ earnings home past := by
    rw [run.earnings_eq going]
    exact List.mem_append_right _ member
  exact ⟨earned, run.earned_answer going earned⟩

theorem Run.delivered_sublist_gone (run : Run home past machine)
    (going : machine.outcome = none) :
    ((deliveries home past).map Prod.fst).Sublist (gone past) := by
  refine .trans ?_ (reaped_sublist_gone past)
  rw [← run.earned_deliveries going, run.earnings_eq going, List.filterMap_append,
    List.map_append]
  exact List.sublist_append_right _ _

/-- A value that has been handed out is what its thread has ended with. -/
theorem Run.delivered_ended {value : ν} (run : Run home past machine)
    (going : machine.outcome = none) (member : (thread, value) ∈ deliveries home past) :
    exitValue? home thread past = some value := by
  obtain ⟨pair, returned, same⟩ := List.mem_filterMap.mp member
  cases (run.returned_answer going returned).2 with
  | creation | refusal => cases same
  | join ends | tryJoin ends =>
      cases same
      exact ends

/-- Where a thread is that no join finds. -/
inductive Elsewhere (home : Fin n) (past : List (Moment n k C ν)) (machine : Machine n k C ν) :
    ThreadId → Prop
  | unborn {thread : ThreadId} (future : machine.Unborn home thread) :
      Elsewhere home past machine thread
  | running : Elsewhere home past machine (machine.thread home)
  | ready {block : Block (Context n k C ν) ν} (member : block ∈ machine.readyOn home) :
      Elsewhere home past machine block.id
  | parked {mutex : Fin k} {block : Block (Context n k C ν) ν}
      (member : block ∈ machine.parkedOn mutex) : Elsewhere home past machine block.id
  | joined {thread : ThreadId} (member : thread ∈ reaped past) :
      Elsewhere home past machine thread

theorem Sound.completed_apart {block : Block (Context n k C ν) ν}
    (sound : Sound home past machine) (member : block ∈ machine.completedOn home) :
    ¬Elsewhere home past machine block.id := by
  cases present : (machine.runtime home).scheduler with
  | none =>
      rw [Machine.completedOn, present] at member
      cases member
  | some scheduler =>
      have populated := sound.populated scheduler present
      rw [Machine.completedOn_eq present] at member
      -- Whoever is accounted for as completed is accounted for nowhere else.
      have once := List.nodup_iff_count.mp populated.distinct block.number
      have here : 0 < tally scheduler.completed.elements block.number :=
        List.count_pos_iff.mpr (List.mem_map_of_mem member)
      rw [count_accounted] at once
      intro elsewhere
      generalize name : block.id = thread at elsewhere
      have number : block.number = thread.number.toNat := name ▸ rfl
      cases elsewhere with
      | unborn future =>
          have listed : block.number ∈ accounted (gone past) machine scheduler := by
            apply List.count_pos_iff.mp
            rw [count_accounted]
            omega
          have born := List.mem_range.mp (populated.accounts.mem_iff.mp listed)
          have beyond := future scheduler present
          omega
      | running => exact populated.apart_completed member (name.trans populated.current.symm)
      | @ready other waiting =>
          rw [Machine.readyOn_eq present] at waiting
          have there : 0 < tally scheduler.ready.elements block.number :=
            List.count_pos_iff.mpr (number ▸ List.mem_map_of_mem waiting)
          omega
      | @parked mutex other waiting =>
          have there : 0 < tally machine.parked block.number :=
            List.count_pos_iff.mpr
              (number ▸ List.mem_map_of_mem (Machine.mem_parked.mpr ⟨mutex, waiting⟩))
          omega
      | joined taken =>
          have there : 0 < ((gone past).map fun thread => thread.number.toNat).count block.number :=
            List.count_pos_iff.mpr
              (number ▸ List.mem_map_of_mem ((reaped_sublist_gone past).subset taken))
          omega

theorem Sound.gone_distinct (sound : Sound home past machine) : (gone past).Nodup := by
  cases present : (machine.runtime home).scheduler with
  | none =>
      rw [(sound.unpopulated present).gone]
      exact List.nodup_nil
  | some scheduler =>
      have numbers := (List.nodup_append.mp (sound.populated scheduler present).distinct).2.1
      exact List.Pairwise.of_map _ (fun _ _ apart same => apart (same ▸ rfl)) numbers

end UserThreads
