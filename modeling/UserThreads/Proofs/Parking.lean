import UserThreads.Proofs.Priority
import UserThreads.Proofs.Shift

/-!
The queues of a run. Who is parked on a mutex, and since when, is read off the history; the
queue holds just these threads, by age and equal ages in the order in which they parked.
-/

namespace UserThreads

open OrderedQueue (Ascending Request served served_settled inside byAge)

variable {n k : Nat} {C ν : Type}

/-- The block of the running thread as the decision that it is about to make parks it. -/
def Machine.parks? (machine : Machine n k C ν) (mutex : Fin k) :
    Option (Block (Context n k C ν) ν) :=
  match machine.todo with
  | .schedule index (some target) :: rest =>
      match (machine.runtime index).scheduler with
      | none => none
      | some scheduler =>
          if target = mutex ∧ scheduler.current.status = .blocked ∧ scheduler.hasReady = true then
            some (((machine.withTodo rest).save scheduler).current.aged
              (scheduler.current.age + 1))
          else none
  | _ => none

/-- What the moves made so far have asked of the queue of a mutex since it was empty for being
new or given up. -/
def queueRequests (mutex : Fin k) :
    List (Moment n k C ν) → List (Request (Block (Context n k C ν) ν) ThreadId)
  | [] => []
  | ⟨machine, .work⟩ :: past =>
      match machine.todo with
      | .schedule .. :: _ =>
          ((machine.parks? mutex).map .push).toList ++ queueRequests mutex past
      | .handOn _ target :: _ | .wakeAll _ target :: _ =>
          if target = mutex then .popFront :: queueRequests mutex past
          else queueRequests mutex past
      | .dropMutex target :: _ => if target = mutex then [] else queueRequests mutex past
      | _ => queueRequests mutex past
  | _ :: past => queueRequests mutex past

/-- The threads that are parked on a mutex, in the order in which they have parked. -/
def parkings (mutex : Fin k) (past : List (Moment n k C ν)) :
    List (Block (Context n k C ν) ν) := inside (queueRequests mutex past)

variable {home : Fin n} {past : List (Moment n k C ν)} {machine after : Machine n k C ν}
  {action : Action n k C ν} {rest : List (Action n k C ν)} {mutex : Fin k}
  {parking : Option (Fin k)}

theorem queueRequests_own {move : Move n k C ν} (own : move ≠ .work) :
    queueRequests mutex (⟨machine, move⟩ :: past) = queueRequests mutex past := by
  cases move with
  | work => exact absurd rfl own
  | _ => rfl

theorem Machine.parks_elsewhere (todo : machine.todo = action :: rest)
    (aside : action.concerns mutex = false) : machine.parks? mutex = none := by
  cases action with
  | schedule index parking =>
      cases parking with
      | none => simp only [parks?, todo]
      | some target =>
          have elsewhere : target ≠ mutex := by simpa [Action.concerns] using aside
          simp only [parks?, todo]
          split
          · rfl
          · exact if_neg fun parks => elsewhere parks.1
  | _ => simp only [parks?, todo]

theorem queueRequests_aside (todo : machine.todo = action :: rest)
    (aside : action.concerns mutex = false) :
    queueRequests mutex (⟨machine, .work⟩ :: past) = queueRequests mutex past := by
  have parks := Machine.parks_elsewhere todo aside
  cases action with
  | handOn | wakeAll | dropMutex =>
      have elsewhere := ne_of_beq_false aside
      simp only [queueRequests, todo, if_neg elsewhere]
  | _ => simp only [queueRequests, todo, parks, Option.map_none, Option.toList_none,
      List.nil_append]

theorem served_popFront
    (requests : List (Request (Block (Context n k C ν) ν) ThreadId)) :
    (served (.popFront :: requests)).elements = (served requests).elements.tail := by
  simp only [served, OrderedQueue.serve, OrderedQueue.popFront?]
  cases shape : (served requests).elements <;> simp [shape]

/-- A decision parks the running thread on the queue of the mutex, or leaves the queue. -/
theorem Machine.schedule_parks (todo : machine.todo = .schedule home parking :: rest)
    (goes : ((machine.withTodo rest).schedule home parking).outcome = none) (mutex : Fin k) :
    ((machine.withTodo rest).schedule home parking).parkedOn mutex =
      match machine.parks? mutex with
      | none => machine.parkedOn mutex
      | some block => OrderedQueue.insertByAge block (machine.parkedOn mutex) := by
  cases present : (machine.runtime home).scheduler with
  | none =>
      have nobody : machine.parks? mutex = none := by
        cases parking <;> simp only [parks?, todo, present]
      rw [(machine.withTodo rest).schedule_of_none present, nobody]
      rfl
  | some scheduler =>
      obtain ⟨rotation, decides, scheduled⟩ := (machine.withTodo rest).schedule_spec present goes
      have parks : machine.parks? mutex =
          if parking = some mutex ∧ scheduler.current.status = .blocked ∧
              scheduler.hasReady = true then
            some (((machine.withTodo rest).save scheduler).current.aged
              (scheduler.current.age + 1))
          else none := by
        cases parking <;> simp [parks?, todo, present]
      have unparked (same : rotation.waiting = (machine.withTodo rest).waiters? parking)
          (awake : ¬(scheduler.current.status = .blocked ∧ scheduler.hasReady = true)) :
          ((machine.withTodo rest).schedule home parking).parkedOn mutex =
            match machine.parks? mutex with
            | none => machine.parkedOn mutex
            | some block => OrderedQueue.insertByAge block (machine.parkedOn mutex) := by
        rw [parks, if_neg fun parks => awake parks.2, scheduled.unparked same]
        rfl
      cases decides with
      | stays alone =>
          refine unparked rfl fun parks => ?_
          have none : scheduler.ready.elements = [] := alone
          simp [Scheduler.hasReady, OrderedQueue.isEmpty, none] at parks
      | requeues status | completes status =>
          refine unparked rfl fun parks => ?_
          cases status.symm.trans parks.1
      | parks place status next older =>
          obtain ⟨target, rfl, rfl⟩ := Option.map_eq_some_iff.mp place
          have ready : scheduler.hasReady = true := by
            have next : scheduler.ready.elements = _ := next
            simp [Scheduler.hasReady, OrderedQueue.isEmpty, next]
          by_cases here : target = mutex
          · subst here
            rw [parks, if_pos ⟨rfl, status, ready⟩, scheduled.joined rfl, older]
            rfl
          · rw [parks, if_neg fun parks => here (Option.some.inj parks.1),
              scheduled.elsewhere rfl (Ne.symm here)]
            rfl

/-- The queue of a mutex holds what the moves made so far have put in and not taken out. -/
theorem Run.parked_served (run : Run home past machine) (going : machine.outcome = none)
    (mutex : Fin k) : machine.parkedOn mutex = (served (queueRequests mutex past)).elements := by
  induction run with
  | start fresh code => simp [Machine.parkedOn, Mutex.new, WaitQueue.empty, queueRequests, served]
  | @move past machine move run before fits ih =>
      have earlier := ih before
      have sound := run.sound before
      by_cases library : move = .work
      · subst library
        change machine.step.parkedOn mutex = _
        cases sound.works before fits going mutex with
        | @decides parking rest todo =>
            rw [Machine.step_eq before todo]
            change machine.step.outcome = none at going
            rw [Machine.step_eq before todo] at going
            refine (Machine.schedule_parks todo going mutex).trans ?_
            simp only [queueRequests, todo]
            cases machine.parks? mutex with
            | none => exact earlier
            | some block =>
                simp only [earlier]
                rfl
        | aside todo apart elsewhere cells =>
            rw [queueRequests_aside todo elsewhere, ← earlier, Machine.parkedOn, cells,
              Machine.parkedOn]
        | handles todo concerned errand serves asked handles becomes =>
            rw [Machine.parkedOn, becomes]
            rw [Machine.parkedOn] at earlier
            cases handles with
            | handOn popped | wakeAll popped =>
                simp only [queueRequests, todo, if_pos]
                rw [served_popFront, ← earlier, WaitQueue.elements_of_pop popped]
                rfl
            | handOnNone alone | wakeAllDone alone =>
                simp only [queueRequests, todo, if_pos]
                rw [served_popFront, ← earlier, alone]
                rfl
            | drop =>
                simp only [queueRequests, todo, if_pos]
                rfl
            | _ =>
                simp only [queueRequests, todo]
                exact earlier
      · rw [queueRequests_own library, ← earlier, Machine.parkedOn,
          (machine.make_own library).2.1, Machine.parkedOn]

/-- Who is parked on a mutex stands in line by age, and of the same age in the order of parking. -/
theorem Run.parked_byAge (run : Run home past machine) (going : machine.outcome = none)
    (mutex : Fin k) : machine.parkedOn mutex = byAge (parkings mutex past) := by
  obtain ⟨sorted, same⟩ := served_settled (queueRequests mutex past)
  rw [run.parked_served going, OrderedQueue.eq_byAge sorted same, parkings]

/-- The ready threads stand in line by age. -/
theorem Run.ready_ascending (run : Run home past machine) (going : machine.outcome = none)
    {scheduler : Scheduler (Context n k C ν) ν}
    (present : (machine.runtime home).scheduler = some scheduler) :
    Ascending scheduler.ready.elements := by
  induction run generalizing scheduler with
  | start fresh => simp [fresh, Runtime.new] at present
  | @move past machine move run before fits ih =>
      have sorted {scheduler : Scheduler (Context n k C ν) ν}
          (present : (machine.runtime home).scheduler = some scheduler) :
          Ascending scheduler.ready.elements := ih before present
      by_cases library : move = .work
      · subst library
        change (machine.step.runtime home).scheduler = some scheduler at present
        change machine.step.outcome = none at going
        cases (run.sound before).next with
        | @decides parking rest todo =>
            rw [Machine.step_eq before todo] at present going
            simp only [Machine.perform] at present going
            cases present' : (machine.runtime home).scheduler with
            | none =>
                rw [(machine.withTodo rest).schedule_of_none present'] at present
                exact sorted present
            | some scheduler' =>
                obtain ⟨rotation, decides, scheduled⟩ :=
                  (machine.withTodo rest).schedule_spec present' going
                cases Option.some.inj (scheduled.scheduler.symm.trans present)
                have line : Ascending scheduler'.ready.elements := sorted present'
                cases decides with
                | stays alone => exact line
                | @requeues age first others event status filed =>
                    have line : Ascending (first :: others.elements) :=
                      filed ▸ OrderedQueue.ascending_insertByAge line
                    exact (List.pairwise_cons.mp line).2
                | completes status next | parks place status next =>
                    exact (List.pairwise_cons.mp (next ▸ line)).2
        | @works action rest todo apart =>
            cases (run.sound before).shift before todo (apart home) going with
            | keeps same | drops same => exact sorted (same ▸ present)
            | activates absent start =>
                cases Option.some.inj (start.symm.trans present)
                exact .nil
            | issues present' seated | wakes present' seated =>
                cases Option.some.inj (seated.symm.trans present)
                have line := sorted present'
                exact OrderedQueue.ascending_insertByAge line
            | begins present' seated | blocks present' seated | completes present' seated
            | reaps present' seated =>
                cases Option.some.inj (seated.symm.trans present)
                have line := sorted present'
                exact line
      · rw [(machine.make_own library).1] at present
        exact sorted present

end UserThreads
