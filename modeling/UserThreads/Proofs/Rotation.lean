import UserThreads.Proofs.Queue
import UserThreads.Scheduler

/-!
Scheduling decisions by what they come to: the running thread stays where it is,
or it is filed by its status and the first ready thread takes its place.
-/

namespace UserThreads

variable {κ ν : Type}

/-- The block at another age. -/
def Block.aged (block : Block κ ν) (age : Nat) : Block κ ν := { block with age }

/-- A blocked thread is made ready to try again; any other is left as it is. -/
def Block.unblock (block : Block κ ν) : Block κ ν :=
  if block.status = .blocked then { block with status := .ready } else block

@[simp] theorem Block.unblock_id (block : Block κ ν) : block.unblock.id = block.id := by
  unfold unblock
  split <;> rfl

@[simp] theorem Block.unblock_age (block : Block κ ν) : block.unblock.age = block.age := by
  unfold unblock
  split <;> rfl

@[simp] theorem Block.unblock_value (block : Block κ ν) : block.unblock.value = block.value := by
  unfold unblock
  split <;> rfl

@[simp] theorem Block.unblock_context (block : Block κ ν) :
    block.unblock.context = block.context := by
  unfold unblock
  split <;> rfl

namespace Scheduler

/-- What a decision on `scheduler` can come to, with `waiting` to park on. -/
inductive Decides (scheduler : Scheduler κ ν) (waiting : Option (WaitQueue κ ν)) :
    Rotation κ ν → Prop
  /-- Nobody else is ready. -/
  | stays {event : Option LogEvent} (alone : scheduler.ready.elements = []) :
      Decides scheduler waiting {
        scheduler := { scheduler with current := scheduler.current.unblock }
        waiting, switch := none, event }
  | requeues {age : Nat} {first : Block κ ν} {rest : OrderedQueue (Block κ ν)}
      {event : Option LogEvent} (status : scheduler.current.status = .ready)
      (filed : OrderedQueue.insertByAge (scheduler.current.aged age) scheduler.ready.elements =
        first :: rest.elements)
      (older : age = scheduler.current.age + 1) :
      Decides scheduler waiting {
        scheduler := { scheduler with current := first, ready := rest }
        waiting, switch := some ⟨scheduler.current.id, first.id⟩, event }
  | completes {age : Nat} {first : Block κ ν} {rest : OrderedQueue (Block κ ν)}
      {event : Option LogEvent} (status : scheduler.current.status = .completed)
      (next : scheduler.ready.elements = first :: rest.elements)
      (same : age = scheduler.current.age) :
      Decides scheduler waiting {
        scheduler := { scheduler with
          current := first
          ready := rest
          completed := scheduler.completed.push (scheduler.current.aged age) }
        waiting, switch := some ⟨scheduler.current.id, first.id⟩, event }
  | parks {age : Nat} {first : Block κ ν} {rest : OrderedQueue (Block κ ν)}
      {queue : WaitQueue κ ν} {event : Option LogEvent} (place : waiting = some queue)
      (status : scheduler.current.status = .blocked)
      (next : scheduler.ready.elements = first :: rest.elements)
      (older : age = scheduler.current.age + 1) :
      Decides scheduler waiting {
        scheduler := { scheduler with current := first, ready := rest }
        waiting := some (queue.push (scheduler.current.aged age))
        switch := some ⟨scheduler.current.id, first.id⟩, event }

theorem outgoing_eq {scheduler : Scheduler κ ν} {outgoing : Block κ ν}
    (taken : scheduler.outgoing? = some outgoing) :
    ∃ age, outgoing = scheduler.current.aged age ∧
      (scheduler.current.status = .completed → age = scheduler.current.age) ∧
      (scheduler.current.status ≠ .completed → age = scheduler.current.age + 1) := by
  unfold outgoing? at taken
  split at taken
  · rename_i ended
    cases taken
    exact ⟨_, rfl, fun _ => rfl, fun alive => absurd ended alive⟩
  · rename_i alive
    unfold Block.growOlder? at taken
    split at taken
    · cases taken
      exact ⟨_, rfl, fun ended => absurd ended alive, fun _ => rfl⟩
    · contradiction

theorem seat_eq {scheduler : Scheduler κ ν} {outgoing : ThreadId}
    {waiting : Option (WaitQueue κ ν)} {rotation : Rotation κ ν}
    (seated : scheduler.seat outgoing waiting = .ok rotation) :
    ∃ first rest event, scheduler.ready.elements = first :: rest.elements ∧
      rotation = ⟨{ scheduler with current := first, ready := rest }, waiting,
        some ⟨outgoing, first.id⟩, event⟩ := by
  unfold seat at seated
  split at seated
  · contradiction
  · rename_i first rest popped
    cases seated
    exact ⟨first, rest, _, OrderedQueue.elements_of_popFront popped, rfl⟩

theorem decides_stay {scheduler : Scheduler κ ν} (alone : scheduler.ready.elements = [])
    (waiting : Option (WaitQueue κ ν)) : scheduler.Decides waiting (scheduler.stay waiting) := by
  by_cases blocked : scheduler.current.status = .blocked
  · rw [stay, if_pos blocked]
    have unblocked : scheduler.current.unblock = { scheduler.current with status := .ready } :=
      if_pos blocked
    exact unblocked ▸ .stays alone
  · rw [stay, if_neg blocked]
    have unblocked : scheduler.current.unblock = scheduler.current := if_neg blocked
    have same : scheduler = { scheduler with current := scheduler.current.unblock } := by
      rw [unblocked]
    have decides : scheduler.Decides waiting ⟨{ scheduler with
        current := scheduler.current.unblock }, waiting, none, none⟩ := .stays alone
    rwa [← same] at decides

theorem decides_of_rotate {scheduler : Scheduler κ ν} {waiting : Option (WaitQueue κ ν)}
    {rotation : Rotation κ ν} (rotated : scheduler.rotate waiting = .ok rotation) :
    scheduler.Decides waiting rotation := by
  unfold rotate at rotated
  split at rotated
  · rename_i alone
    cases rotated
    exact decides_stay (OrderedQueue.isEmpty_iff.mp alone) waiting
  · cases taken : scheduler.outgoing? with
    | none => simp [taken] at rotated
    | some outgoing =>
        obtain ⟨age, rfl, same, older⟩ := outgoing_eq taken
        have filed : (scheduler.current.aged age).status = scheduler.current.status := rfl
        cases status : scheduler.current.status with
        | ready =>
            simp only [taken, filed, status] at rotated
            obtain ⟨first, rest, event, filed, rfl⟩ := seat_eq rotated
            exact .requeues status filed (older (by simp [status]))
        | completed =>
            simp only [taken, filed, status] at rotated
            obtain ⟨first, rest, event, next, rfl⟩ := seat_eq rotated
            exact .completes status next (same status)
        | blocked =>
            cases waiting with
            | none => simp [taken, filed, status] at rotated
            | some queue =>
                simp only [taken, filed, status] at rotated
                obtain ⟨first, rest, event, next, rfl⟩ := seat_eq rotated
                exact .parks rfl status next (older (by simp [status]))

theorem seat_exists (scheduler : Scheduler κ ν) (outgoing : ThreadId)
    (waiting : Option (WaitQueue κ ν)) (others : scheduler.ready.elements ≠ []) :
    ∃ rotation, scheduler.seat outgoing waiting = .ok rotation := by
  unfold seat
  split
  · rename_i drained
    exact absurd (OrderedQueue.elements_of_popFront_none drained) others
  · exact ⟨_, rfl⟩

/-- A decision is made, unless the running thread is as old as can be or is
blocked and has nowhere to wait. -/
theorem rotate_exists {scheduler : Scheduler κ ν} {waiting : Option (WaitQueue κ ν)}
    (room : scheduler.current.age + 1 < Block.ageLimit)
    (place : scheduler.current.status = .blocked → waiting.isSome = true) :
    ∃ rotation, scheduler.rotate waiting = .ok rotation := by
  unfold rotate
  split
  · exact ⟨_, rfl⟩
  · rename_i others
    have others : scheduler.ready.elements ≠ [] :=
      fun none => others (OrderedQueue.isEmpty_iff.mpr none)
    cases status : scheduler.current.status with
    | ready =>
        simp only [outgoing?, Block.growOlder?, status, room, if_true, reduceCtorEq, if_false]
        exact seat_exists _ _ _ (OrderedQueue.insertByAge_ne_nil _ _)
    | completed =>
        simp only [outgoing?, status, if_true]
        exact seat_exists _ _ _ others
    | blocked =>
        obtain ⟨queue, rfl⟩ := Option.isSome_iff_exists.mp (place status)
        simp only [outgoing?, Block.growOlder?, status, room, if_true, reduceCtorEq, if_false]
        exact seat_exists _ _ _ others

end Scheduler

end UserThreads
