import UserThreads.Proofs.Failing
import UserThreads.Proofs.Unlocking
import UserThreads.Proofs.WakeUp

/-!
Destructions from the marking of the mutex to the success of the call and beyond it: the
owner gives the mutex up, and whoever was parked is woken once and fails.
-/

namespace UserThreads

variable {n k : Nat} {C ν : Type} {home : Fin n} {mutex : Fin k} {me thread : ThreadId}
  {past since older : List (Moment n k C ν)} {mark : Moment n k C ν} {machine : Machine n k C ν}
  {action : Action n k C ν} {block : Block (Context n k C ν) ν}

/-- The pieces of work by which a lock tries to get the mutex, or parks on it. -/
def Action.attempts : Action n k C ν → Bool
  | .schedule _ (some _) | .claim .. | .claimAgain .. | .acquire .. => true
  | _ => false

/-- Nobody gets past the status of a destroyed mutex. -/
theorem Handles.refrains {next : Action n k C ν} {pushed : List (Action n k C ν)}
    {cells after : Mutex (Context n k C ν) ν}
    (handles : Handles home mutex me cells action after pushed)
    (destroyed : cells.status = .destroyed) (quiet : action.attempts = false)
    (pending : pending? mutex pushed = some next) : next.attempts = false := by
  cases handles with
  | lock usable | woken usable => exact absurd (usable.symm.trans destroyed) (by decide)
  | claim | claimFails | claimAgain | blocks => cases quiet
  | _ => simp [pending?, Action.concerns] at pending <;> exact pending ▸ rfl

/-- Whoever was parked on the mutex when it was marked does not try to get it any more. -/
theorem DestroyMarked.refrains {todo : List (Action n k C ν)}
    (onward : DestroyMarked home mutex since mark older machine) (going : machine.outcome = none)
    (member : block ∈ mark.machine.parkedOn mutex) (left : Left home machine block.id todo)
    (pending : pending? mutex todo = some action) : action.attempts = false := by
  refine onward.induct (P := fun _ machine => ∀ todo action, Left home machine block.id todo →
    pending? mutex todo = some action → action.attempts = false) ?_ ?_ going todo action left
      pending
  · intro marking todo action left pending
    have sound := marking.run.sound marking.going
    have other := sound.apart_parked member
    have origin := sound.pending_origin marking.fits marking.going marking.goes left pending
    rw [marking.works] at origin
    generalize named : block.id = waiter at origin other
    cases origin with
    | handled | woken => exact absurd rfl other
    | kept left pending =>
        obtain ⟨context, alive, rfl⟩ := left.alive
        subst named
        rw [sound.alive_parked member alive, sound.parked_pending member] at pending
        cases pending
        rfl
  · rintro since ⟨before, move⟩ ⟨onward, going, fits, goes, -⟩ quiet todo action left pending
    have destroyed := onward.destroyed going
    have origin := (onward.run.sound going).pending_origin fits going goes left pending
    generalize block.id = waiter at origin quiet
    cases origin with
    | @asked request _ begins => cases request <;> cases begins <;> rfl
    | kept left pending => exact quiet _ _ left pending
    | handled todo concerned errand serves handles pending =>
        have begins := todo ▸ pending_head concerned
        exact handles.refrains destroyed (quiet _ _ (.runnable .running) begins) pending
    | woken todo => rfl

/-- Whoever has parked by a move has made the decision to. -/
theorem Sound.parks_self (sound : Sound home past machine)
    (parks : machine.parks? mutex = some block) :
    block.id = machine.thread home ∧
      ∃ rest, machine.todo = .schedule home (some mutex) :: rest := by
  unfold Machine.parks? at parks
  split at parks
  · rename_i index target rest todo
    obtain rfl := stage_host (todo ▸ sound.stage)
    split at parks
    · cases parks
    · rename_i scheduler present
      split at parks
      · rename_i condition
        obtain ⟨rfl, -⟩ := condition
        cases parks
        exact ⟨(sound.populated scheduler present).current, rest, todo⟩
      · cases parks
  · cases parks

namespace Sound

variable {move : Move n k C ν}

/-- Only its own decision puts a thread on the queue of a mutex. -/
theorem parked_before (sound : Sound home past machine) (going : machine.outcome = none)
    (fits : move.Fits home machine) (goes : (machine.make move).outcome = none)
    (member : block ∈ (machine.make move).parkedOn mutex) :
    block ∈ machine.parkedOn mutex ∨ block.id = machine.thread home ∧
      ∃ rest, machine.todo = .schedule home (some mutex) :: rest := by
  by_cases library : move = .work
  · subst library
    change machine.step.outcome = none at goes
    change block ∈ machine.step.parkedOn mutex at member
    cases sound.next with
    | @decides parking rest todo =>
        rw [Machine.step_eq going todo] at goes member
        change block ∈ ((machine.withTodo rest).schedule home parking).parkedOn mutex at member
        rw [Machine.schedule_parks todo goes mutex] at member
        cases parks : machine.parks? mutex with
        | none =>
            rw [parks] at member
            exact .inl member
        | some joining =>
            rw [parks] at member
            rcases OrderedQueue.mem_insertByAge.mp member with rfl | member
            · exact .inr (sound.parks_self parks)
            · exact .inl member
    | works todo apart =>
        exact .inl ((sound.proceeds going todo (apart home) fits goes).stays.parked mutex _ member)
  · left
    rw [Machine.parkedOn, (machine.make_own library).2.1] at member
    exact member

end Sound

/-- The thread is taken off the queue of the mutex and made ready by this move. -/
structure Moment.Wakes (home : Fin n) (mutex : Fin k) (block : Block (Context n k C ν) ν)
    (moment : Moment n k C ν) : Prop where
  line : moment.machine.parkedOn mutex = block :: moment.after.parkedOn mutex
  ready : { block with status := .ready } ∈ moment.after.readyOn home

/-- Work on a mutex leaves its queue or takes the first thread off it, unless the mutex is
given up. -/
theorem Handles.line {pushed : List (Action n k C ν)} {cells after : Mutex (Context n k C ν) ν}
    (handles : Handles home mutex me cells action after pushed)
    (borrowed : action ≠ .dropMutex mutex) :
    after.waiters = cells.waiters ∨ (action = .handOn home mutex ∨ action = .wakeAll home mutex) ∧
      ∃ waiter, cells.waiters.threads.elements = waiter :: after.waiters.threads.elements := by
  cases handles with
  | handOn popped => exact .inr ⟨.inl rfl, _, WaitQueue.elements_of_pop popped⟩
  | wakeAll popped => exact .inr ⟨.inr rfl, _, WaitQueue.elements_of_pop popped⟩
  | drop => exact absurd rfl borrowed
  | _ => exact .inl rfl

/-- Whoever is parked on a mutex stays so until it is woken, unless the mutex is given up. -/
theorem Sound.parked_after {move : Move n k C ν} (sound : Sound home past machine)
    (going : machine.outcome = none) (fits : move.Fits home machine)
    (goes : (machine.make move).outcome = none)
    (borrowed : machine.todo.head? ≠ some (.dropMutex mutex))
    (member : block ∈ machine.parkedOn mutex) :
    block ∈ (machine.make move).parkedOn mutex ∨ Moment.Wakes home mutex block ⟨machine, move⟩ := by
  by_cases library : move = .work
  · subst library
    change machine.step.outcome = none at goes
    change block ∈ machine.step.parkedOn mutex ∨ _
    cases sound.works going fits goes mutex with
    | @decides parking rest todo =>
        left
        rw [Machine.step_eq going todo] at goes ⊢
        change block ∈ ((machine.withTodo rest).schedule home parking).parkedOn mutex
        rw [Machine.schedule_parks todo goes mutex]
        cases machine.parks? mutex with
        | none => exact member
        | some joining => exact OrderedQueue.mem_insertByAge.mpr (.inr member)
    | aside todo apart elsewhere cells =>
        left
        rw [Machine.parkedOn, cells]
        exact member
    | @handles action rest _ _ _ todo concerned errand serves asked handles becomes =>
        have kept : action ≠ .dropMutex mutex := fun drops => borrowed (by rw [todo, drops]; rfl)
        rcases handles.line kept with same | ⟨wakes, first, line⟩
        · left
          rw [Machine.parkedOn, becomes, same]
          exact member
        · have line : machine.parkedOn mutex = first :: machine.step.parkedOn mutex := by
            rw [Machine.parkedOn, line, Machine.parkedOn, becomes]
          rcases List.mem_cons.mp (line ▸ member) with rfl | behind
          · refine .inr ⟨line, ?_⟩
            change _ ∈ machine.step.readyOn home
            rw [Machine.step_eq going todo] at goes ⊢
            obtain ⟨scheduler, -, seated⟩ := (machine.withTodo rest).perform_rouses wakes line goes
            rw [Machine.readyOn_eq seated]
            exact OrderedQueue.mem_insertByAge.mpr (.inl rfl)
          · exact .inl behind
  · left
    rw [Machine.parkedOn, (machine.make_own library).2.1]
    exact member

/-- Whoever is taken off the queue of a mutex is not on it any more. -/
theorem Sound.pops_gone {move : Move n k C ν} (sound : Sound home past machine)
    (pops : Moment.Pops mutex thread ⟨machine, move⟩) :
    ∀ waiter ∈ (machine.make move).parkedOn mutex, waiter.id ≠ thread := by
  obtain ⟨first, rfl, line⟩ := pops
  have line : machine.parkedOn mutex = first :: (machine.make move).parkedOn mutex := line
  have distinct := sound.parked_distinct mutex
  rw [line, List.map_cons, List.nodup_cons] at distinct
  exact fun waiter member same => distinct.1 (same ▸ List.mem_map_of_mem member)

/-- The thread was taken off the queue of the mutex and made ready by one of the moves, and
by no other. -/
def WokenOnce (home : Fin n) (mutex : Fin k) (block : Block (Context n k C ν) ν)
    (moments : List (Moment n k C ν)) : Prop :=
  ∃ later waking earlier, moments = later ++ waking :: earlier ∧
    waking.Wakes home mutex block ∧ ∀ moment ∈ later ++ earlier, ¬moment.Pops mutex block.id

theorem WokenOnce.cons {moment : Moment n k C ν} {moments : List (Moment n k C ν)}
    (once : WokenOnce home mutex block moments) (unpopped : ¬moment.Pops mutex block.id) :
    WokenOnce home mutex block (moment :: moments) := by
  obtain ⟨later, waking, earlier, rfl, wakes, alone⟩ := once
  exact ⟨moment :: later, waking, earlier, rfl, wakes, List.forall_mem_cons.mpr ⟨unpopped, alone⟩⟩

/-- Whoever was parked on the mutex when it was marked is so still, or was woken once. -/
theorem DestroyMarked.wakes (onward : DestroyMarked home mutex since mark older machine)
    (going : machine.outcome = none)
    (borrowed : ∀ moment ∈ since, moment.machine.todo.head? ≠ some (.dropMutex mutex))
    (member : block ∈ mark.machine.parkedOn mutex) :
    (block ∈ machine.parkedOn mutex ∧ ∀ moment ∈ since, ¬moment.Pops mutex block.id) ∨
      WokenOnce home mutex block since ∧
        ∀ waiter ∈ machine.parkedOn mutex, waiter.id ≠ block.id := by
  refine onward.induct (P := fun since machine =>
    (∀ moment ∈ since, moment.machine.todo.head? ≠ some (.dropMutex mutex)) →
      (block ∈ machine.parkedOn mutex ∧ ∀ moment ∈ since, ¬moment.Pops mutex block.id) ∨
        WokenOnce home mutex block since ∧
          ∀ waiter ∈ machine.parkedOn mutex, waiter.id ≠ block.id) ?_ ?_ going borrowed
  · intro marking _
    refine .inl ⟨?_, fun moment member => (nomatch member)⟩
    rw [Machine.parkedOn, marking.cells]
    exact member
  · rintro since ⟨before, move⟩ ⟨onward, going, fits, goes, -⟩ earlier borrowed
    have sound := onward.run.sound going
    obtain ⟨kept, borrowed⟩ := List.forall_mem_cons.mp borrowed
    rcases earlier borrowed with ⟨parked, unpopped⟩ | ⟨once, absent⟩
    · rcases sound.parked_after going fits goes kept parked with parked | wakes
      · refine .inl ⟨parked, List.forall_mem_cons.mpr ⟨fun pops => ?_, unpopped⟩⟩
        exact sound.pops_gone pops block parked rfl
      · exact .inr ⟨⟨[], _, since, rfl, wakes, unpopped⟩, sound.pops_gone ⟨block, rfl, wakes.line⟩⟩
    · right
      constructor
      · refine once.cons ?_
        rintro ⟨waiter, same, line⟩
        have line : before.parkedOn mutex = waiter :: (before.make move).parkedOn mutex := line
        exact absent waiter (line ▸ List.mem_cons_self) same
      · intro waiter inside same
        rcases sound.parked_before going fits goes inside with inside | ⟨self, rest, todo⟩
        · exact absent waiter inside same
        · have left : Left home before block.id before.todo := by
            rw [← same, self]
            exact .runnable .running
          have quiet := onward.refrains going member left (todo ▸ pending_parks home mutex rest)
          cases quiet

/-- The owner of the mutex gives it up by this move. -/
structure Moment.Releases (home : Fin n) (mutex : Fin k) (owner : ThreadId)
    (moment : Moment n k C ν) : Prop where
  makes : moment.thread home = owner
  head : moment.machine.todo.head? = some (.unlock home mutex)
  owned : (moment.machine.cells mutex).owner? = some owner
  releases : moment.after.cells mutex = { moment.machine.cells mutex with
    locked := false
    ownerMark := Mutex.noOwner }
  unheld : (moment.after.cells mutex).Unheld

/-- The mutex is still owned by the thread, and no destroyer is about to release it. -/
structure Machine.Keeps (home : Fin n) (mutex : Fin k) (owner : ThreadId)
    (machine : Machine n k C ν) : Prop where
  owned : (machine.cells mutex).owner? = some owner
  locked : (machine.cells mutex).locked = true
  unreleased : pending? mutex machine.todo ≠ some (.releaseDestroyed home mutex)

/-- A destroyed mutex stays with its owner until the owner unlocks it. -/
theorem Handles.keeps {owner : ThreadId} {pushed : List (Action n k C ν)}
    {cells after : Mutex (Context n k C ν) ν}
    (handles : Handles home mutex me cells action after pushed)
    (marked : Marked cells me (some action)) (destroyed : cells.status = .destroyed)
    (vain : action = .initMutex mutex → cells.waiters.isEmpty = false)
    (owned : cells.owner? = some owner) (locked : cells.locked = true)
    (unreleased : action ≠ .releaseDestroyed home mutex) :
    (me = owner ∧ action = .unlock home mutex ∧ after = cells.release) ∨
      after.owner? = some owner ∧ after.locked = true ∧
        pending? mutex pushed ≠ some (.releaseDestroyed home mutex) := by
  have taken (free : cells.locked = false) : False := by simp [locked] at free
  cases handles with
  | init empty => exact absurd (empty.symm.trans (vain rfl)) (by decide)
  | claim free | claimAgain free | drain free => exact (taken free).elim
  | acquire => exact absurd (owned.symm.trans marked.2) (by simp)
  | unlock mine | unlockHands mine =>
      exact .inl ⟨Option.some.inj (mine.symm.trans owned), rfl, rfl⟩
  | destroy usable | destroyOwned usable =>
      exact absurd (usable.symm.trans destroyed) (by decide)
  | releaseDestroyed => exact absurd rfl unreleased
  | _ => exact .inr ⟨owned, locked, by simp [pending?, Action.concerns]⟩

theorem MoveOnMarked.keeps_owner {moment : Moment n k C ν} {owner : ThreadId}
    (moving : MoveOnMarked home mutex since mark older moment)
    (keeps : moment.machine.Keeps home mutex owner) :
    moment.Releases home mutex owner ∨ moment.after.Keeps home mutex owner := by
  obtain ⟨onward, going, fits, goes, vain⟩ := moving
  obtain ⟨machine, move⟩ := moment
  obtain ⟨owned, locked, unreleased⟩ := keeps
  have sound := onward.run.sound going
  by_cases library : move = .work
  · subst library
    cases sound.works going fits goes mutex with
    | decides todo cells suspended =>
        refine .inr ⟨cells.owner.trans owned, cells.locked.trans locked, fun releases => ?_⟩
        exact absurd (suspended.lasting _ (pending_mem releases)) (by simp [Action.brief])
    | aside todo apart elsewhere cells same =>
        refine .inr ⟨cells ▸ owned, cells ▸ locked, fun releases => unreleased ?_⟩
        exact todo ▸ (pending_aside elsewhere).trans (same.symm.trans releases)
    | handles todo concerned errand serves asked handles becomes left =>
        have pending := todo ▸ pending_head concerned
        have marked := onward.run.marked going mutex
        rw [pending] at marked unreleased
        rcases handles.keeps marked (onward.destroyed going) (Moment.vain vain todo) owned locked
          (fun releases => unreleased (congrArg some releases)) with
          ⟨makes, rfl, releases⟩ | ⟨owned, locked, unreleased⟩
        · have released := becomes.trans releases
          exact .inl ⟨makes, by rw [todo]; rfl, owned.symm ▸ rfl, released, released ▸ ⟨rfl, rfl⟩⟩
        · refine .inr ⟨becomes ▸ owned, becomes ▸ locked, ?_⟩
          change pending? mutex machine.step.todo ≠ _
          rw [left, pending_append (pending_behind mutex asked)]
          exact unreleased
  · have speaks := sound.speaks fits library goes mutex
    right
    constructor
    case owned => exact congrArg (fun cells => (cells mutex).owner?) speaks.mutexes ▸ owned
    case locked => exact congrArg (fun cells => (cells mutex).locked) speaks.mutexes ▸ locked
    case unreleased =>
      intro releases
      obtain ⟨request, -, begins⟩ := speaks.after _ releases
      cases request <;> cases begins

/-- Nobody but its owner releases a mutex that was owned by another thread than the one which
has marked it. -/
theorem DestroyMarked.keeps_owner {owner : ThreadId}
    (onward : DestroyMarked home mutex since mark older machine) (going : machine.outcome = none)
    (owned : (mark.machine.cells mutex).owner? = some owner)
    (foreign : owner ≠ mark.thread home) :
    (∃ moment ∈ since, moment.Releases home mutex owner) ∨
      machine.Keeps home mutex owner ∧ ¬Freed home mutex (since ++ mark :: older) := by
  refine onward.induct (P := fun since machine =>
    (∃ moment ∈ since, moment.Releases home mutex owner) ∨
      machine.Keeps home mutex owner ∧ ¬Freed home mutex (since ++ mark :: older)) ?_ ?_ going
  · intro marking
    obtain ⟨rest, begins⟩ := marking.todo
    refine .inr ⟨⟨?_, ?_, ?_⟩, ?_⟩
    · rw [marking.cells]
      exact owned
    · have marked := marking.run.marked marking.going mutex
      rw [marking.pending] at marked
      rw [marking.cells]
      exact Eq.trans marked (by rw [owned]; rfl)
    · obtain ⟨behind, pushed, left, quiet, handles⟩ := marking.handles
      rw [left, pending_append quiet]
      generalize mark.after.cells mutex = after at handles
      cases handles with
      | destroyOwned usable mine => exact absurd (Option.some.inj (owned.symm.trans mine)) foreign
      | destroy | destroyRefused => simp [pending?, Action.concerns]
    · rintro (⟨head, -⟩ | ⟨freed, -⟩)
      · rw [begins] at head
        cases head
      · have destroyed := marking.run.freed_destroyed marking.going freed
        exact absurd (marking.usable.symm.trans destroyed) (by decide)
  · rintro since moment moving (⟨earlier, member, releases⟩ | ⟨keeps, unfreed⟩)
    · exact .inl ⟨earlier, List.mem_cons_of_mem _ member, releases⟩
    · rcases moving.keeps_owner keeps with releases | kept
      · exact .inl ⟨moment, List.mem_cons_self, releases⟩
      · refine .inr ⟨kept, ?_⟩
        rintro (⟨head, -⟩ | ⟨freed, -⟩)
        · obtain ⟨rest, todo⟩ := List.head?_eq_some_iff.mp head
          have concerned : (Action.releaseDestroyed home mutex : Action n k C ν).concerns mutex =
            true := beq_self_eq_true mutex
          exact keeps.unreleased (todo ▸ pending_head concerned)
        · exact unfreed freed

/-- The thread that has marked the mutex has asked to destroy it. -/
theorem DestroyMarked.undisturbed (onward : DestroyMarked home mutex since mark older machine)
    (going : machine.outcome = none) :
    Undisturbed home mutex (mark.thread home) (since ++ mark :: older) := by
  refine onward.induct (P := fun since _ =>
    Undisturbed home mutex (mark.thread home) (since ++ mark :: older)) ?_ ?_ going
  · intro marking
    obtain ⟨⟨before, earlier, request, rfl, opens⟩, -⟩ :=
      marking.run.opening marking.going marking.pending rfl
    cases request <;> cases opens
    have unrevived : mark.revives mutex = false := by
      obtain ⟨rest, todo⟩ := marking.todo
      simp only [Moment.revives, todo]
    refine .inr ⟨.inl ⟨?_, rfl⟩, unrevived⟩
    have run := marking.run
    change before.thread home = mark.machine.thread home
    generalize mark.machine = marked at run
    cases run
    rfl
  · rintro since moment moving undisturbed
    exact .inr ⟨undisturbed, moving.keeps⟩

/-- The call of destroy that has marked the mutex returns success by this move. -/
structure Moment.Concludes (home : Fin n) (mutex : Fin k) (mark : Moment n k C ν)
    (past : List (Moment n k C ν)) (moment : Moment n k C ν) : Prop where
  fits : moment.move.Fits home moment.machine
  goes : moment.after.outcome = none
  makes : moment.thread home = mark.thread home
  succeeds : moment.Succeeds home (.destroy home mutex) past

/-- What the destruction of a mutex origin to once it was marked, as long as it is not
initialized again: to the threads that are parked when it is marked, and to the owner. -/
structure Destroys (home : Fin n) (mutex : Fin k) (since : List (Moment n k C ν))
    (mark : Moment n k C ν) (older : List (Moment n k C ν)) (machine : Machine n k C ν) :
    Prop where
  status : (machine.cells mutex).status = .destroyed
  released : ∀ move, Moment.Concludes home mutex mark (since ++ mark :: older) ⟨machine, move⟩ →
    ∀ owner, (mark.machine.cells mutex).owner? = some owner → owner ≠ mark.thread home →
      ∃ moment ∈ since, moment.Releases home mutex owner
  /-- The mutex is borrowed by the call, so it cannot be given up meanwhile. -/
  woken : (∀ moment ∈ since, moment.machine.todo.head? ≠ some (.dropMutex mutex)) →
    ∀ move, Moment.Concludes home mutex mark (since ++ mark :: older) ⟨machine, move⟩ →
      ∀ block ∈ mark.machine.parkedOn mutex, WokenOnce home mutex block since
  refused : ∀ block ∈ mark.machine.parkedOn mutex,
    Refused home mutex block.id (mark :: older) since

/-- Whoever destroys a mutex waits for its owner and wakes its waiters, and they fail. -/
theorem Run.destroys (run : Run home (since ++ mark :: older) machine)
    (going : machine.outcome = none) (marks : mark.Marks home mutex)
    (kept : ∀ moment ∈ since, moment.revives mutex = false) :
    Destroys home mutex since mark older machine := by
  have onward : DestroyMarked home mutex since mark older machine := ⟨run, marks, kept⟩
  constructor
  case status => exact onward.destroyed going
  case released =>
    rintro move ⟨fits, goes, makes, succeeds⟩ owner owned foreign
    rcases onward.keeps_owner going owned foreign with released | ⟨-, unfreed⟩
    · exact released
    · obtain ⟨-, -, freed, -⟩ := run.destroy_returns going fits goes succeeds
      have same : machine.thread home = mark.thread home := makes
      exact absurd (freed (same ▸ onward.undisturbed going)) unfreed
  case woken =>
    rintro borrowed move ⟨fits, goes, makes, succeeds⟩ block member
    obtain ⟨-, -, -, unparked⟩ := run.destroy_returns going fits goes succeeds
    rcases onward.wakes going borrowed member with ⟨parked, -⟩ | ⟨once, -⟩
    · rw [unparked] at parked
      cases parked
    · exact once
  case refused => exact fun block member => onward.refuses going member

/-- The context holds the mutex, with threads 1 and 2 parked on it, and thread 3 has asked to
destroy it. -/
def destroying : List (Move 1 1 Unit Nat) :=
  queueing ++ Move.calling (.yield sole) 5 ++ [.ask (.destroy sole sole)]

/-- Thread 3 marks the mutex. -/
def marking : Moment 1 1 Unit Nat := ⟨(lone 0).play destroying, .work⟩

/-- The context unlocks the mutex, which wakes thread 1, and thread 3 wakes thread 2. -/
def draining : List (Move 1 1 Unit Nat) :=
  List.replicate 9 .work ++ Move.calling (.unlock sole sole) 5 ++ Move.calling (.yield sole) 8 ++
    Move.calling (.yield sole) 9

set_option maxRecDepth 4000 in
theorem destroys_draining :
    ((marking.machine.cells sole).owner? = some .main ∧
        (marking.machine.parkedOn sole).map Block.id = [⟨1⟩, ⟨2⟩]) ∧
      Moment.Concludes sole sole marking
          (trail [] marking.after draining ++ marking :: trail [] (lone 0) destroying)
          ⟨marking.after.play draining, .work⟩ ∧
        Destroys sole sole (trail [] marking.after draining) marking
          (trail [] (lone 0) destroying) (marking.after.play draining) := by
  have before : Run sole (trail [] (lone 0) destroying) marking.machine :=
    Run.play (.start rfl ()) destroying (by decide : (lone 0).allows sole _ = true)
  have marked : Run sole (marking :: trail [] (lone 0) destroying) marking.after :=
    before.move rfl rfl
  have run := marked.play draining (by decide +kernel)
  rw [trail_eq] at run
  have marker : marking.thread sole = ⟨3⟩ := rfl
  have destroyer : (marking.after.play draining).thread sole = ⟨3⟩ := rfl
  have goes : (marking.after.play draining).outcome = none := rfl
  have kept : ∀ moment ∈ trail [] marking.after draining, moment.revives sole = false := by
    decide +kernel
  refine ⟨⟨rfl, rfl⟩, ⟨rfl, rfl, ?_, ⟨rfl, rfl, rfl⟩, rfl⟩, run.destroys goes ⟨rfl, rfl⟩ kept⟩
  exact destroyer.trans marker.symm

end UserThreads
