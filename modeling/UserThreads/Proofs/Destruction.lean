import UserThreads.Proofs.Exclusion
import UserThreads.Proofs.Left

/-!
Destroyed mutexes: a mutex whose destruction has succeeded stays open and without
waiters until it is initialized again, unless a lock that was interrupted before
its second claim gets through by it.
-/

namespace UserThreads

variable {n k : Nat} {C ν : Type}

namespace Moment

/-- An initialization takes effect by this move. -/
def revives (mutex : Fin k) (moment : Moment n k C ν) : Bool :=
  match moment.machine.todo with
  | .initMutex index :: _ => index == mutex && (moment.machine.cells mutex).waiters.isEmpty
  | _ => false

/-- A destroyer releases the destroyed mutex by this move. -/
def Frees (home : Fin n) (mutex : Fin k) (moment : Moment n k C ν) : Prop :=
  moment.machine.todo.head? = some (.releaseDestroyed home mutex) ∧
    (moment.machine.cells mutex).status = .destroyed

/-- A lock gets through by its second claim, which does not look at the status. -/
def Slips (home : Fin n) (mutex : Fin k) (moment : Moment n k C ν) : Prop :=
  moment.machine.todo.head? = some (.claimAgain home mutex (moment.thread home)) ∧
    (moment.machine.cells mutex).locked = false

end Moment

/-- The thread has asked to destroy the mutex, which was not initialized since. -/
def Undisturbed (home : Fin n) (mutex : Fin k) (thread : ThreadId) :
    List (Moment n k C ν) → Prop :=
  Since (fun moment _ => moment.thread home = thread ∧ moment.move = .ask (.destroy home mutex))
    fun moment => moment.revives mutex = false

/-- A call of destroy has returned success, and the mutex was not initialized
since it was made. An initialization that takes effect while the call waits for the
owner is another matter: the call then returns success on a mutex that is usable. -/
def Dead (home : Fin n) (mutex : Fin k) : List (Moment n k C ν) → Prop :=
  Since (fun moment past => moment.Succeeds home (.destroy home mutex) past ∧
      Undisturbed home mutex (moment.thread home) past)
    fun moment => moment.revives mutex = false

/-- A destroyer has released the mutex, which was not initialized since. -/
def Freed (home : Fin n) (mutex : Fin k) : List (Moment n k C ν) → Prop :=
  Since (fun moment _ => moment.Frees home mutex) fun moment => moment.revives mutex = false

/-- A second claim has got through since a destroyer released the mutex. -/
def Slipped (home : Fin n) (mutex : Fin k) : List (Moment n k C ν) → Prop :=
  Since (fun moment past => moment.Slips home mutex ∧ Freed home mutex past)
    fun moment => moment.revives mutex = false

variable {home : Fin n} {mutex : Fin k} {past : List (Moment n k C ν)}
  {machine : Machine n k C ν} {action : Action n k C ν} {rest : List (Action n k C ν)}

/-- What does not revive the mutex initializes it in vain, if at all. -/
theorem Moment.vain {moment : Moment n k C ν} (keeps : moment.revives mutex = false)
    (todo : moment.machine.todo = action :: rest) (initializes : action = .initMutex mutex) :
    (moment.machine.cells mutex).waiters.isEmpty = false := by
  subst initializes
  simpa only [revives, todo, beq_self_eq_true, Bool.true_and] using keeps

section handles

variable {me : ThreadId} {pushed : List (Action n k C ν)} {cells after : Mutex (Context n k C ν) ν}

theorem Handles.unusable (handles : Handles home mutex me cells action after pushed)
    (vain : action = .initMutex mutex → cells.waiters.isEmpty = false)
    (unusable : cells.status ≠ .initialized ∨ action = .destroy home mutex) :
    after.status ≠ .initialized := by
  cases handles with
  | init empty => exact absurd (empty.symm.trans (vain rfl)) (by decide)
  | destroy | destroyOwned => simp
  | destroyRefused other => exact other
  | _ => exact unusable.resolve_right (by simp)

theorem Handles.destroyed (handles : Handles home mutex me cells action after pushed)
    (vain : action = .initMutex mutex → cells.waiters.isEmpty = false)
    (destroyed : cells.status = .destroyed) : after.status = .destroyed := by
  cases handles with
  | init empty => exact absurd (empty.symm.trans (vain rfl)) (by decide)
  | destroy | destroyOwned => rfl
  | _ => exact destroyed

end handles

theorem WorksAside.unfreed {after : Machine n k C ν} (aside : WorksAside home mutex machine after) :
    ¬Moment.Frees home mutex ⟨machine, .work⟩ := by
  obtain ⟨action, rest, todo, elsewhere⟩ := aside.elsewhere
  rintro ⟨head, -⟩
  rw [todo] at head
  cases head
  simp [Action.concerns] at elsewhere

/-- While nobody initializes the mutex, it is not usable once its destroyer has begun. -/
theorem Run.undisturbed (run : Run home past machine) (going : machine.outcome = none)
    {thread : ThreadId} (undisturbed : Undisturbed home mutex thread past) :
    (machine.cells mutex).status ≠ .initialized ∨
      ∃ rest, machine.todo = .destroy home mutex :: rest := by
  induction run with
  | start fresh code => exact undisturbed.elim
  | @move past machine move run before fits ih =>
      have sound := run.sound before
      rcases undisturbed with ⟨-, asked⟩ | ⟨undisturbed, keeps⟩
      · cases (asked : move = _)
        exact .inr ⟨_, rfl⟩
      · have earlier := ih before undisturbed
        left
        by_cases library : move = .work
        · subst library
          change (machine.step.cells mutex).status ≠ _
          cases sound.works before fits going mutex with
          | decides todo cells suspended =>
              rw [cells.status]
              apply earlier.resolve_right
              rintro ⟨rest, begins⟩
              cases todo.symm.trans begins
          | aside todo apart elsewhere cells same stays =>
              rw [cells]
              apply earlier.resolve_right
              rintro ⟨rest, begins⟩
              cases todo.symm.trans begins
              simp [Action.concerns] at elsewhere
          | handles todo concerned errand serves asked handles becomes left stays =>
              rw [becomes]
              refine handles.unusable (Moment.vain keeps todo) (earlier.imp_right ?_)
              rintro ⟨rest, begins⟩
              cases todo.symm.trans begins
              rfl
        · rw [(sound.speaks fits library going mutex).mutexes]
          apply earlier.resolve_right
          rintro ⟨rest, begins⟩
          exact library (fits.works begins rfl)

theorem Run.freed_destroyed (run : Run home past machine) (going : machine.outcome = none)
    (freed : Freed home mutex past) : (machine.cells mutex).status = .destroyed := by
  induction run with
  | start fresh code => exact freed.elim
  | @move past machine move run before fits ih =>
      have sound := run.sound before
      by_cases library : move = .work
      · subst library
        change (machine.step.cells mutex).status = _
        have destroyed : (machine.cells mutex).status = .destroyed := by
          rcases freed with ⟨-, destroyed⟩ | ⟨freed, -⟩
          · exact destroyed
          · exact ih before freed
        cases sound.works before fits going mutex with
        | decides todo cells suspended => exact cells.status.trans destroyed
        | aside todo apart elsewhere cells same stays =>
            rw [cells]
            exact destroyed
        | handles todo concerned errand serves asked handles becomes left stays =>
            rw [becomes]
            refine handles.destroyed (fun initializes => ?_) destroyed
            rcases freed with ⟨head, -⟩ | ⟨-, keeps⟩
            · subst initializes
              rw [todo] at head
              cases head
            · exact Moment.vain keeps todo initializes
      · rcases freed with ⟨head, -⟩ | ⟨freed, -⟩
        · obtain ⟨host, rest, todo⟩ := Machine.own_of_inOwnCode (fits.own library)
          rw [todo] at head
          cases head
        · rw [(sound.speaks fits library going mutex).mutexes]
          exact ih before freed

/-- Whoever is about to claim the mutex with the gate open has just found it usable. -/
theorem Run.claims_usable (run : Run home past machine) (going : machine.outcome = none)
    {me : ThreadId} (pending : pending? mutex machine.todo = some (.claim home mutex me)) :
    (machine.cells mutex).status = .initialized := by
  induction run with
  | start fresh code => cases pending
  | @move past machine move run before fits ih =>
      have sound := run.sound before
      by_cases library : move = .work
      · subst library
        change pending? mutex machine.step.todo = _ at pending
        change (machine.step.cells mutex).status = _
        cases sound.works before fits going mutex with
        | decides todo cells suspended =>
            exact absurd (suspended.lasting _ (pending_mem pending)) (by simp [Action.brief])
        | aside todo apart elsewhere cells same stays =>
            rw [cells]
            exact ih before (todo ▸ (pending_aside elsewhere).trans (same.symm.trans pending))
        | handles todo concerned errand serves asked handles becomes left stays =>
            rw [left, pending_append (pending_behind mutex asked)] at pending
            rw [becomes]
            cases handles with
            | lock usable | woken usable => exact usable
            | _ => simp [pending?, Action.concerns] at pending
      · obtain ⟨request, -, begins⟩ := (sound.speaks fits library going mutex).after _ pending
        cases request <;> cases begins

/-- A destroyed mutex that is open stays so, but for a second claim and destroyers. -/
theorem Handles.unlocked {me : ThreadId} {pushed : List (Action n k C ν)}
    {cells after : Mutex (Context n k C ν) ν}
    (handles : Handles home mutex me cells action after pushed)
    (claims : action ≠ .claim home mutex me)
    (slips : action = .claimAgain home mutex me → cells.locked = true)
    (earlier : cells.locked = false ∨ action = .releaseDestroyed home mutex) :
    after.locked = false ∨ pending? mutex pushed = some (.releaseDestroyed home mutex) := by
  cases handles with
  | init | unlock | unlockHands | releaseDestroyed => exact .inl rfl
  | claim => exact absurd rfl claims
  | claimAgain free => exact absurd (free.symm.trans (slips rfl)) (by decide)
  | drain => exact .inr (pending_head (beq_self_eq_true mutex))
  | destroyOwned => exact .inr (pending_head (beq_self_eq_true mutex))
  | _ => exact .inl (earlier.resolve_right (by simp))

/-- A mutex that a destroyer has released stays open unless a second claim gets through. -/
theorem Run.freed_open (run : Run home past machine) (going : machine.outcome = none)
    (freed : Freed home mutex past) (unslipped : ¬Slipped home mutex past) :
    (machine.cells mutex).locked = false ∨
      pending? mutex machine.todo = some (.releaseDestroyed home mutex) := by
  induction run with
  | start fresh code => exact freed.elim
  | @move past machine move run before fits ih =>
      have sound := run.sound before
      by_cases library : move = .work
      · subst library
        change (machine.step.cells mutex).locked = false ∨
          pending? mutex machine.step.todo = _
        have destroyed : (machine.cells mutex).status = .destroyed := by
          rcases freed with ⟨-, destroyed⟩ | ⟨freed, -⟩
          · exact destroyed
          · exact run.freed_destroyed before freed
        have earlier : (machine.cells mutex).locked = false ∨
            pending? mutex machine.todo = some (.releaseDestroyed home mutex) := by
          rcases freed with ⟨head, -⟩ | ⟨freed, keeps⟩
          · obtain ⟨rest, todo⟩ := List.head?_eq_some_iff.mp head
            exact .inr (todo ▸ pending_head (beq_self_eq_true mutex))
          · exact ih before freed fun slipped => unslipped (.inr ⟨slipped, keeps⟩)
        cases sound.works before fits going mutex with
        | decides todo cells suspended =>
            rw [cells.locked]
            refine .inl (earlier.resolve_right fun pending => ?_)
            exact absurd (calm_of_decides sound todo _ pending) (by simp [Action.claims])
        | aside todo apart elsewhere cells same stays =>
            rw [cells, same]
            rwa [todo, pending_aside elsewhere] at earlier
        | handles todo concerned errand serves asked handles becomes left stays =>
            have pending := todo ▸ pending_head concerned
            rw [pending] at earlier
            rw [becomes, left, pending_append (pending_behind mutex asked)]
            refine handles.unlocked (fun claims => ?_) (fun claims => ?_)
              (earlier.imp_right Option.some.inj)
            · have usable := run.claims_usable before (claims ▸ pending)
              exact absurd (usable.symm.trans destroyed) (by decide)
            · subst claims
              rcases freed with ⟨head, -⟩ | ⟨freed, keeps⟩
              · rw [todo] at head
                cases head
              · refine eq_true_of_ne_false fun free => unslipped (.inl ⟨⟨?_, free⟩, freed⟩)
                rw [todo]
                rfl
      · rcases freed with ⟨head, -⟩ | ⟨freed, keeps⟩
        · obtain ⟨host, rest, todo⟩ := Machine.own_of_inOwnCode (fits.own library)
          rw [todo] at head
          cases head
        · have speaks := sound.speaks fits library going mutex
          have earlier := ih before freed fun slipped => unslipped (.inr ⟨slipped, keeps⟩)
          rw [speaks.before] at earlier
          rw [speaks.mutexes]
          exact .inl (earlier.resolve_right (by simp))

/-- A destroyer that has come to waking the waiters has released the mutex. -/
theorem Run.wakes_freed (run : Run home past machine) (going : machine.outcome = none)
    {thread : ThreadId} {todo : List (Action n k C ν)} (left : Left home machine thread todo)
    (pending : pending? mutex todo = some (.wakeAll home mutex))
    (undisturbed : Undisturbed home mutex thread past) : Freed home mutex past := by
  induction run generalizing thread todo with
  | start fresh code => exact undisturbed.elim
  | @move past machine move run before fits ih =>
      have sound := run.sound before
      rcases undisturbed with ⟨same, asked⟩ | ⟨undisturbed, keeps⟩
      · cases (asked : move = _)
        subst same
        have speaks := sound.speaks fits (by simp) going mutex
        generalize next : Action.wakeAll home mutex = action at pending
        cases sound.pending_origin fits before going left pending with
        | asked begins => exact absurd (next ▸ rfl) (Call.unadmitted begins)
        | kept left pending =>
            rw [sound.left_running left, speaks.before] at pending
            cases pending
      · -- The wake-ups are either left from before or have just followed the release.
        generalize next : Action.wakeAll home mutex = action at pending
        cases sound.pending_origin fits before going left pending with
        | asked begins => exact absurd (next ▸ rfl) (Call.unadmitted begins)
        | kept left pending => exact .inr ⟨ih before left (next ▸ pending) undisturbed, keeps⟩
        | @handled action _ rest pushed served cells todo concerned errand serves handles pending =>
            cases next
            have here := todo ▸ pending_head concerned
            cases handles with
            | releaseDestroyed =>
                refine .inl ⟨todo ▸ rfl, ?_⟩
                have begun := run.admitted before (.runnable .running) here rfl
                have unusable := (run.undisturbed before undisturbed).resolve_right <| by
                  rintro ⟨rest, other⟩
                  cases todo.symm.trans other
                cases status : (machine.cells mutex).status with
                | uninitialized => exact absurd status begun
                | initialized => exact absurd status unusable
                | destroyed => rfl
            | wakeAll => exact .inr ⟨ih before (.runnable .running) here undisturbed, keeps⟩
            | _ => simp [pending?, Action.concerns] at pending
        | woken => cases next

/-- A destroyer that is about to return success has released the mutex and woken everyone. -/
theorem Run.destruction_earned (run : Run home past machine) (going : machine.outcome = none)
    (errand : errand? home (machine.thread home) past = some (.ask (.destroy home mutex)))
    (member : .reply .done ∈ machine.todo) :
    (Undisturbed home mutex (machine.thread home) past → Freed home mutex past) ∧
      machine.parkedOn mutex = [] := by
  refine Run.answered (fun past machine =>
      (Undisturbed home mutex (machine.thread home) past → Freed home mutex past) ∧
        machine.parkedOn mutex = [])
    (.inr rfl) ?_ ?_ run going errand member
  · rintro past machine run going aside ⟨freed, unparked⟩
    refine ⟨fun undisturbed => ?_, aside.stays.unparked unparked⟩
    rw [aside.stays.thread] at undisturbed
    rcases undisturbed with ⟨-, asked⟩ | ⟨undisturbed, keeps⟩
    · cases asked
    · exact .inr ⟨freed undisturbed, keeps⟩
  · intro past machine action cells pushed run going completes
    obtain ⟨⟨rest, todo⟩, concerned, serves, handles, becomes, stays, succeeds⟩ := completes
    cases serves with
    | destroy | drain | releaseDestroyed => cases handles <;> simp at succeeds
    | wakeAll =>
        have pending := todo ▸ pending_head concerned
        cases handles with
        | wakeAll => simp at succeeds
        | wakeAllDone alone =>
            refine ⟨fun undisturbed => ?_, stays.unparked alone⟩
            rw [stays.thread] at undisturbed
            rcases undisturbed with ⟨-, asked⟩ | ⟨undisturbed, keeps⟩
            · cases asked
            · exact .inr ⟨run.wakes_freed going (.runnable .running) pending undisturbed, keeps⟩

/-- What is about to be answered when a call of destroy returns success. -/
theorem Run.destroy_returns {move : Move n k C ν} (run : Run home past machine)
    (going : machine.outcome = none) (fits : move.Fits home machine)
    (goes : (machine.make move).outcome = none)
    (returns : Moment.Succeeds home (.destroy home mutex) ⟨machine, move⟩ past) :
    move = .work ∧ (∃ host, machine.todo = [.reply .done, .own host]) ∧
      (Undisturbed home mutex (machine.thread home) past → Freed home mutex past) ∧
        machine.parkedOn mutex = [] := by
  obtain ⟨⟨library, back, answered⟩, errand⟩ := returns
  by_cases works : move = .work
  · subst works
    obtain ⟨answer, host, todo, replied⟩ :=
      (run.sound going).returns going fits goes errand (.inr rfl) back
    obtain rfl : answer = .done := replied.symm.trans answered
    exact ⟨rfl, ⟨host, todo⟩, run.destruction_earned going errand (by simp [todo])⟩
  · exact absurd ((fits.own works).symm.trans library) (by decide)

theorem Run.dead_freed (run : Run home past machine) (going : machine.outcome = none)
    (dead : Dead home mutex past) : Freed home mutex past := by
  induction run with
  | start fresh code => exact dead.elim
  | @move past machine move run before fits ih =>
      rcases dead with ⟨returns, undisturbed⟩ | ⟨dead, keeps⟩
      · obtain ⟨-, ⟨host, todo⟩, freed, -⟩ := run.destroy_returns before fits going returns
        refine .inr ⟨freed undisturbed, ?_⟩
        simp only [Moment.revives, todo]
      · exact .inr ⟨ih before dead, keeps⟩

/-- Nobody parks on a mutex whose destruction has succeeded unless a second claim gets
through. -/
theorem Run.dead_unparked (run : Run home past machine) (going : machine.outcome = none)
    (dead : Dead home mutex past) (unslipped : ¬Slipped home mutex past) :
    machine.parkedOn mutex = [] := by
  induction run with
  | start fresh code => exact dead.elim
  | @move past machine move run before fits ih =>
      have sound := run.sound before
      rcases dead with ⟨returns, -⟩ | ⟨dead, keeps⟩
      · obtain ⟨rfl, ⟨host, todo⟩, -, unparked⟩ := run.destroy_returns before fits going returns
        change machine.step.parkedOn mutex = []
        rw [Machine.step_eq before todo]
        exact unparked
      · have earlier : ¬Slipped home mutex past :=
          fun slipped => unslipped (.inr ⟨slipped, keeps⟩)
        have unparked := ih before dead earlier
        by_cases library : move = .work
        · subst library
          change machine.step.parkedOn mutex = []
          cases sound.works before fits going mutex with
          | @decides parking rest todo cells suspended =>
              rw [(sound.decided before todo going).parked mutex ?_]
              · exact unparked
              · rintro rfl
                have pending := todo ▸ pending_parks home mutex rest
                have locked := run.parks_locked before pending
                have freed := run.dead_freed before dead
                rcases run.freed_open before freed earlier with free | releases
                · exact absurd (free.symm.trans locked) (by decide)
                · cases pending.symm.trans releases
          | aside todo apart elsewhere cells same stays => exact stays.unparked unparked
          | handles todo concerned errand serves asked handles becomes left stays =>
              exact stays.unparked unparked
        · rw [Machine.parkedOn, (sound.speaks fits library going mutex).mutexes]
          exact unparked

/-- A lock of a released mutex that is about to return success has got through by its
second claim. -/
theorem Run.freed_unanswered (run : Run home past machine) (going : machine.outcome = none)
    (errand : errand? home (machine.thread home) past = some (.ask (.lock home mutex)))
    (member : .reply .done ∈ machine.todo) (freed : Freed home mutex past) :
    Slipped home mutex past := by
  refine Run.answered (fun past _ => Freed home mutex past → Slipped home mutex past)
    (.inl rfl) ?_ ?_ run going errand member freed
  · intro past machine run going aside slips freed
    rcases freed with frees | ⟨freed, keeps⟩
    · exact absurd frees aside.unfreed
    · exact .inr ⟨slips freed, keeps⟩
  · intro past machine action cells pushed run going completes freed
    obtain ⟨⟨rest, todo⟩, concerned, serves, handles, becomes, stays, succeeds⟩ := completes
    have pending := todo ▸ pending_head concerned
    have marked := run.marked going mutex
    rw [pending] at marked
    rcases freed with ⟨head, -⟩ | ⟨freed, keeps⟩
    · rw [todo] at head
      cases head
      cases serves
    · refine .inr ⟨?_, keeps⟩
      have destroyed := run.freed_destroyed going freed
      cases serves with
      | lock =>
          cases handles with
          | lockOwned usable => exact absurd (usable.symm.trans destroyed) (by decide)
          | lock | lockRefused => simp at succeeds
      | claim => cases handles <;> simp at succeeds
      | claimAgain => cases handles <;> simp at succeeds
      | woken => cases handles <;> simp at succeeds
      | acquire =>
          by_cases slipped : Slipped home mutex past
          · exact slipped
          · rcases run.freed_open going freed slipped with free | releases
            · exact absurd (free.symm.trans marked.1) (by decide)
            · cases pending.symm.trans releases

theorem Machine.reopenGate_goes (machine : Machine n k C ν) (home : Fin n) :
    (machine.reopenGate home).outcome = machine.outcome := by
  unfold reopenGate
  split <;> rfl

/-- No timer comes in when the gate is opened, and the thread goes on. -/
theorem Run.reopens (run : Run home past machine) (going : machine.outcome = none)
    (todo : machine.todo = .reopen home :: rest) (mutex : Fin k) :
    machine.step.outcome = none ∧ machine.step.todo = rest ∧
      machine.step.thread home = machine.thread home ∧
        machine.step.cells mutex = machine.cells mutex := by
  have opening := (run.sound going).opening
  have keeps : Machine.KeepsQueues home (machine.withTodo rest)
      ((machine.withTodo rest).perform (.reopen home)) := Machine.perform_keepsQueues _ home rfl
  have aside : Machine.Aside mutex (machine.withTodo rest)
      ((machine.withTodo rest).perform (.reopen home)) := Machine.perform_aside _ rfl (by simp)
  rw [Machine.step_eq going todo]
  refine ⟨?_, ((machine.withTodo rest).reopenGate_eq opening).2, keeps.current, aside.cells⟩
  exact ((machine.withTodo rest).reopenGate_goes home).trans going

/-- A second claim that gets through: its thread works on, without losing the processor,
until the lock returns success, and owns the mutex. -/
structure GetsThrough (home : Fin n) (mutex : Fin k) (past : List (Moment n k C ν))
    (machine : Machine n k C ν) (trailing : List (Moment n k C ν)) (later : Machine n k C ν) :
    Prop where
  run : Run home (trailing ++ past) later
  going : later.outcome = none
  works : ∀ moment ∈ trailing, moment.move = .work
  returns : Moment.Succeeds home (.lock home mutex) ⟨later, .work⟩ (trailing ++ past)
  thread : later.thread home = machine.thread home
  owner : (later.step.cells mutex).owner? = some (machine.thread home)
  locked : (later.step.cells mutex).locked = true

theorem Run.slips_through (run : Run home past machine) (going : machine.outcome = none)
    (slips : Moment.Slips home mutex ⟨machine, .work⟩) :
    ∃ trailing later, GetsThrough home mutex past machine trailing later := by
  obtain ⟨head, free⟩ := slips
  obtain ⟨rest, todo⟩ := List.head?_eq_some_iff.mp head
  have todo : machine.todo = .claimAgain home mutex (machine.thread home) :: rest := todo
  have free : (machine.cells mutex).locked = false := free
  have real := (run.sound going).real
  have concerned : (Action.claimAgain home mutex (machine.thread home) : Action n k C ν).concerns
      mutex = true := beq_self_eq_true mutex
  obtain ⟨move, errand, serves, asked⟩ :=
    stage_serves (todo ▸ (run.sound going).stage) concerned (by simp)
  cases serves
  have claims : machine.step = ((machine.withTodo rest).setMutex mutex
      { machine.cells mutex with locked := true }).push
        [.reopen home, .acquire mutex (machine.thread home)] := by
    rw [Machine.step_eq going todo]
    simp only [Machine.perform, Machine.claimAgain, Mutex.claim, Machine.cells_withTodo, free,
      Bool.not_false]
  -- The claim, the opening of the gate and the marking follow one another; each machine is
  -- generalized once its cells, thread and remaining work are known.
  have run₁ := run.work going todo rfl
  generalize machine.step = first at claims run₁
  have going₁ : first.outcome = none := claims ▸ going
  have thread₁ : first.thread home = machine.thread home := claims ▸ rfl
  have locked₁ : (first.cells mutex).locked = true := by
    rw [claims]
    exact congrArg Mutex.locked (Machine.cells_setMutex_self ..)
  have todo₁ : first.todo = .reopen home :: .acquire mutex (machine.thread home) :: rest :=
    claims ▸ rfl
  have run₂ := run₁.work going₁ todo₁ rfl
  obtain ⟨going₂, todo₂, thread₂, same⟩ := run₁.reopens going₁ todo₁ mutex
  generalize first.step = second at run₂ going₂ todo₂ thread₂ same
  have run₃ := run₂.work going₂ todo₂ rfl
  have acquires := Machine.step_eq going₂ todo₂
  have cells : second.step.cells mutex = (second.cells mutex).setOwner (machine.thread home) := by
    rw [acquires]
    exact Machine.cells_setMutex_self ..
  generalize second.step = third at run₃ acquires cells
  have going₃ : third.outcome = none := acquires ▸ going₂
  have todo₃ : third.todo = .reply .done :: rest := acquires ▸ rfl
  have thread₃ : third.thread home = machine.thread home :=
    acquires ▸ thread₂.trans thread₁
  have answers := Machine.step_eq going₃ todo₃
  have kept : third.step.cells = third.cells := answers ▸ rfl
  refine ⟨[⟨second, .work⟩, ⟨first, .work⟩, ⟨machine, .work⟩], third, run₃, going₃, by simp,
    ⟨⟨?_, ?_, ?_⟩, ?_⟩, thread₃, ?_, ?_⟩
  · simp only [Machine.inOwnCode, todo₃]
    rfl
  · change third.step.inOwnCode = true
    rw [answers]
    cases asked <;> rfl
  · change third.step.answer = .done
    rw [answers]
    rfl
  · change errand? home (third.thread home) (⟨second, .work⟩ :: ⟨first, .work⟩ ::
      ⟨machine, .work⟩ :: past) = _
    rw [errand_work, errand_work, errand_work, thread₃]
    exact errand
  · rw [kept, cells]
    simp [Mutex.setOwner, Mutex.owner?, real]
  · rw [kept, cells, same]
    exact locked₁

/-- What the success of a destruction comes to, as long as the mutex is not initialized. It
is open, unowned and without waiters, and no lock of it succeeds, until a second claim gets
through; and a lock whose second claim gets through succeeds. -/
structure StaysDead (home : Fin n) (past : List (Moment n k C ν)) (mutex : Fin k)
    (machine : Machine n k C ν) : Prop where
  status : (machine.cells mutex).status = .destroyed
  opened : ¬Slipped home mutex past → machine.Rests home →
    (machine.cells mutex).locked = false ∧ (machine.cells mutex).owner? = none
  unparked : ¬Slipped home mutex past → machine.parkedOn mutex = []
  refuses : ∀ move, move.Fits home machine → (machine.make move).outcome = none →
    Moment.Succeeds home (.lock home mutex) ⟨machine, move⟩ past → Slipped home mutex past
  slips : Moment.Slips home mutex ⟨machine, .work⟩ →
    ∃ trailing later, GetsThrough home mutex past machine trailing later

theorem Run.stays_dead (run : Run home past machine) (going : machine.outcome = none)
    (dead : Dead home mutex past) : StaysDead home past mutex machine := by
  have sound := run.sound going
  have freed := run.dead_freed going dead
  constructor
  case status => exact run.freed_destroyed going freed
  case opened =>
    intro unslipped rests
    have calm := rests.calm sound mutex
    have free := (run.freed_open going freed unslipped).resolve_right fun releases =>
      absurd (calm _ releases) (by simp [Action.claims])
    exact ⟨free, unowned_of_free ((marked_iff calm).mp (run.marked going mutex)) free⟩
  case unparked => exact run.dead_unparked going dead
  case refuses =>
    rintro move fits goes ⟨⟨library, back, answered⟩, errand⟩
    by_cases works : move = .work
    · subst works
      obtain ⟨answer, host, todo, replied⟩ :=
        sound.returns going fits goes errand (.inl rfl) back
      obtain rfl : answer = .done := replied.symm.trans answered
      exact run.freed_unanswered going errand (by simp [todo]) freed
    · exact absurd ((fits.own works).symm.trans library) (by decide)
  case slips => exact run.slips_through going

/-- The context unlocks and destroys the mutex, and yields to thread 1, which is about to
claim a second time. -/
def overtaken : List (Move 1 1 Unit Nat) :=
  contended ++ Move.calling (.unlock sole sole) 2 ++ Move.calling (.destroy sole sole) 7 ++
    Move.calling (.yield sole) 3

/-- Thread 1 locks the destroyed mutex. -/
theorem stays_dead_overtaken :
    Dead sole sole (trail [] (lone 3) overtaken) ∧
      Moment.Slips sole sole ⟨(lone 3).play overtaken, .work⟩ ∧
      StaysDead sole (trail [] (lone 3) overtaken) sole ((lone 3).play overtaken) := by
  have asked : Undisturbed sole sole .main (trail [] (lone 3) (overtaken.take 33)) :=
    .inl ⟨rfl, rfl⟩
  have undisturbed : Undisturbed sole sole .main (trail [] (lone 3) (overtaken.take 39)) := by
    have split : overtaken.take 39 = overtaken.take 33 ++ List.replicate 6 .work := rfl
    rw [split, trail_append]
    exact asked.trail _ (by decide)
  have returned : Dead sole sole (trail [] (lone 3) (overtaken.take 40)) :=
    .inl ⟨⟨⟨rfl, rfl, rfl⟩, rfl⟩, undisturbed⟩
  have dead : Dead sole sole (trail [] (lone 3) overtaken) := by
    rw [← List.take_append_drop 40 overtaken, trail_append]
    exact returned.trail _ (by decide)
  have running : ((lone 3).play overtaken).thread sole = ⟨1⟩ := rfl
  have head : ((lone 3).play overtaken).todo.head? = some (.claimAgain sole sole ⟨1⟩) := rfl
  have free : (((lone 3).play overtaken).cells sole).locked = false := rfl
  rw [← running] at head
  exact ⟨dead, ⟨head, free⟩, (Run.play (.start rfl ()) _ (by decide)).stays_dead rfl dead⟩

end UserThreads
