import UserThreads.Proofs.Answers

/-!
Mutual exclusion: a mutex is locked just while it has an owner, and whoever locked
it stays its owner until it gives the mutex up.
-/

namespace UserThreads

variable {n k : Nat} {C ν : Type}

/-- How the lock of a mutex goes with its owner, when `pending` is what the running
thread `me` is about to do to it. -/
def Marked {κ : Type} (cells : Mutex κ ν) (me : ThreadId)
    (pending : Option (Action n k C ν)) : Prop :=
  match pending with
  | some (.acquire ..) => cells.locked = true ∧ cells.owner? = none
  | some (.releaseDestroyed ..) =>
      cells.locked = true ∧ (cells.owner? = none ∨ cells.owner? = some me)
  | _ => cells.locked = cells.owner?.isSome

variable {home : Fin n} {mutex : Fin k} {me : ThreadId} {past : List (Moment n k C ν)}
  {machine : Machine n k C ν} {action : Action n k C ν} {rest pushed : List (Action n k C ν)}
  {cells after : Mutex (Context n k C ν) ν}

@[simp] theorem Mutex.owner_mk {κ : Type} (cells : Mutex κ ν) (locked : Bool)
    (status : MutexStatus) (waiters : WaitQueue κ ν) :
    (Mutex.mk locked cells.ownerMark status waiters).owner? = cells.owner? := rfl

theorem unowned_of_free (marked : cells.locked = cells.owner?.isSome)
    (free : cells.locked = false) : cells.owner? = none := by
  rw [free] at marked
  exact Option.not_isSome_iff_eq_none.mp (Bool.eq_false_iff.mp marked.symm)

theorem Handles.marked (handles : Handles home mutex me cells action after pushed)
    (marked : Marked cells me (some action)) (real : me.number ≠ Mutex.noOwner) :
    Marked after me (pending? mutex pushed) := by
  cases handles with
  | init | unlock | unlockHands | releaseDestroyed =>
      simp [Marked, pending?, Action.concerns, Mutex.release, Mutex.owner?]
  | claim free | claimAgain free =>
      simpa [Marked, pending?, Action.concerns] using unowned_of_free marked free
  | drain free =>
      have unowned := unowned_of_free marked free
      simp [Marked, pending?, Action.concerns, unowned]
  | acquire =>
      obtain ⟨locked, -⟩ := marked
      simp [Marked, pending?, Action.concerns, Mutex.setOwner, Mutex.owner?, locked, real]
  | destroyOwned _ owned =>
      have locked : cells.locked = true := by
        rw [(marked : cells.locked = _), owned]
        rfl
      simpa [Marked, pending?, Action.concerns, locked] using .inr owned
  | _ => simpa [Marked, pending?, Action.concerns] using marked

/-- The pieces of work between a claim and the marking or the release that follows it. -/
def Action.claims : Action n k C ν → Bool
  | .acquire .. | .releaseDestroyed .. => true
  | _ => false

theorem marked_iff {pending : Option (Action n k C ν)}
    (calm : ∀ action, pending = some action → action.claims = false) :
    Marked cells me pending ↔ cells.locked = cells.owner?.isSome := by
  unfold Marked
  split
  · exact absurd (calm _ rfl) (by simp [Action.claims])
  · exact absurd (calm _ rfl) (by simp [Action.claims])
  · rfl

theorem Action.calm_of_lasting (lasting : action.brief = false) : action.claims = false := by
  cases action <;> first | rfl | cases lasting

theorem Call.calm {request : Call n k C ν} (begins : request.actions = [action]) :
    action.claims = false := by
  cases request <;> cases begins <;> rfl

theorem Sound.real (sound : Sound home past machine) :
    (machine.thread home).number ≠ Mutex.noOwner := by
  cases present : (machine.runtime home).scheduler with
  | none =>
      rw [(sound.unpopulated present).current]
      decide
  | some scheduler =>
      have populated := sound.populated scheduler present
      have born := populated.born
      have bound := scheduler.nextId.toNat_lt
      rw [Block.number, populated.current] at born
      intro same
      rw [same] at born
      simp [Mutex.noOwner] at born
      omega

theorem calm_of_decides {parking : Option (Fin k)} (sound : Sound home past machine)
    (todo : machine.todo = .schedule home parking :: rest) (pending : Action n k C ν)
    (found : pending? mutex machine.todo = some pending) : pending.claims = false := by
  rw [todo] at found
  rcases List.mem_cons.mp (pending_mem found) with rfl | later
  · rfl
  · have stage := todo ▸ sound.stage
    rw [(stage_resume stage).1] at stage
    exact Action.calm_of_lasting (Suspended.lasting (.inr ⟨parking, stage⟩) _ later)

theorem Works.marked {after : Machine n k C ν} (works : Works home past mutex machine after)
    (sound : Sound home past machine)
    (marked : Marked (machine.cells mutex) (machine.thread home) (pending? mutex machine.todo)) :
    Marked (after.cells mutex) (after.thread home) (pending? mutex after.todo) := by
  cases works with
  | decides todo cells suspended =>
      rename_i parking rest
      have calm (pending : Action n k C ν) (found : pending? mutex after.todo = some pending) :=
        Action.calm_of_lasting (suspended.lasting pending (pending_mem found))
      rw [marked_iff calm, cells.locked, cells.owner]
      exact (marked_iff (calm_of_decides sound todo)).mp marked
  | aside todo apart elsewhere cells pending stays =>
      rw [cells, pending, stays.thread]
      rwa [todo, pending_aside elsewhere] at marked
  | handles todo concerned errand serves asked handles becomes left stays =>
      rw [todo, pending_head concerned] at marked
      rw [becomes, left, pending_append (pending_behind mutex asked), stays.thread]
      exact handles.marked marked sound.real

theorem Run.marked (run : Run home past machine) (going : machine.outcome = none)
    (mutex : Fin k) :
    Marked (machine.cells mutex) (machine.thread home) (pending? mutex machine.todo) := by
  induction run with
  | @start runtimes _ _ _ fresh code =>
      have idle : pending? mutex (Machine.start runtimes code).todo = none := rfl
      simp [Marked, idle, Mutex.new, Mutex.owner?]
  | @move past machine move run before fits ih =>
      have sound := run.sound before
      have marked := ih before
      by_cases library : move = .work
      · subst library
        exact (sound.works before fits going mutex).marked sound marked
      · -- Own code has nothing pending on the mutex, and calls do not begin with a claim.
        have speaks := sound.speaks fits library going mutex
        rw [speaks.before] at marked
        rw [speaks.mutexes]
        refine (marked_iff fun _ found => ?_).mpr marked
        obtain ⟨request, -, begins⟩ := speaks.after _ found
        exact Call.calm begins

/-- Whose call of lock is about to be answered with success owns the mutex. -/
theorem Run.granted (run : Run home past machine) (going : machine.outcome = none)
    (errand : errand? home (machine.thread home) past = some (.ask (.lock home mutex)))
    (member : .reply .done ∈ machine.todo) :
    (machine.cells mutex).owner? = some (machine.thread home) := by
  refine Run.answered
    (fun _ machine => (machine.cells mutex).owner? = some (machine.thread home))
    (.inl rfl) ?_ ?_ run going errand member
  · intro past machine run going aside owned
    rw [aside.cells, aside.stays.thread]
    exact owned
  · intro past machine action cells pushed run going completes
    have real := (run.sound going).real
    obtain ⟨-, -, serves, handles, becomes, stays, succeeds⟩ := completes
    rw [becomes, stays.thread]
    cases serves with
    | lock =>
        cases handles with
        | lockOwned usable owned => exact owned
        | lock | lockRefused => simp at succeeds
    | claim => cases handles <;> simp at succeeds
    | claimAgain => cases handles <;> simp at succeeds
    | woken => cases handles <;> simp at succeeds
    | acquire =>
        cases handles
        simp [Mutex.setOwner, Mutex.owner?, real]

/-- The calls by which the owner of a mutex gives it up. -/
def Move.GivesUp (home : Fin n) (mutex : Fin k) (move : Move n k C ν) : Prop :=
  move = .ask (.unlock home mutex) ∨ move = .ask (.destroy home mutex)

/-- A call of lock has returned success to the thread, and since then the thread
has asked neither to unlock the mutex nor to destroy it. -/
def Holds (home : Fin n) (mutex : Fin k) (thread : ThreadId) : List (Moment n k C ν) → Prop :=
  Since (fun moment past => moment.thread home = thread ∧
      moment.Succeeds home (.lock home mutex) past)
    fun moment => ¬(moment.thread home = thread ∧ moment.move.GivesUp home mutex)

/-- Initializations were asked for only while the mutex was open. -/
def Spared (mutex : Fin k) (past : List (Moment n k C ν)) : Prop :=
  ∀ moment ∈ past, moment.move = .ask (.init mutex) →
    (moment.machine.cells mutex).locked = false

theorem Spared.tail {moment : Moment n k C ν} (spared : Spared mutex (moment :: past)) :
    Spared mutex past := fun earlier member => spared earlier (List.mem_cons_of_mem _ member)

theorem Run.initializes (run : Run home past machine) (going : machine.outcome = none)
    (spared : Spared mutex past)
    (pending : pending? mutex machine.todo = some (.initMutex mutex)) :
    (machine.cells mutex).locked = false := by
  obtain ⟨⟨before, older, request, rfl, begins⟩, -⟩ := run.opening going pending rfl
  cases request <;> cases begins
  have free := spared _ List.mem_cons_self rfl
  cases run with
  | move run _ _ => exact free

theorem Spared.trail (spared : Spared mutex past) (moves : List (Move n k C ν))
    (others : ∀ move ∈ moves, move ≠ .ask (.init mutex)) :
    Spared mutex (trail past machine moves) := by
  intro moment member same
  rcases trail_moves member with earlier | later
  · exact spared moment earlier same
  · exact absurd same (others _ later)

theorem Holds.trail {thread : ThreadId} (holds : Holds home mutex thread past)
    (moves : List (Move n k C ν)) (keep : ∀ move ∈ moves, ¬move.GivesUp home mutex) :
    Holds home mutex thread (trail past machine moves) := by
  refine Since.trail holds moves fun moment member gives => ?_
  exact keep _ ((trail_moves member).resolve_left (by simp)) gives.2

/-- A thread whose errand is to give the mutex up does not hold it. -/
theorem Run.given_up (run : Run home past machine) {thread : ThreadId} {move : Move n k C ν}
    (errand : errand? home thread past = some move) (gives : move.GivesUp home mutex) :
    ¬Holds home mutex thread past := by
  induction run with
  | start fresh code => exact id
  | @move past before moved run going fits ih =>
      rintro (⟨rfl, ⟨library, -⟩, locks⟩ | ⟨held, kept⟩)
      · by_cases works : moved = .work
        · subst works
          rw [errand_work, locks] at errand
          cases errand
          simp [Move.GivesUp] at gives
        · exact absurd ((fits.own works).symm.trans library) (by decide)
      · by_cases enters : before.thread home = thread ∧ Moment.enters ⟨before, moved⟩ = true
        · obtain ⟨rfl, enters⟩ := enters
          have asked : errand? home (before.thread home) (⟨before, moved⟩ :: past) = some moved :=
            errand_of_enters ⟨before, moved⟩ enters
          cases asked.symm.trans errand
          exact kept ⟨rfl, gives⟩
        · have earlier : errand? home thread past = some move := by
            simpa only [errand?, Moment.thread, enters, if_false] using errand
          exact ih earlier held

/-- No piece of work takes the mutex from its owner but one of the owner's own calls. -/
theorem Handles.keeps_owner {thread : ThreadId} {move : Move n k C ν}
    (handles : Handles home mutex me cells action after pushed)
    (serves : Serves home mutex me move action) (marked : Marked cells me (some action))
    (initializes : action = .initMutex mutex → cells.locked = false)
    (apart : move.GivesUp home mutex → thread ≠ me)
    (owner : cells.owner? = some thread) (locked : cells.locked = true) :
    after.owner? = some thread ∧ after.locked = true := by
  have taken (free : cells.locked = false) : False := by simp [locked] at free
  cases handles with
  | init => exact (taken (initializes rfl)).elim
  | claim free | claimAgain free | drain free => exact (taken free).elim
  | acquire => exact absurd (owner.symm.trans marked.2) (by simp)
  | unlock owned | unlockHands owned =>
      cases serves
      exact absurd (Option.some.inj (owner.symm.trans owned)) (apart (.inl rfl))
  | releaseDestroyed =>
      cases serves
      rcases marked.2 with none | owned
      · exact absurd (owner.symm.trans none) (by simp)
      · exact absurd (Option.some.inj (owner.symm.trans owned)) (apart (.inr rfl))
  | _ => exact ⟨owner, locked⟩

/-- Whom a call of lock has returned success to owns the mutex until it gives it up. -/
theorem Run.holder_owns (run : Run home past machine) (going : machine.outcome = none)
    (spared : Spared mutex past) {thread : ThreadId} (holds : Holds home mutex thread past) :
    (machine.cells mutex).owner? = some thread ∧ (machine.cells mutex).locked = true := by
  induction run with
  | start fresh code => exact holds.elim
  | @move past machine move run before fits ih =>
      have sound := run.sound before
      have marked := run.marked before mutex
      by_cases library : move = .work
      · subst library
        change (machine.step.cells mutex).owner? = _ ∧
          (machine.step.cells mutex).locked = _
        rcases holds with ⟨rfl, ⟨-, back, answered⟩, locks⟩ | ⟨held, -⟩
        · -- The lock returns by this move, so its thread has been the owner since the claim.
          obtain ⟨answer, host, todo, replied⟩ :=
            sound.returns before fits going locks (.inl rfl) back
          obtain rfl : answer = .done := replied.symm.trans answered
          have owned := run.granted before locks (by simp [todo])
          rw [todo] at marked
          rw [Machine.step_eq before todo]
          exact ⟨owned, Eq.trans marked (by rw [owned]; rfl)⟩
        · obtain ⟨owner, locked⟩ := ih before spared.tail held
          cases sound.works before fits going mutex with
          | decides todo cells suspended =>
              exact ⟨cells.owner.trans owner, cells.locked.trans locked⟩
          | aside todo apart elsewhere cells pending stays =>
              rw [cells]
              exact ⟨owner, locked⟩
          | handles todo concerned errand serves asked handles becomes left stays =>
              have pending := todo ▸ pending_head concerned
              rw [pending] at marked
              rw [becomes]
              refine handles.keeps_owner serves marked (fun same => ?_) (fun gives same => ?_)
                owner locked
              · exact run.initializes before spared.tail (same ▸ pending)
              · exact run.given_up (same ▸ errand) gives held
      · rw [(sound.speaks fits library going mutex).mutexes]
        rcases holds with ⟨-, ⟨inside, -⟩, -⟩ | ⟨held, -⟩
        · exact absurd ((fits.own library).symm.trans inside) (by decide)
        · exact ih before spared.tail held

/-- A thread runs its own code, or the processor is about to be handed on. -/
def Machine.Rests (home : Fin n) (machine : Machine n k C ν) : Prop :=
  machine.inOwnCode = true ∨ ∃ parking rest, machine.todo = .schedule home parking :: rest

theorem Machine.Rests.calm (rests : machine.Rests home) (sound : Sound home past machine)
    (mutex : Fin k) :
    ∀ action, pending? mutex machine.todo = some action → action.claims = false := by
  intro action pending
  rcases rests with inside | ⟨parking, rest, todo⟩
  · obtain ⟨host, rest, todo⟩ := Machine.own_of_inOwnCode inside
    obtain ⟨-, rfl, -⟩ := sound.own_todo todo
    rw [todo] at pending
    cases pending
  · exact calm_of_decides sound todo action pending

/-- The threads of a run exclude one another from the mutex, unless it is
initialized while it is locked. -/
structure Excluded (home : Fin n) (past : List (Moment n k C ν)) (mutex : Fin k)
    (machine : Machine n k C ν) : Prop where
  owned : machine.Rests home → ((machine.cells mutex).locked = true ↔
    (machine.cells mutex).owner?.isSome = true)
  held : Spared mutex past → ∀ thread, Holds home mutex thread past →
    (machine.cells mutex).owner? = some thread ∧ (machine.cells mutex).locked = true
  alone : Spared mutex past → ∀ thread other, Holds home mutex thread past →
    Holds home mutex other past → thread = other

theorem Run.excludes (run : Run home past machine) (going : machine.outcome = none)
    (mutex : Fin k) : Excluded home past mutex machine := by
  have sound := run.sound going
  constructor
  case owned =>
    intro rests
    rw [(marked_iff (rests.calm sound mutex)).mp (run.marked going mutex)]
  case held => exact fun spared thread holds => run.holder_owns going spared holds
  case alone =>
    intro spared thread other holds others
    have owner := (run.holder_owns going spared holds).1
    exact Option.some.inj (owner.symm.trans (run.holder_owns going spared others).1)

/-- The context has the mutex while thread 1 is between its two claims. -/
theorem excludes_contended :
    Spared sole (trail [] (lone 3) contended) ∧
      Holds sole sole .main (trail [] (lone 3) contended) ∧
      Excluded sole (trail [] (lone 3) contended) sole ((lone 3).play contended) := by
  have spared : Spared sole (trail [] (lone 3) contended) := by
    have initial : Spared sole (trail [] (lone 3) (contended.take 1)) := by
      intro moment member _
      cases List.mem_singleton.mp member
      rfl
    rw [← List.take_append_drop 1 contended, trail_append]
    exact initial.trail _ (by simp [contended, Move.calling])
  have holds : Holds sole sole .main (trail [] (lone 3) contended) := by
    have granted : Holds sole sole .main (trail [] (lone 3) (contended.take 14)) :=
      .inl ⟨rfl, ⟨rfl, rfl, rfl⟩, rfl⟩
    rw [← List.take_append_drop 14 contended, trail_append]
    exact granted.trail _ (by simp [contended, Move.calling, Move.GivesUp])
  exact ⟨spared, holds, (Run.play (.start rfl ()) _ (by decide)).excludes rfl sole⟩

end UserThreads
