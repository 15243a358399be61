import UserThreads.Proofs.Pending

/-!
Work on a mutex: what each piece does to its cells, and what it leaves to be done.
-/

namespace UserThreads

variable {n k : Nat} {C ν : Type} {κ : Type}

/-- What a piece of work on a mutex does to its cells when the thread `me` does
it, and what is left to be done in its place. -/
inductive Handles (home : Fin n) (mutex : Fin k) (me : ThreadId) (cells : Mutex κ ν) :
    Action n k C ν → Mutex κ ν → List (Action n k C ν) → Prop
  | init (empty : cells.waiters.isEmpty = true) :
      Handles home mutex me cells (.initMutex mutex) { cells.release with status := .initialized }
        [.reply .done]
  | initRefused {failure : Failure} (parked : cells.waiters.isEmpty = false) :
      Handles home mutex me cells (.initMutex mutex) cells [.reply (.failed failure)]
  | lockOwned (usable : cells.status = .initialized) (owned : cells.owner? = some me) :
      Handles home mutex me cells (.lock home mutex) cells [.reply .done]
  | lock (usable : cells.status = .initialized) :
      Handles home mutex me cells (.lock home mutex) cells [.claim home mutex me]
  | lockRefused (unusable : cells.status ≠ .initialized) :
      Handles home mutex me cells (.lock home mutex) cells
        [.close home, .refuse home "lock" cells.status]
  | claim (free : cells.locked = false) :
      Handles home mutex me cells (.claim home mutex me) { cells with locked := true }
        [.acquire mutex me]
  | claimFails (taken : cells.locked = true) :
      Handles home mutex me cells (.claim home mutex me) cells
        [.close home, .claimAgain home mutex me]
  | claimAgain (free : cells.locked = false) :
      Handles home mutex me cells (.claimAgain home mutex me) { cells with locked := true }
        [.reopen home, .acquire mutex me]
  | blocks (taken : cells.locked = true) :
      Handles home mutex me cells (.claimAgain home mutex me) cells
        [.schedule home (some mutex), .reopen home, .woken home mutex me]
  | woken (usable : cells.status = .initialized) :
      Handles home mutex me cells (.woken home mutex me) cells [.claim home mutex me]
  | wokenRefused (unusable : cells.status ≠ .initialized) :
      Handles home mutex me cells (.woken home mutex me) cells
        [.close home, .refuse home "lock" cells.status]
  | acquire :
      Handles home mutex me cells (.acquire mutex me) (cells.setOwner me) [.reply .done]
  | unlock (owned : cells.owner? = some me) (alone : cells.waiters.isEmpty = true) :
      Handles home mutex me cells (.unlock home mutex) cells.release [.reply .done]
  | unlockHands (owned : cells.owner? = some me) :
      Handles home mutex me cells (.unlock home mutex) cells.release
        [.close home, .handOn home mutex]
  | unlockRefused (other : cells.owner? ≠ some me) :
      Handles home mutex me cells (.unlock home mutex) cells [.close home, .refuseUnlock home me]
  | handOn {waiter : Block κ ν} {remaining : WaitQueue κ ν}
      (popped : cells.waiters.pop = (some waiter, remaining)) :
      Handles home mutex me cells (.handOn home mutex) { cells with waiters := remaining }
        [.reopen home, .reply .done]
  | handOnNone (alone : cells.waiters.threads.elements = []) :
      Handles home mutex me cells (.handOn home mutex) cells [.reopen home, .reply .done]
  | destroyOwned (usable : cells.status = .initialized) (owned : cells.owner? = some me) :
      Handles home mutex me cells (.destroy home mutex) { cells with status := .destroyed }
        [.releaseDestroyed home mutex]
  | destroy (usable : cells.status = .initialized) (other : cells.owner? ≠ some me) :
      Handles home mutex me cells (.destroy home mutex) { cells with status := .destroyed }
        [.drain home mutex]
  | destroyRefused (unusable : cells.status ≠ .initialized) :
      Handles home mutex me cells (.destroy home mutex) cells
        [.close home, .refuse home "destroy" cells.status]
  | drain (free : cells.locked = false) :
      Handles home mutex me cells (.drain home mutex) { cells with locked := true }
        [.releaseDestroyed home mutex]
  | drainAgain (taken : cells.locked = true) :
      Handles home mutex me cells (.drain home mutex) cells
        [.close home, .schedule home none, .reopen home, .drain home mutex]
  | releaseDestroyed :
      Handles home mutex me cells (.releaseDestroyed home mutex) cells.release
        [.close home, .wakeAll home mutex]
  | wakeAll {waiter : Block κ ν} {remaining : WaitQueue κ ν}
      (popped : cells.waiters.pop = (some waiter, remaining)) :
      Handles home mutex me cells (.wakeAll home mutex) { cells with waiters := remaining }
        [.wakeAll home mutex]
  | wakeAllDone (alone : cells.waiters.threads.elements = []) :
      Handles home mutex me cells (.wakeAll home mutex) cells [.reopen home, .reply .done]
  | drop :
      Handles home mutex me cells (.dropMutex mutex) { cells with waiters := .empty }
        [.reply .done]

variable {home : Fin n} {mutex : Fin k} {me : ThreadId} {past : List (Moment n k C ν)}
  {machine : Machine n k C ν} {action : Action n k C ν} {rest : List (Action n k C ν)}
  {errand : Option (Move n k C ν)} {closed : Bool}

/-- The pieces of work on a mutex as the thread `me` does them, each with its errand. -/
inductive Serves (home : Fin n) (mutex : Fin k) (me : ThreadId) :
    Move n k C ν → Action n k C ν → Prop
  | initMutex : Serves home mutex me (.ask (.init mutex)) (.initMutex mutex)
  | lock : Serves home mutex me (.ask (.lock home mutex)) (.lock home mutex)
  | claim : Serves home mutex me (.ask (.lock home mutex)) (.claim home mutex me)
  | claimAgain : Serves home mutex me (.ask (.lock home mutex)) (.claimAgain home mutex me)
  | woken : Serves home mutex me (.ask (.lock home mutex)) (.woken home mutex me)
  | acquire : Serves home mutex me (.ask (.lock home mutex)) (.acquire mutex me)
  | unlock : Serves home mutex me (.ask (.unlock home mutex)) (.unlock home mutex)
  | handOn : Serves home mutex me (.ask (.unlock home mutex)) (.handOn home mutex)
  | destroy : Serves home mutex me (.ask (.destroy home mutex)) (.destroy home mutex)
  | drain : Serves home mutex me (.ask (.destroy home mutex)) (.drain home mutex)
  | releaseDestroyed :
      Serves home mutex me (.ask (.destroy home mutex)) (.releaseDestroyed home mutex)
  | wakeAll : Serves home mutex me (.ask (.destroy home mutex)) (.wakeAll home mutex)
  | dropMutex : Serves home mutex me (.ask (.dropMutex mutex)) (.dropMutex mutex)

theorem pending_behind (mutex : Fin k) {move : Move n k C ν} {behind : List (Action n k C ν)}
    (asked : Errand home move behind) : pending? mutex behind = none := by
  cases asked <;> rfl

/-- A thread works on a mutex in its own name, and goes back to its own code after that. -/
theorem stage_serves (stage : Stage home me errand closed (action :: rest))
    (concerned : action.concerns mutex = true)
    (apart : ∀ parking, action ≠ .schedule home parking) :
    ∃ move, errand = some move ∧ Serves home mutex me move action ∧ Errand home move rest := by
  generalize shape : action :: rest = todo at stage
  cases stage with
  | initial | own | begin | beginning | enter => cases shape; cases concerned
  | guarded asked doing way =>
      cases way with
      | timerSchedules => cases shape; exact absurd rfl (apart _)
      | close | timer | timerCloses | closed => cases shape; cases concerned
      | through =>
          cases doing with
          | claimAgain =>
              cases shape; cases eq_of_beq concerned; exact ⟨_, rfl, .claimAgain, asked⟩
          | handOn => cases shape; cases eq_of_beq concerned; exact ⟨_, rfl, .handOn, asked⟩
          | wakeAll => cases shape; cases eq_of_beq concerned; exact ⟨_, rfl, .wakeAll, asked⟩
          | yield | drain => cases shape; exact absurd rfl (apart _)
          | _ => cases shape; cases concerned
  | piece asked doing =>
      cases doing with
      | initMutex => cases shape; cases eq_of_beq concerned; exact ⟨_, rfl, .initMutex, asked⟩
      | dropMutex => cases shape; cases eq_of_beq concerned; exact ⟨_, rfl, .dropMutex, asked⟩
      | lock => cases shape; cases eq_of_beq concerned; exact ⟨_, rfl, .lock, asked⟩
      | claim => cases shape; cases eq_of_beq concerned; exact ⟨_, rfl, .claim, asked⟩
      | woken => cases shape; cases eq_of_beq concerned; exact ⟨_, rfl, .woken, asked⟩
      | acquire => cases shape; cases eq_of_beq concerned; exact ⟨_, rfl, .acquire, asked⟩
      | unlock => cases shape; cases eq_of_beq concerned; exact ⟨_, rfl, .unlock, asked⟩
      | destroy => cases shape; cases eq_of_beq concerned; exact ⟨_, rfl, .destroy, asked⟩
      | drain => cases shape; cases eq_of_beq concerned; exact ⟨_, rfl, .drain, asked⟩
      | releaseDestroyed =>
          cases shape; cases eq_of_beq concerned; exact ⟨_, rfl, .releaseDestroyed, asked⟩
      | polling | parking | exiting | leaving => cases shape; exact absurd rfl (apart _)
      | _ => cases shape; cases concerned

namespace Machine

theorem blockCurrent_frame (before : Machine n k C ν) (home : Fin n) :
    (before.blockCurrent home).cells = before.cells ∧
      (before.blockCurrent home).todo = before.todo := by
  unfold blockCurrent
  split <;> exact ⟨rfl, rfl⟩

/-- A piece of work on a mutex leads from one machine to another. -/
def Handled (home : Fin n) (mutex : Fin k) (me : ThreadId) (action : Action n k C ν)
    (before after : Machine n k C ν) : Prop :=
  ∃ cells pushed, Handles home mutex me (before.cells mutex) action cells pushed ∧
    after.cells mutex = cells ∧ after.todo = pushed ++ before.todo

theorem perform_handled (before : Machine n k C ν) {move : Move n k C ν}
    (serves : Serves home mutex me move action)
    (self : before.thread home = me)
    (exact : (before.cells mutex).waiters.Exact)
    (goes : (before.perform action).outcome = none) :
    Handled home mutex me action before (before.perform action) := by
  subst self
  have owned_iff : (before.cells mutex).isOwnedBy
      (before.runtime home).current = true ↔
        (before.cells mutex).owner? = some (before.thread home) :=
    decide_eq_true_iff
  cases serves with
  | initMutex =>
      simp only [perform, initMutex]
      split <;> rename_i done
      · exact ⟨_, _, .initRefused (Mutex.init_refused done), rfl, rfl⟩
      · obtain ⟨empty, rfl⟩ := Mutex.init_eq done
        exact ⟨_, _, .init empty, cells_setMutex_self .., rfl⟩
  | lock =>
      simp only [perform, lock, refuseUse]
      split
      · rename_i usable
        split
        · rename_i owned
          exact ⟨_, _, .lockOwned usable (owned_iff.mp owned), rfl, rfl⟩
        · exact ⟨_, _, .lock usable, rfl, rfl⟩
      · rename_i unusable
        exact ⟨_, _, .lockRefused unusable, rfl, rfl⟩
  | claim =>
      simp only [perform, claim]
      split <;> rename_i claimed
      · obtain ⟨free, rfl⟩ := Mutex.claim_free claimed
        exact ⟨_, _, .claim free, cells_setMutex_self .., rfl⟩
      · obtain ⟨taken, rfl⟩ := Mutex.claim_taken claimed
        exact ⟨_, _, .claimFails taken, cells_setMutex_self .., rfl⟩
  | claimAgain =>
      simp only [perform, claimAgain] at goes ⊢
      split <;> rename_i claimed
      · obtain ⟨free, rfl⟩ := Mutex.claim_free claimed
        exact ⟨_, _, .claimAgain free, cells_setMutex_self .., rfl⟩
      · obtain ⟨taken, rfl⟩ := Mutex.claim_taken claimed
        obtain ⟨mutexes, todo⟩ := ((before.setMutex mutex (before.cells mutex)).report
          (.lockBlocks (before.thread home))).blockCurrent_frame home
        exact ⟨_, _, .blocks taken, (congrFun mutexes mutex).trans (cells_setMutex_self ..),
          congrArg (_ ++ ·) todo⟩
  | woken =>
      simp only [perform, woken, refuseUse]
      split
      · rename_i usable
        exact ⟨_, _, .woken usable, rfl, rfl⟩
      · rename_i unusable
        exact ⟨_, _, .wokenRefused unusable, rfl, rfl⟩
  | acquire => exact ⟨_, _, .acquire, cells_setMutex_self .., rfl⟩
  | unlock =>
      simp only [perform, unlock]
      split
      · rename_i owned
        split
        · rename_i alone
          exact ⟨_, _, .unlock (owned_iff.mp owned) alone, cells_setMutex_self .., rfl⟩
        · exact ⟨_, _, .unlockHands (owned_iff.mp owned), cells_setMutex_self .., rfl⟩
      · rename_i other
        exact ⟨_, _, .unlockRefused fun owned => other (owned_iff.mpr owned), rfl, rfl⟩
  | handOn =>
      simp only [perform, handOn, popWaiter] at goes ⊢
      cases popped : (before.cells mutex).waiters.pop with
      | mk first remaining =>
          simp only [popped] at goes ⊢
          cases first with
          | none =>
              have alone := (WaitQueue.elements_of_pop_none popped).1
              have same := WaitQueue.eq_of_pop_none exact popped
              exact ⟨_, _, .handOnNone alone, same ▸ cells_setMutex_self .., rfl⟩
          | some waiter =>
              obtain ⟨scheduler, -, woken⟩ := wake_eq goes
              simp only [woken]
              exact ⟨_, _, .handOn popped, cells_setMutex_self .., rfl⟩
  | destroy =>
      simp only [perform, destroy, refuseUse]
      split
      · rename_i usable
        split
        · rename_i owned
          exact ⟨_, _, .destroyOwned usable (owned_iff.mp owned), cells_setMutex_self .., rfl⟩
        · rename_i other
          have foreign := fun owned => other (owned_iff.mpr owned)
          exact ⟨_, _, .destroy usable foreign, cells_setMutex_self .., rfl⟩
      · rename_i unusable
        exact ⟨_, _, .destroyRefused unusable, rfl, rfl⟩
  | drain =>
      simp only [perform, drain]
      split <;> rename_i claimed
      · obtain ⟨free, rfl⟩ := Mutex.claim_free claimed
        exact ⟨_, _, .drain free, cells_setMutex_self .., rfl⟩
      · obtain ⟨taken, rfl⟩ := Mutex.claim_taken claimed
        exact ⟨_, _, .drainAgain taken, cells_setMutex_self .., rfl⟩
  | releaseDestroyed => exact ⟨_, _, .releaseDestroyed, cells_setMutex_self .., rfl⟩
  | wakeAll =>
      simp only [perform, wakeAll, popWaiter] at goes ⊢
      cases popped : (before.cells mutex).waiters.pop with
      | mk first remaining =>
          simp only [popped] at goes ⊢
          cases first with
          | none =>
              have alone := (WaitQueue.elements_of_pop_none popped).1
              have same := WaitQueue.eq_of_pop_none exact popped
              exact ⟨_, _, .wakeAllDone alone, same ▸ cells_setMutex_self .., rfl⟩
          | some waiter =>
              obtain ⟨scheduler, -, woken⟩ := wake_eq goes
              simp only [woken]
              exact ⟨_, _, .wakeAll popped, cells_setMutex_self .., rfl⟩
  | dropMutex =>
      simp only [perform, dropMutex]
      split <;> exact ⟨_, _, .drop, cells_setMutex_self .., rfl⟩

end Machine

/-- What a piece of work of a run comes to for a mutex. -/
inductive Works (home : Fin n) (past : List (Moment n k C ν)) (mutex : Fin k)
    (machine after : Machine n k C ν) : Prop
  | decides {parking : Option (Fin k)} {rest : List (Action n k C ν)}
      (todo : machine.todo = .schedule home parking :: rest)
      (cells : Machine.SameCells mutex machine after)
      (suspended : Suspended home (after.thread home) (errand? home (after.thread home) past)
        after.todo)
  | aside {action : Action n k C ν} {rest : List (Action n k C ν)}
      (todo : machine.todo = action :: rest) (apart : ∀ parking, action ≠ .schedule home parking)
      (elsewhere : action.concerns mutex = false)
      (cells : after.cells mutex = machine.cells mutex)
      (pending : pending? mutex after.todo = pending? mutex rest)
      (stays : Stays home machine after)
  | handles {action : Action n k C ν} {rest pushed : List (Action n k C ν)}
      {cells : Mutex (Context n k C ν) ν} {move : Move n k C ν}
      (todo : machine.todo = action :: rest) (concerned : action.concerns mutex = true)
      (errand : errand? home (machine.thread home) past = some move)
      (serves : Serves home mutex (machine.thread home) move action)
      (asked : Errand home move rest)
      (handles : Handles home mutex (machine.thread home) (machine.cells mutex) action cells
        pushed)
      (becomes : after.cells mutex = cells) (left : after.todo = pushed ++ rest)
      (stays : Stays home machine after)

theorem Sound.works (sound : Sound home past machine) (going : machine.outcome = none)
    (library : machine.inOwnCode = false)
    (goes : machine.step.outcome = none) (mutex : Fin k) :
    Works home past mutex machine machine.step := by
  cases sound.next with
  | @decides parking rest todo =>
      have suspended := sound.suspended going todo goes
      refine .decides todo ?_ suspended
      rw [Machine.step_eq going todo]
      have same := (machine.withTodo rest).schedule_sameCells home parking mutex
      exact ⟨same.locked, same.owner, same.status⟩
  | @works action rest todo apart =>
      have stays := (sound.proceeds going todo (apart home) library goes).stays
      have step := Machine.step_eq going todo
      cases concerned : action.concerns mutex with
      | false =>
          have elsewhere := (machine.withTodo rest).perform_aside concerned apart
          exact .aside todo (apart home) concerned (step ▸ elsewhere.cells)
            (step ▸ elsewhere.pending) stays
      | true =>
          obtain ⟨move, errand, serves, asked⟩ :=
            stage_serves (todo ▸ sound.stage) concerned (apart home)
          rw [step] at goes
          obtain ⟨cells, pushed, handles, becomes, left⟩ :=
            (machine.withTodo rest).perform_handled serves rfl (sound.exact mutex) goes
          exact .handles todo concerned errand serves asked handles (step ▸ becomes) (step ▸ left)
            stays

/-- The pieces of work that no thread ever has left when it is suspended. -/
def Action.brief : Action n k C ν → Bool
  | .schedule _ (some _) | .initMutex _ | .lock .. | .claim .. | .acquire .. | .unlock ..
  | .destroy .. | .releaseDestroyed .. | .dropMutex _ => true
  | _ => false

theorem Errand.lasting {move : Move n k C ν} (asked : Errand home move rest) :
    ∀ action ∈ rest, action.brief = false := by
  cases asked <;> simp [Action.brief]

theorem Suspended.lasting {todo : List (Action n k C ν)}
    (suspended : Suspended home me errand todo) : ∀ action ∈ todo, action.brief = false := by
  rcases suspended with ⟨-, rfl⟩ | ⟨parking, stage⟩
  · simp [Action.brief]
  · obtain ⟨-, move, -, resumes⟩ := stage_resumes stage
    cases resumes with
    | entering asked doing => cases doing <;> simpa [Action.brief] using asked.lasting
    | yielded asked | drained asked | polled asked | waking asked | exited asked | left asked =>
        simpa [Action.brief] using asked.lasting

/-- A call on a mutex begins with a single piece of work. -/
theorem actions_of_pending {request : Call n k C ν} {pending : Action n k C ν}
    (found : pending? mutex request.actions = some pending) : request.actions = [pending] := by
  cases request with
  | init | lock | unlock | destroy | dropMutex =>
      cases List.mem_singleton.mp (pending_mem found)
      rfl
  | _ => simp [pending?, Call.actions, Action.concerns] at found

/-- What a move of own code comes to for a mutex. -/
structure Speaks (mutex : Fin k) (machine : Machine n k C ν) (move : Move n k C ν)
    (after : Machine n k C ν) : Prop where
  runtimes : after.runtime = machine.runtime
  mutexes : after.cells = machine.cells
  before : pending? mutex machine.todo = none
  after : ∀ pending, pending? mutex after.todo = some pending →
    ∃ request, move = .ask request ∧ request.actions = [pending]

theorem Speaks.thread {move : Move n k C ν} {after : Machine n k C ν}
    (speaks : Speaks mutex machine move after)
    (home : Fin n) : after.thread home = machine.thread home := by
  rw [Machine.thread, speaks.runtimes, Machine.thread]

theorem Sound.speaks {move : Move n k C ν} (sound : Sound home past machine)
    (fits : move.Fits home machine) (own : move ≠ .work)
    (goes : (machine.make move).outcome = none) (mutex : Fin k) :
    Speaks mutex machine move (machine.make move) := by
  obtain ⟨host, todo, said⟩ := sound.said fits own goes
  have before : pending? mutex machine.todo = none := by
    rw [todo]
    rfl
  cases said with
  | think =>
      refine ⟨rfl, rfl, before, fun pending found => ?_⟩
      exact absurd (before.symm.trans found) (by simp)
  | @ask request =>
      refine ⟨rfl, rfl, before, fun pending found => ?_⟩
      exact ⟨request, rfl, actions_of_pending ((pending_append before).symm.trans found)⟩
  | leave left =>
      rw [left]
      exact ⟨rfl, rfl, before, fun pending found => by cases found⟩

/-- The pieces of work that calls on a mutex begin with. -/
def Action.opens : Action n k C ν → Bool
  | .initMutex _ | .lock .. | .unlock .. | .destroy .. | .dropMutex _ => true
  | _ => false

theorem Action.brief_of_opens (opens : action.opens = true) : action.brief = true := by
  cases action <;> first | rfl | cases opens

theorem Handles.opens {cells after : Mutex κ ν} {pushed : List (Action n k C ν)}
    {next : Action n k C ν} (handles : Handles home mutex me cells action after pushed)
    (pending : pending? mutex pushed = some next) : next.opens = false := by
  cases handles <;> simp [pending?, Action.concerns] at pending <;> exact pending ▸ rfl

/-- A call on a mutex begins right after it was asked for. -/
theorem Run.opening (run : Run home past machine) (going : machine.outcome = none)
    (pending : pending? mutex machine.todo = some action) (opens : action.opens = true) :
    (∃ before older request, past = ⟨before, .ask request⟩ :: older ∧
      request.actions = [action]) ∧ ∃ rest, machine.todo = action :: rest := by
  induction run with
  | start fresh code => cases pending
  | @move past machine move run before fits ih =>
      have sound := run.sound before
      by_cases library : move = .work
      · subst library
        change pending? mutex machine.step.todo = _ at pending
        cases sound.works before fits going mutex with
        | decides todo cells suspended =>
            have lasting := suspended.lasting _ (pending_mem pending)
            exact absurd ((Action.brief_of_opens opens).symm.trans lasting) (by decide)
        | aside todo apart elsewhere cells same stays =>
            -- The call would have been the next work already, but other work was done.
            have earlier := (pending_aside elsewhere).trans (same.symm.trans pending)
            obtain ⟨-, rest, begins⟩ := ih before (todo ▸ earlier)
            cases todo.symm.trans begins
            have concerned := List.find?_some earlier
            exact absurd (elsewhere.symm.trans concerned) (by decide)
        | handles todo concerned errand serves asked handles becomes left stays =>
            rw [left, pending_append (pending_behind mutex asked)] at pending
            exact absurd (opens.symm.trans (handles.opens pending)) (by decide)
      · obtain ⟨request, rfl, begins⟩ := (sound.speaks fits library going mutex).after _ pending
        refine ⟨⟨_, _, _, rfl, begins⟩, machine.todo, ?_⟩
        change request.actions ++ machine.todo = _
        rw [begins]
        rfl

/-- Only the library goes on where it is at work. -/
theorem Move.Fits.works {move : Move n k C ν} (fits : move.Fits home machine)
    (todo : machine.todo = action :: rest) (foreign : action.isOwn = false) : move = .work := by
  by_cases library : move = .work
  · exact library
  · have inside := fits.own library
    rw [Machine.inOwnCode, todo] at inside
    exact absurd (inside.symm.trans foreign) (by decide)

/-- Whoever is about to park found the mutex locked. -/
theorem Run.parks_locked (run : Run home past machine) (going : machine.outcome = none)
    (pending : pending? mutex machine.todo = some (.schedule home (some mutex))) :
    (machine.cells mutex).locked = true := by
  induction run with
  | start fresh code => cases pending
  | @move past machine move run before fits ih =>
      have sound := run.sound before
      by_cases library : move = .work
      · subst library
        change pending? mutex machine.step.todo = _ at pending
        change (machine.step.cells mutex).locked = true
        cases sound.works before fits going mutex with
        | decides todo cells suspended =>
            exact absurd (suspended.lasting _ (pending_mem pending)) (by simp [Action.brief])
        | aside todo apart elsewhere cells same stays =>
            rw [cells]
            exact ih before (todo ▸ (pending_aside elsewhere).trans (same.symm.trans pending))
        | handles todo concerned errand serves asked handles becomes left stays =>
            rw [left, pending_append (pending_behind mutex asked)] at pending
            rw [becomes]
            cases handles with
            | blocks taken => exact taken
            | _ => simp [pending?, Action.concerns] at pending
      · obtain ⟨request, -, begins⟩ := (sound.speaks fits library going mutex).after _ pending
        cases request <;> cases begins

end UserThreads
