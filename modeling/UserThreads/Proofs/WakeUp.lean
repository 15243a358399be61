import UserThreads.Proofs.Left

/-!
No lost wake-ups: while threads are parked on an open mutex, some thread that runs or
is in line is about to claim it or to wake the next one.
-/

namespace UserThreads

variable {n k : Nat} {C ν : Type}

/-- The thread is taken off the queue of the mutex by this move. -/
def Moment.Pops (mutex : Fin k) (thread : ThreadId) (moment : Moment n k C ν) : Prop :=
  ∃ waiter, waiter.id = thread ∧
    moment.machine.parkedOn mutex = waiter :: moment.after.parkedOn mutex

/-- The thread was taken off the queue of the mutex, and has not claimed the mutex since. -/
def Roused (home : Fin n) (mutex : Fin k) (thread : ThreadId) : List (Moment n k C ν) → Prop :=
  Since (fun moment _ => moment.Pops mutex thread)
    fun moment => moment.machine.todo.head? ≠ some (.claim home mutex thread)

/-- The thread is about to claim the mutex or to wake the next one. -/
inductive Carries (home : Fin n) (past : List (Moment n k C ν)) (mutex : Fin k)
    (thread : ThreadId) (todo : List (Action n k C ν)) : Prop
  | woken (roused : Roused home mutex thread past)
      (pending : pending? mutex todo = some (.woken home mutex thread))
  | claims (roused : Roused home mutex thread past)
      (pending : pending? mutex todo = some (.claim home mutex thread))
  | handsOn (errand : errand? home thread past = some (.ask (.unlock home mutex)))
      (pending : pending? mutex todo = some (.handOn home mutex))

variable {home : Fin n} {mutex : Fin k} {past : List (Moment n k C ν)}
  {machine after : Machine n k C ν} {thread : ThreadId} {todo : List (Action n k C ν)}
  {action : Action n k C ν} {rest : List (Action n k C ν)}

theorem Carries.keep {moment : Moment n k C ν} {todo' : List (Action n k C ν)}
    (carries : Carries home past mutex thread todo)
    (quiet : moment.machine.todo.head? ≠ some (.claim home mutex thread))
    (errands : errand? home thread (moment :: past) = errand? home thread past)
    (same : pending? mutex todo' = pending? mutex todo) :
    Carries home (moment :: past) mutex thread todo' := by
  cases carries with
  | woken roused pending => exact .woken (.inr ⟨roused, quiet⟩) (same.trans pending)
  | claims roused pending => exact .claims (.inr ⟨roused, quiet⟩) (same.trans pending)
  | handsOn errand pending => exact .handsOn (errands.trans errand) (same.trans pending)

/-- Somebody who runs or is in line carries the mutex on. -/
def Carried (home : Fin n) (past : List (Moment n k C ν)) (mutex : Fin k)
    (machine : Machine n k C ν) : Prop :=
  ∃ thread todo, Runnable home machine thread todo ∧ Carries home past mutex thread todo

theorem Carries.pending (carries : Carries home past mutex thread todo) :
    ∃ action, pending? mutex todo = some action ∧ ∀ parking, action ≠ .schedule home parking := by
  cases carries with
  | woken _ pending | claims _ pending | handsOn _ pending => exact ⟨_, pending, by simp⟩

/-- A thread with work on the mutex ahead of it neither parks nor ends by a decision. -/
theorem Resumes.goes_on {me : ThreadId} {parking : Option (Fin k)} {move : Move n k C ν}
    (resumes : Resumes home me parking move rest) (apart : parking ≠ some mutex)
    (ahead : pending? mutex rest ≠ none) : parking = none ∧ move.exitValue? = none := by
  cases resumes with
  | entering asked doing =>
      rw [pending_aside rfl, pending_append (pending_behind mutex asked)] at ahead
      cases doing with
      | exit | leave | finish => exact absurd rfl ahead
      | _ => exact ⟨rfl, rfl⟩
  | yielded | drained | polled => exact ⟨rfl, rfl⟩
  | @waking other _ asked =>
      have elsewhere : (Action.woken home other me : Action n k C ν).concerns mutex = false :=
        beq_false_of_ne fun same => apart (congrArg some same)
      rw [pending_aside rfl, pending_aside elsewhere, pending_behind mutex asked] at ahead
      exact absurd rfl ahead
  | exited asked | left asked =>
      rw [pending_aside rfl, pending_behind mutex asked] at ahead
      exact absurd rfl ahead

/-- Decisions leave the mutex with whoever carries it on. -/
theorem Sound.decides_carried {parking : Option (Fin k)} (sound : Sound home past machine)
    (todo : machine.todo = .schedule home parking :: rest)
    (decided : Decided home past parking (machine.withTodo rest) after)
    (carried : Carried home past mutex machine) :
    Carried home (⟨machine, .work⟩ :: past) mutex after := by
  obtain ⟨thread, work, runnable, carries⟩ := carried
  have quiet : machine.todo.head? ≠ some (.claim home mutex thread) := by simp [todo]
  cases runnable with
  | running =>
      obtain ⟨action, pending, apart⟩ := carries.pending
      have elsewhere : (Action.schedule home parking : Action n k C ν).concerns mutex = false := by
        refine eq_false_of_ne_true fun concerned => ?_
        rw [todo, pending_head concerned] at pending
        exact absurd (Option.some.inj pending).symm (apart parking)
      have same : pending? mutex rest = pending? mutex machine.todo := by
        rw [todo, pending_aside elsewhere]
      obtain ⟨-, move, errand, resumes⟩ := stage_resumes (todo ▸ sound.stage)
      obtain ⟨rfl, stays⟩ := resumes.goes_on (ne_of_beq_false elsewhere) (by simp [same, pending])
      have exits : exitValue? home (machine.thread home) past = none := by
        rw [exitValue?, errand]
        exact stays
      exact ⟨_, _, decided.current rfl exits, carries.keep quiet (errand_work ..) same⟩
  | ready member =>
      exact ⟨_, _, decided.ready _ member, carries.keep quiet (errand_work ..) rfl⟩

/-- What a piece of work leaves to other threads stays with them. -/
theorem Stays.carried (stays : Stays home machine after) (sound : Sound home past machine)
    (quiet : ∀ thread, thread ≠ machine.thread home →
      machine.todo.head? ≠ some (.claim home mutex thread))
    (carried : Carried home past mutex machine) :
    Carried home (⟨machine, .work⟩ :: past) mutex after ∨
      Carries home past mutex (machine.thread home) machine.todo := by
  obtain ⟨thread, work, runnable, carries⟩ := carried
  by_cases own : thread = machine.thread home
  · subst own
    rw [sound.left_running (.runnable runnable)] at carries
    exact .inr carries
  · cases runnable with
    | running => exact absurd rfl own
    | ready member =>
        exact .inl ⟨_, _, .ready (stays.ready _ member),
          carries.keep (quiet _ own) (errand_work ..) rfl⟩

/-- The pieces of work on a mutex from which a thread carries it on. -/
theorem Carries.head (carries : Carries home past mutex thread (action :: rest))
    (concerned : action.concerns mutex = true) :
    action = .woken home mutex thread ∧ Roused home mutex thread past ∨
      action = .claim home mutex thread ∨ action = .handOn home mutex := by
  have here : some action = pending? mutex (action :: rest) := (pending_head concerned).symm
  cases carries with
  | woken roused pending => exact .inl ⟨Option.some.inj (here.trans pending), roused⟩
  | claims roused pending => exact .inr (.inl (Option.some.inj (here.trans pending)))
  | handsOn errand pending => exact .inr (.inr (Option.some.inj (here.trans pending)))

/-- Whoever is parked on a mutex goes on by looking whether it is still usable. -/
theorem Sound.parked_pending (sound : Sound home past machine)
    {block : Block (Context n k C ν) ν} (member : block ∈ machine.parkedOn mutex) :
    pending? mutex block.context.todo = some (.woken home mutex block.id) := by
  cases present : (machine.runtime home).scheduler with
  | none =>
      rw [(sound.unpopulated present).parked] at member
      cases member
  | some scheduler =>
      have parkedAt := (sound.populated scheduler present).parked mutex block member
      obtain ⟨-, move, -, resumes⟩ := stage_resumes parkedAt.stage
      generalize block.context.todo = todo at resumes
      cases resumes with
      | waking asked =>
          exact (pending_aside rfl).trans (pending_head (beq_self_eq_true mutex))

/-- Work on a mutex that is not destroyed keeps it carried on while threads wait for it. -/
theorem Sound.handles_carried {move : Move n k C ν} {pushed : List (Action n k C ν)}
    {cells : Mutex (Context n k C ν) ν} (sound : Sound home past machine)
    (todo : machine.todo = action :: rest) (concerned : action.concerns mutex = true)
    (errand : errand? home (machine.thread home) past = some move)
    (serves : Serves home mutex (machine.thread home) move action)
    (handles : Handles home mutex (machine.thread home) (machine.cells mutex) action cells pushed)
    (becomes : machine.step.cells mutex = cells) (left : machine.step.todo = pushed ++ rest)
    (stays : Stays home machine machine.step) (spares : move ≠ .ask (.destroy home mutex))
    (usable : action = .woken home mutex (machine.thread home) →
      (machine.cells mutex).status = .initialized)
    (rouses : ∀ waiter remaining, action = .handOn home mutex →
      (machine.cells mutex).waiters.pop = (some waiter, remaining) →
        ∃ block ∈ machine.step.readyOn home, block.id = waiter.id ∧ block.context = waiter.context)
    (free : (machine.step.cells mutex).locked = false)
    (waiting : machine.step.parkedOn mutex ≠ [])
    (earlier : (machine.cells mutex).locked = false →
      machine.parkedOn mutex ≠ [] → Carried home past mutex machine) :
    Carried home (⟨machine, .work⟩ :: past) mutex machine.step := by
  have waited : machine.parkedOn mutex ≠ [] := fun unparked => waiting (stays.unparked unparked)
  have quiet (thread : ThreadId) (other : thread ≠ machine.thread home) :
      machine.todo.head? ≠ some (.claim home mutex thread) := by
    rw [todo]
    rintro claims
    cases claims
    cases serves
    exact other rfl
  have goes_on (open_ : (machine.cells mutex).locked = false) :=
    stays.carried sound quiet (earlier open_ waited)
  rw [becomes] at free
  rw [todo] at goes_on
  cases handles with
  | init empty | unlock owned empty =>
      exact absurd ((WaitQueue.isEmpty_iff (sound.exact mutex)).mp empty) waited
  | claim | claimAgain | drain => cases free
  | claimFails taken | blocks taken => exact absurd (taken.symm.trans free) (by decide)
  | handOnNone alone => exact absurd alone waited
  | drop =>
      have emptied : machine.step.parkedOn mutex = [] := by
        rw [Machine.parkedOn, becomes]
        rfl
      exact absurd emptied waiting
  | destroy | destroyOwned | destroyRefused | drainAgain | releaseDestroyed | wakeAll
  | wakeAllDone => cases serves; exact absurd rfl spares
  | unlockHands =>
      cases serves
      refine ⟨_, _, .running, .handsOn ?_ ?_⟩
      · rw [stays.thread, errand_work, errand]
      · rw [left]
        exact (pending_aside rfl).trans (pending_head (beq_self_eq_true mutex))
  | @handOn waiter remaining popped =>
      obtain ⟨block, member, id, context⟩ := rouses waiter remaining rfl popped
      have front : machine.parkedOn mutex = waiter :: remaining.threads.elements :=
        WaitQueue.elements_of_pop popped
      have behind : machine.step.parkedOn mutex = remaining.threads.elements := by
        rw [Machine.parkedOn, becomes]
      refine ⟨_, _, .ready member, .woken (.inl ⟨waiter, id.symm, ?_⟩) ?_⟩
      · rw [front, ← behind]
        rfl
      · rw [id, context]
        exact sound.parked_pending (front ▸ List.mem_cons_self)
  | woken =>
      rcases goes_on free with carried | carries
      · exact carried
      · rcases carries.head concerned with ⟨-, roused⟩ | same | same
        · refine ⟨_, _, .running, .claims ?_ ?_⟩
          · rw [stays.thread]
            exact .inr ⟨roused, by simp [todo]⟩
          · rw [left, stays.thread]
            exact pending_head (beq_self_eq_true mutex)
        · cases same
        · cases same
  | wokenRefused unusable => exact absurd (usable rfl) unusable
  | _ =>
      rcases goes_on free with carried | carries
      · exact carried
      · rcases carries.head concerned with ⟨same, -⟩ | same | same <;> cases same

theorem errand_mem {move : Move n k C ν} (errand : errand? home thread past = some move) :
    ∃ moment ∈ past, moment.move = move := by
  induction past with
  | nil => cases errand
  | cons moment past ih =>
      by_cases enters : moment.thread home = thread ∧ moment.enters = true
      · rw [errand?, if_pos enters] at errand
        exact ⟨moment, List.mem_cons_self, Option.some.inj errand⟩
      · rw [errand?, if_neg enters] at errand
        obtain ⟨earlier, member, same⟩ := ih errand
        exact ⟨earlier, List.mem_cons_of_mem _ member, same⟩

theorem Run.undestroyed (run : Run home past machine) (going : machine.outcome = none)
    (kept : ∀ moment ∈ past, moment.move ≠ .ask (.destroy home mutex)) :
    (machine.cells mutex).status ≠ .destroyed := by
  induction run with
  | start fresh code => simp [Mutex.new]
  | @move past machine move run before fits ih =>
      have sound := run.sound before
      have earlier := ih before fun moment member => kept moment (List.mem_cons_of_mem _ member)
      by_cases library : move = .work
      · subst library
        change (machine.step.cells mutex).status ≠ _
        cases sound.works before fits going mutex with
        | decides todo cells suspended => exact cells.status ▸ earlier
        | aside todo apart elsewhere cells same stays => exact cells ▸ earlier
        | handles todo concerned errand serves asked handles becomes left stays =>
            rw [becomes]
            obtain ⟨moment, member, same⟩ := errand_mem errand
            have spares := kept moment (List.mem_cons_of_mem _ member)
            cases handles with
            | init => simp
            | destroy | destroyOwned => cases serves; exact absurd same spares
            | _ => exact earlier
      · rw [(sound.speaks fits library going mutex).mutexes]
        exact earlier

theorem Machine.handOn_rouses {waiter : Block (Context n k C ν) ν}
    {remaining : WaitQueue (Context n k C ν) ν} (going : machine.outcome = none)
    (todo : machine.todo = .handOn home mutex :: rest) (goes : machine.step.outcome = none)
    (popped : (machine.cells mutex).waiters.pop = (some waiter, remaining)) :
    ∃ block ∈ machine.step.readyOn home, block.id = waiter.id ∧ block.context = waiter.context := by
  rw [step_eq going todo] at goes ⊢
  obtain ⟨scheduler, -, seated⟩ := (machine.withTodo rest).perform_rouses (.inl rfl)
    (WaitQueue.elements_of_pop popped) goes
  refine ⟨{ waiter with status := .ready }, ?_, rfl, rfl⟩
  rw [readyOn_eq seated]
  exact OrderedQueue.mem_insertByAge.mpr (.inl rfl)

/-- While threads are parked on an open mutex, somebody carries it on. -/
theorem Run.carried (run : Run home past machine) (going : machine.outcome = none)
    (kept : ∀ moment ∈ past, moment.move ≠ .ask (.destroy home mutex))
    (free : (machine.cells mutex).locked = false)
    (waiting : machine.parkedOn mutex ≠ []) : Carried home past mutex machine := by
  induction run with
  | start fresh code =>
      simp [Machine.parkedOn, Mutex.new, WaitQueue.empty, OrderedQueue.empty] at waiting
  | @move past machine move run before fits ih =>
      have sound := run.sound before
      have spared (moment : Moment n k C ν) (member : moment ∈ past) :=
        kept moment (List.mem_cons_of_mem _ member)
      have earlier := ih before spared
      by_cases library : move = .work
      · subst library
        change (machine.step.cells mutex).locked = false at free
        change machine.step.parkedOn mutex ≠ [] at waiting
        change Carried home _ mutex machine.step
        cases sound.works before fits going mutex with
        | @decides parking rest todo cells suspended =>
            -- Whoever parks here found the mutex locked, so this decision parks nobody on it.
            have decided := sound.decided before todo going
            rw [cells.locked] at free
            have apart : parking ≠ some mutex := by
              rintro rfl
              have locked := run.parks_locked before (todo ▸ pending_parks home mutex rest)
              exact absurd (free.symm.trans locked) (by decide)
            rw [decided.parked mutex apart] at waiting
            exact sound.decides_carried todo decided (earlier free waiting)
        | @aside action rest todo apart elsewhere cells same stays =>
            have quiet (thread : ThreadId) :
                machine.todo.head? ≠ some (.claim home mutex thread) := by
              rw [todo]
              rintro claims
              cases claims
              simp [Action.concerns] at elsewhere
            have waited : machine.parkedOn mutex ≠ [] :=
              fun unparked => waiting (stays.unparked unparked)
            rcases stays.carried sound (fun thread _ => quiet thread)
              (earlier (cells ▸ free) waited) with carried | carries
            · exact carried
            · refine ⟨_, _, .running, ?_⟩
              rw [stays.thread]
              exact carries.keep (quiet _) (errand_work ..)
                (same.trans (todo ▸ (pending_aside elsewhere).symm))
        | handles todo concerned errand serves asked handles becomes left stays =>
            obtain ⟨moment, member, same⟩ := errand_mem errand
            refine sound.handles_carried todo concerned errand serves handles becomes left stays
              (same ▸ spared moment member) ?_ ?_ free waiting earlier
            · rintro rfl
              have begun := run.admitted before (.runnable .running)
                (todo ▸ pending_head concerned) rfl
              cases status : (machine.cells mutex).status with
              | initialized => rfl
              | uninitialized => exact absurd status begun
              | destroyed => exact absurd status (run.undestroyed before spared)
            · rintro waiter remaining rfl popped
              exact Machine.handOn_rouses before todo going popped
      · have speaks := sound.speaks fits library going mutex
        rw [speaks.mutexes] at free
        rw [Machine.parkedOn, speaks.mutexes] at waiting
        obtain ⟨thread, work, runnable, carries⟩ := earlier free waiting
        have other : machine.thread home ≠ thread := by
          rintro rfl
          obtain ⟨action, pending, -⟩ := carries.pending
          rw [sound.left_running (.runnable runnable), speaks.before] at pending
          cases pending
        cases runnable with
        | running => exact absurd rfl other
        | ready member =>
            refine ⟨_, _, .ready ?_, carries.keep ?_ (errand_of_other other) rfl⟩
            · rw [Machine.readyOn, speaks.runtimes]
              exact member
            · obtain ⟨host, rest, todo⟩ := Machine.own_of_inOwnCode (fits.own library)
              simp [todo]

/-- While threads are parked on an open mutex that is never destroyed, somebody who runs or
is in line was taken off its queue and has yet to claim it, or is inside an unlock that has
released it and has yet to wake the next one. -/
theorem Run.loses_no_wakeup (run : Run home past machine) (going : machine.outcome = none)
    (kept : ∀ moment ∈ past, moment.move ≠ .ask (.destroy home mutex))
    (free : (machine.cells mutex).locked = false)
    (waiting : machine.parkedOn mutex ≠ []) :
    ∃ thread todo, Runnable home machine thread todo ∧
      (Roused home mutex thread past ∨
        errand? home thread past = some (.ask (.unlock home mutex)) ∧
          .handOn home mutex ∈ todo) := by
  obtain ⟨thread, todo, runnable, carries⟩ := run.carried going kept free waiting
  refine ⟨thread, todo, runnable, ?_⟩
  cases carries with
  | woken roused | claims roused => exact .inl roused
  | handsOn errand pending => exact .inr ⟨errand, pending_mem pending⟩

/-- The context is about to wake thread 1, with the mutex open. -/
def releasing : List (Move 1 1 Unit Nat) :=
  contended ++ Move.calling (.yield sole) 7 ++ Move.calling (.unlock sole sole) 1

theorem loses_no_wakeup_releasing :
    (((lone 3).play releasing).cells sole).locked = false ∧
      ((lone 3).play releasing).parkedOn sole ≠ [] ∧
      ∃ thread todo, Runnable sole ((lone 3).play releasing) thread todo ∧
        (Roused sole sole thread (trail [] (lone 3) releasing) ∨
          errand? sole thread (trail [] (lone 3) releasing) = some (.ask (.unlock sole sole)) ∧
            .handOn sole sole ∈ todo) := by
  have run := Run.play (.start rfl ()) releasing (by decide : (lone 3).allows sole _ = true)
  have kept (moment : Moment 1 1 Unit Nat) (member : moment ∈ trail [] (lone 3) releasing) :
      moment.move ≠ .ask (.destroy sole sole) := by
    have asked := (trail_moves member).resolve_left (by simp)
    rintro same
    simp [same, releasing, contended, Move.calling] at asked
  have parked : (((lone 3).play releasing).parkedOn sole).length = 1 := rfl
  have waiting := List.ne_nil_of_length_eq_add_one parked
  exact ⟨rfl, waiting, run.loses_no_wakeup rfl kept rfl waiting⟩

end UserThreads
