import UserThreads.Proofs.Threads

/-!
Parking and waking keep the machine sound, and so does every move of a run.
-/

namespace UserThreads

variable {n k : Nat} {C ν : Type} {home : Fin n} {past : List (Moment n k C ν)}
  {machine after : Machine n k C ν} {scheduler : Scheduler (Context n k C ν) ν} {mutex : Fin k}
  {rest : List (Action n k C ν)}

namespace Machine

theorem waiters_setMutex (machine : Machine n k C ν) (mutex other : Fin k)
    (cells : Mutex (Context n k C ν) ν) :
    ((machine.setMutex mutex cells).cells other).waiters =
      if mutex = other then cells.waiters else (machine.cells other).waiters := by
  rw [cells_setMutex, apply_ite Mutex.waiters]

theorem wake_eq {before : Machine n k C ν} {block : Block (Context n k C ν) ν}
    (goes : (before.wake home block).outcome = none) :
    ∃ scheduler, (before.runtime home).scheduler = some scheduler ∧
      before.wake home block =
        (before.report (.threadWoken block.id)).setScheduler home (scheduler.makeReady block) := by
  simp only [wake, runtime_report] at goes ⊢
  cases present : (before.runtime home).scheduler with
  | none =>
      rw [present] at goes
      cases goes
  | some scheduler => exact ⟨scheduler, rfl, rfl⟩

/-- The first thread in line at a mutex is made ready for the runtime on whose behalf it is
woken, wherever it comes from. -/
theorem perform_rouses (before : Machine n k C ν) {action : Action n k C ν}
    {waiter : Block (Context n k C ν) ν} {others : List (Block (Context n k C ν) ν)}
    (wakes : action = .handOn home mutex ∨ action = .wakeAll home mutex)
    (line : before.parkedOn mutex = waiter :: others)
    (goes : (before.perform action).outcome = none) :
    ∃ scheduler, (before.runtime home).scheduler = some scheduler ∧
      ((before.perform action).runtime home).scheduler = some (scheduler.makeReady waiter) := by
  cases popped : (before.cells mutex).waiters.pop with
  | mk first remaining =>
      cases first with
      | none =>
          have empty := (WaitQueue.elements_of_pop_none popped).1
          cases line.symm.trans empty
      | some first =>
          cases line.symm.trans (WaitQueue.elements_of_pop popped)
          rcases wakes with rfl | rfl <;>
            simp only [perform, handOn, wakeAll, popWaiter, popped] at goes ⊢
          all_goals
            obtain ⟨scheduler, present, woken⟩ := wake_eq goes
            refine ⟨scheduler, present, ?_⟩
            simp only [woken]
            change ((setScheduler _ home _).runtime home).scheduler = _
            rw [runtime_setScheduler]

/-- Giving a mutex up empties its queue, and reports the threads that vanish with it. -/
theorem dropMutex_eq (machine : Machine n k C ν) (mutex : Fin k) :
    ∃ log cells, cells.waiters = .empty ∧ machine.dropMutex mutex =
      (setMutex { machine with log } mutex cells).push [.reply .done] := by
  unfold dropMutex
  dsimp only
  split <;> exact ⟨_, _, rfl, rfl⟩

end Machine

namespace Sound

theorem claimAgain (sound : Sound home past machine) (going : machine.outcome = none)
    (todo : machine.todo = .claimAgain home mutex (machine.thread home) :: rest)
    (asked : Errand home (.ask (.lock home mutex)) rest)
    (errand : errand? home (machine.thread home) past = some (.ask (.lock home mutex)))
    (shut : machine.shut home = true) (goes : machine.step.outcome = none) :
    Proceeds home past machine machine.step := by
  have taken : gone (⟨machine, .work⟩ :: past) = gone past :=
    gone_work todo rfl
  rw [Machine.step_eq going todo] at goes ⊢
  change ((machine.withTodo rest).claimAgain home mutex _).outcome = none at goes
  change Proceeds home past machine ((machine.withTodo rest).claimAgain home mutex _)
  simp only [Machine.claimAgain, Machine.cells_withTodo] at goes ⊢
  cases claimed : (machine.cells mutex).claim with
  | mk success cells =>
      cases success with
      | true =>
          have same : cells.waiters = ((machine.withTodo rest).cells mutex).waiters := by
            rw [(Mutex.claim_free claimed).2]
            rfl
          simp only
          refine sound.keep_work todo (by simp)
            (.of_withTodo (.push (Machine.setMutex_keepsQueues home same) _)) ?_ taken
          rw [errand]
          exact shut ▸ .piece asked .granting
      | false =>
          obtain ⟨-, rfl⟩ := Mutex.claim_taken claimed
          simp only [claimed, Machine.blockCurrent] at goes ⊢
          simp only [Machine.runtime_report, Machine.runtime_setMutex,
            Machine.runtime_withTodo] at goes ⊢
          cases present : (machine.runtime home).scheduler with
          | none =>
              rw [present] at goes
              cases goes
          | some scheduler =>
              have populated := sound.populated scheduler present
              obtain ⟨status, unset⟩ := populated.standing.ready_of todo (by simp)
              have same (other : Fin k) :
                  (((machine.withTodo rest).setMutex mutex (machine.cells mutex)).cells
                    other).waiters = (machine.cells other).waiters := by
                rw [Machine.waiters_setMutex]
                split
                · rename_i equal
                  rw [equal]
                · rfl
              refine sound.reseat present { scheduler with
                  current := { scheduler.current with status := .blocked } }
                rfl rfl rfl (Nat.le_refl _) ?exact ?stage ?accounts (.blocked rfl unset rfl)
                (fun _ => id) (fun _ => .inl) (fun _ => id) ?parked
              case exact => exact fun other => (same other).symm ▸ sound.exact other
              case stage =>
                rw [errand, shut]
                exact .piece asked .parking
              case accounts =>
                refine populated.rearranged rfl taken fun number => ?_
                exact congrArg (_ + tally · number)
                  (Machine.parked_congr fun other => congrArg (·.threads.elements) (same other))
              case parked =>
                intro other block member
                exact (congrArg (block ∈ ·.threads.elements) (same other)).mp member

theorem wake {action : Action n k C ν} {waiter : Block (Context n k C ν) ν}
    {remaining : WaitQueue (Context n k C ν) ν} {cells : Mutex (Context n k C ν) ν}
    (sound : Sound home past machine) (todo : machine.todo = action :: rest)
    (apart : ∀ parking, action ≠ .schedule home parking)
    (present : (machine.runtime home).scheduler = some scheduler)
    (popped : (machine.cells mutex).waiters.pop = (some waiter, remaining))
    (left : cells.waiters = remaining)
    (runtimes : after.runtime = (machine.setScheduler home (scheduler.makeReady waiter)).runtime)
    (active : after.active = machine.active)
    (mutexes : after.cells = (machine.setMutex mutex cells).cells)
    (stage : Stage home (machine.thread home) (errand? home (machine.thread home) past)
      (machine.shut home) after.todo)
    (taken : gone (⟨machine, .work⟩ :: past) = gone past) :
    Proceeds home past machine after := by
  have populated := sound.populated scheduler present
  obtain ⟨status, unset⟩ := populated.standing.ready_of todo apart
  have front : machine.parkedOn mutex = waiter :: remaining.threads.elements :=
    WaitQueue.elements_of_pop popped
  have here : after.parkedOn mutex = remaining.threads.elements := by
    rw [Machine.parkedOn, mutexes, Machine.waiters_setMutex, if_pos rfl, left]
  have elsewhere (other : Fin k) (apart : other ≠ mutex) :
      after.parkedOn other = machine.parkedOn other := by
    rw [Machine.parkedOn, mutexes, Machine.waiters_setMutex, if_neg apart.symm, Machine.parkedOn]
  have parkedAt := populated.parked mutex waiter (front ▸ List.mem_cons_self)
  refine sound.reseat present (scheduler.makeReady waiter) runtimes active rfl (Nat.le_refl _)
    ?exact stage ?accounts (.ready status unset)
    (fun _ old => OrderedQueue.mem_insertByAge.mpr (.inr old)) ?ready (fun _ => id) ?parked
  case exact =>
    intro other
    rw [mutexes, Machine.waiters_setMutex]
    split
    · have exact := (machine.cells mutex).waiters.exact_pop
      rw [popped] at exact
      exact left ▸ exact
    · exact sound.exact other
  case accounts =>
    refine populated.rearranged rfl taken fun number => ?_
    have exchanged := tally_parked_exchange number elsewhere
    rw [front, here, tally_cons] at exchanged
    rw [tally_makeReady]
    change tally [scheduler.current] number + _ + tally scheduler.completed.elements number + _ = _
    omega
  case ready =>
    intro block member
    rcases OrderedQueue.mem_insertByAge.mp member with rfl | member
    · exact .inr ⟨⟨rfl, parkedAt.value, .inr ⟨_, errand_work .. ▸ parkedAt.stage⟩⟩,
        .inr ⟨mutex, waiter, front ▸ List.mem_cons_self, rfl, rfl⟩⟩
    · exact .inl member
  case parked =>
    intro other block member
    by_cases equal : other = mutex
    · subst equal
      exact front ▸ List.mem_cons_of_mem _ (here ▸ member)
    · exact elsewhere other equal ▸ member

theorem handOn (sound : Sound home past machine) (going : machine.outcome = none)
    (todo : machine.todo = .handOn home mutex :: rest)
    (asked : Errand home (.ask (.unlock home mutex)) rest)
    (errand : errand? home (machine.thread home) past = some (.ask (.unlock home mutex)))
    (shut : machine.shut home = true) (goes : machine.step.outcome = none) :
    Proceeds home past machine machine.step := by
  have taken : gone (⟨machine, .work⟩ :: past) = gone past :=
    gone_work todo rfl
  have stage : Stage home (machine.thread home) (errand? home (machine.thread home) past)
      (machine.shut home) (.reopen home :: .reply .done :: rest) := by
    rw [errand, shut]
    exact .piece asked .finishing
  rw [Machine.step_eq going todo] at goes ⊢
  change ((machine.withTodo rest).handOn home mutex).outcome = none at goes
  change Proceeds home past machine ((machine.withTodo rest).handOn home mutex)
  simp only [Machine.handOn, Machine.popWaiter, Machine.cells_withTodo] at goes ⊢
  cases popped : (machine.cells mutex).waiters.pop with
  | mk first remaining =>
      simp only [popped] at goes ⊢
      cases first with
      | none =>
          have same : remaining = ((machine.withTodo rest).cells mutex).waiters :=
            WaitQueue.eq_of_pop_none (sound.exact mutex) popped
          exact sound.keep_work todo (by simp)
            (.of_withTodo (.push (Machine.setMutex_keepsQueues home same) _)) stage taken
      | some waiter =>
          obtain ⟨scheduler, present, woken⟩ := Machine.wake_eq goes
          simp only [woken]
          exact sound.wake todo (by simp) present popped rfl rfl rfl rfl stage taken

theorem wakeAll (sound : Sound home past machine) (going : machine.outcome = none)
    (todo : machine.todo = .wakeAll home mutex :: rest)
    (asked : Errand home (.ask (.destroy home mutex)) rest)
    (errand : errand? home (machine.thread home) past = some (.ask (.destroy home mutex)))
    (shut : machine.shut home = true) (goes : machine.step.outcome = none) :
    Proceeds home past machine machine.step := by
  have taken : gone (⟨machine, .work⟩ :: past) = gone past :=
    gone_work todo rfl
  rw [Machine.step_eq going todo] at goes ⊢
  change ((machine.withTodo rest).wakeAll home mutex).outcome = none at goes
  change Proceeds home past machine ((machine.withTodo rest).wakeAll home mutex)
  simp only [Machine.wakeAll, Machine.popWaiter, Machine.cells_withTodo] at goes ⊢
  cases popped : (machine.cells mutex).waiters.pop with
  | mk first remaining =>
      simp only [popped] at goes ⊢
      cases first with
      | none =>
          have same : remaining = ((machine.withTodo rest).cells mutex).waiters :=
            WaitQueue.eq_of_pop_none (sound.exact mutex) popped
          refine sound.keep_work todo (by simp)
            (.of_withTodo (.push (.report (Machine.setMutex_keepsQueues home same) _) _)) ?_ taken
          rw [errand]
          exact shut ▸ .piece asked .finishing
      | some waiter =>
          obtain ⟨scheduler, present, woken⟩ := Machine.wake_eq goes
          simp only [woken]
          refine sound.wake todo (by simp) present popped rfl rfl rfl rfl ?_ taken
          rw [errand, shut]
          exact .guarded asked .wakeAll .through

/-- The threads parked on a mutex vanish, and all else stays as it is. -/
theorem vanish {action : Action n k C ν} {later : List (Moment n k C ν)}
    (sound : Sound home past machine) (todo : machine.todo = action :: rest)
    (apart : ∀ parking, action ≠ .schedule home parking)
    (runtimes : after.runtime = machine.runtime) (active : after.active = machine.active)
    (waiters : ∀ other, (after.cells other).waiters =
      if mutex = other then .empty else (machine.cells other).waiters)
    (stage : Stage home (machine.thread home) (errand? home (machine.thread home) later)
      (machine.shut home) after.todo)
    (errands : ∀ thread, errand? home thread later = errand? home thread past)
    (vanished : gone later = (machine.parkedOn mutex).map Block.id ++ gone past) :
    Sound home later after := by
  have thread : after.thread home = machine.thread home := by rw [Machine.thread, runtimes]; rfl
  have shut : after.shut home = machine.shut home := by rw [Machine.shut, runtimes]; rfl
  rw [← thread, ← shut] at stage
  cases present : (machine.runtime home).scheduler with
  | none =>
      have unparked := (sound.unpopulated present).parked mutex
      have empty := (WaitQueue.isEmpty_iff (sound.exact mutex)).mpr unparked
      have same (other : Fin k) :
          (after.cells other).waiters = (machine.cells other).waiters := by
        rw [waiters]
        split
        · rename_i equal
          exact equal ▸ (WaitQueue.eq_empty (sound.exact mutex) empty).symm
        · rfl
      refine sound.keep todo apart ⟨?_, ?_, active, same, ?_⟩ stage (fun thread _ => errands thread)
        (by rw [vanished, unparked]; rfl)
      all_goals rw [runtimes]
      exact id
  | some scheduler =>
      have populated := sound.populated scheduler present
      obtain ⟨status, value⟩ := populated.standing.ready_of todo apart
      have parked (other : Fin k) :
          after.parkedOn other = if mutex = other then [] else machine.parkedOn other := by
        rw [Machine.parkedOn, waiters]
        split <;> rfl
      have seated : (after.runtime home).scheduler = some scheduler := by rw [runtimes, present]
      refine .of_populated seated (by rw [runtimes]; exact sound.opening) stage ?exact
        (populated.turn (fun thread _ => errands thread) active
          (populated.current.trans thread.symm) (Nat.le_refl _) ?accounts (.ready status value)
          (fun _ => .inl) (fun _ => .inl) ?parked)
      case exact =>
        intro other
        rw [waiters]
        split
        · exact WaitQueue.exact_empty
        · exact sound.exact other
      case accounts =>
        refine List.perm_iff_count.mpr fun number => ?_
        have exchanged := tally_parked_exchange number fun other apart =>
          (parked other).trans (if_neg apart.symm)
        rw [parked mutex, if_pos rfl, tally_nil] at exchanged
        rw [← populated.accounts.count_eq, count_accounted, count_accounted, vanished,
          List.map_append, List.map_map, List.count_append]
        change _ + _ + _ + tally after.parked number +
          (tally (machine.parkedOn mutex) number + _) = _
        omega
      case parked =>
        intro other block member
        rw [parked] at member
        split at member
        · simp at member
        · exact .inl member

theorem gone_dropMutex (todo : machine.todo = .dropMutex mutex :: rest) :
    gone (⟨machine, .work⟩ :: past) = (machine.parkedOn mutex).map Block.id ++ gone past := by
  simp [gone, Moment.gone, Moment.reaped?, Moment.dropped, todo]

theorem dropMutex (sound : Sound home past machine)
    (going : machine.outcome = none) (todo : machine.todo = .dropMutex mutex :: rest)
    (asked : Errand home (.ask (.dropMutex mutex)) rest)
    (errand : errand? home (machine.thread home) past = some (.ask (.dropMutex mutex)))
    (shut : machine.shut home = false) : Proceeds home past machine machine.step := by
  have stage : Stage home (machine.thread home)
      (errand? home (machine.thread home) (⟨machine, .work⟩ :: past)) (machine.shut home)
      (.reply .done :: rest) := by
    rw [errand_work, errand, shut]
    exact .piece asked .replying
  obtain ⟨log, cells, emptied, dropped⟩ := (machine.withTodo rest).dropMutex_eq mutex
  rw [Machine.step_eq going todo, Machine.perform, dropped]
  have waiters (other : Fin k) : ((machine.setMutex mutex cells).cells other).waiters =
      if mutex = other then .empty else (machine.cells other).waiters := by
    rw [Machine.waiters_setMutex, emptied]
  constructor
  case sound =>
    exact sound.vanish todo (by simp) rfl rfl waiters stage (errand_work home · machine past)
      (gone_dropMutex todo)
  case stays =>
    refine ⟨rfl, fun _ => id, fun _ => .inl, fun other block member => ?_⟩
    change block ∈ ((machine.setMutex mutex cells).cells other).waiters.threads.elements at member
    rw [waiters] at member
    split at member
    · cases member
    · exact member

theorem work_turning {action : Action n k C ν} (sound : Sound home past machine)
    (going : machine.outcome = none) (todo : machine.todo = action :: rest)
    (apart : ∀ parking, action ≠ .schedule home parking)
    (turns : action.keepsQueues = false) (goes : machine.step.outcome = none) :
    Proceeds home past machine machine.step := by
  have stage := sound.stage
  generalize errand : errand? home (machine.thread home) past = asking at stage
  generalize shut : machine.shut home = closed at stage
  rw [todo] at stage
  generalize shape : action :: rest = left at stage
  cases stage with
  | initial | own | beginning | enter => cases shape; contradiction
  | begin =>
      cases shape
      exact sound.begin going todo errand shut goes
  | guarded asked doing way =>
      cases way with
      | close | timer | timerCloses | closed => cases shape; contradiction
      | timerSchedules => cases shape; exact absurd rfl (apart _)
      | through =>
          cases doing with
          | create =>
              cases shape
              exact sound.enroll going todo asked errand shut goes
          | yield | drain => cases shape; exact absurd rfl (apart _)
          | exit =>
              cases shape
              exact sound.finish going todo asked errand rfl shut .exiting goes
          | join =>
              cases shape
              exact sound.reap going todo asked errand shut goes
          | tryJoin =>
              cases shape
              exact sound.tryReap going todo asked errand shut goes
          | claimAgain =>
              cases shape
              exact sound.claimAgain going todo asked errand shut goes
          | handOn =>
              cases shape
              exact sound.handOn going todo asked errand shut goes
          | wakeAll =>
              cases shape
              exact sound.wakeAll going todo asked errand shut goes
          | finish =>
              cases shape
              exact sound.finish going todo asked errand rfl shut .leaving goes
          | _ => cases shape; contradiction
  | piece asked doing =>
      cases doing with
      | issue =>
          cases shape
          exact sound.issue going todo asked errand shut goes
      | polling | parking | exiting | leaving => cases shape; exact absurd rfl (apart _)
      | dropMutex =>
          cases shape
          exact sound.dropMutex going todo asked errand shut
      | _ => cases shape; contradiction

/-- Only decisions hand the processor on. -/
theorem proceeds {action : Action n k C ν} (sound : Sound home past machine)
    (going : machine.outcome = none) (todo : machine.todo = action :: rest)
    (apart : ∀ parking, action ≠ .schedule home parking) (library : machine.inOwnCode = false)
    (goes : machine.step.outcome = none) :
    Proceeds home past machine machine.step := by
  have own : action.isOwn = false := by simpa only [Machine.inOwnCode, todo] using library
  cases keeps : action.keepsQueues with
  | true => exact sound.work_keeping going todo own keeps goes
  | false => exact sound.work_turning going todo apart keeps goes

theorem work (sound : Sound home past machine) (going : machine.outcome = none)
    (library : machine.inOwnCode = false) (goes : machine.step.outcome = none) :
    Sound home (⟨machine, .work⟩ :: past) machine.step := by
  cases sound.next with
  | decides todo => exact sound.schedule going todo goes
  | works todo apart => exact (sound.proceeds going todo (apart home) library goes).sound

theorem move {move : Move n k C ν} (sound : Sound home past machine)
    (going : machine.outcome = none) (fits : move.Fits home machine)
    (goes : (machine.make move).outcome = none) :
    Sound home (⟨machine, move⟩ :: past) (machine.make move) := by
  cases move with
  | work => exact sound.work going fits goes
  | think code =>
      obtain ⟨host, rest, todo⟩ := Machine.own_of_inOwnCode fits
      exact sound.think todo code
  | ask request =>
      obtain ⟨host, rest, todo⟩ := Machine.own_of_inOwnCode fits.1
      exact sound.ask todo fits.2
  | leave value =>
      obtain ⟨host, rest, todo⟩ := Machine.own_of_inOwnCode fits
      exact sound.leave todo goes
  | panic =>
      obtain ⟨host, rest, todo⟩ := Machine.own_of_inOwnCode fits
      cases host <;> simp [Machine.make, Machine.panic, todo, Machine.abort] at goes

end Sound

theorem Run.sound (run : Run home past machine) (going : machine.outcome = none) :
    Sound home past machine := by
  induction run with
  | start fresh code => exact .start fresh code
  | move run before fits ih => exact (ih before).move before fits going

end UserThreads
