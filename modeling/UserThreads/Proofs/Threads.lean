import UserThreads.Proofs.Decision

/-!
The life of threads keeps the machine sound: their creation, start, end and join.
-/

namespace UserThreads

variable {n k : Nat} {C ν : Type}

/-- Below the limit the numbers do not wrap around. -/
theorem Scheduler.issueId_eq {κ : Type} {scheduler scheduler' : Scheduler κ ν}
    {block issued : Block κ ν} {maxThreads : UInt32}
    (done : scheduler.issueId block maxThreads = .ok (issued, scheduler')) :
    issued = { block with id := ⟨scheduler.nextId⟩ } ∧
      ∃ nextId, scheduler' = { scheduler with nextId } ∧
        nextId.toNat = scheduler.nextId.toNat + 1 := by
  unfold issueId at done
  split at done
  · cases done
  · rename_i room
    cases done
    refine ⟨rfl, _, rfl, ?_⟩
    have below : scheduler.nextId.toNat < maxThreads.toNat :=
      Nat.lt_of_not_le fun reached => room (UInt32.le_iff_toNat_le.mpr reached)
    have bound := maxThreads.toNat_lt
    simp only [UInt32.toNat_add, UInt32.reduceToNat]
    omega

namespace Machine

/-- The machine after the running context became thread 0 of `home`. -/
structure Activated (home : Fin n) (before after : Machine n k C ν) : Prop where
  scheduler : (after.runtime home).scheduler = some (.start (.main ⟨before.todo, before.code⟩))
  thread : after.thread home = .main
  active : after.active = some home
  mutexes : after.cells = before.cells
  shut : after.shut home = before.shut home
  opening : (after.runtime home).gate.afterOpening = (before.runtime home).gate.afterOpening
  todo : after.todo = before.todo

theorem activate_spec (before : Machine n k C ν) {home : Fin n}
    (goes : (before.activate home).outcome = none) :
    Activated home before (before.activate home) := by
  simp only [activate] at goes ⊢
  cases installed : (before.runtime home).gate.install with
  | error failure =>
      rw [installed] at goes
      cases goes
  | ok gate =>
      simp only [installed] at goes ⊢
      cases armed : gate.arm (before.runtime home).config.timerInterval with
      | error failure =>
          rw [armed] at goes
          cases goes
      | ok started =>
          obtain ⟨closed, opening⟩ := Gate.install_eq installed
          obtain ⟨closed', opening'⟩ := Gate.arm_eq armed
          have seated := (before.reportAll gate.installationLog).runtime_setRuntime_self home
            { before.runtime home with
              gate := started
              scheduler := some (.start (.main ⟨before.todo, before.code⟩))
              current := .main }
          constructor
          case scheduler => exact congrArg Runtime.scheduler seated
          case thread => exact congrArg Runtime.current seated
          case shut => exact (congrArg (·.gate.closed) seated).trans (closed'.trans closed)
          case opening =>
            exact (congrArg (·.gate.afterOpening) seated).trans (opening'.trans opening)
          all_goals rfl

end Machine

variable {home : Fin n} {past later : List (Moment n k C ν)} {machine after : Machine n k C ν}
  {scheduler : Scheduler (Context n k C ν) ν} {rest : List (Action n k C ν)}

namespace Sound

/-- Work on a runtime's scheduler that leaves the same thread running. -/
theorem reseat (sound : Sound home past machine)
    (present : (machine.runtime home).scheduler = some scheduler)
    (scheduler' : Scheduler (Context n k C ν) ν)
    (runtimes : after.runtime = (machine.setScheduler home scheduler').runtime)
    (active : after.active = machine.active)
    (current : scheduler'.current.id = scheduler.current.id)
    (grows : scheduler.nextId.toNat ≤ scheduler'.nextId.toNat)
    (exact : ∀ mutex : Fin k, (after.cells mutex).waiters.Exact)
    (stage : Stage home (machine.thread home) (errand? home (machine.thread home) past)
      (machine.shut home) after.todo)
    (accounts : (accounted (gone (⟨machine, .work⟩ :: past)) after scheduler').Perm
      (List.range scheduler'.nextId.toNat))
    (standing : Standing home (⟨machine, .work⟩ :: past) after scheduler')
    (kept : ∀ block ∈ scheduler.ready.elements, block ∈ scheduler'.ready.elements)
    (ready : ∀ block ∈ scheduler'.ready.elements, block ∈ scheduler.ready.elements ∨
      InLine home (⟨machine, .work⟩ :: past) block ∧ (block.context.todo = [.begin] ∨
        ∃ mutex, ∃ parked ∈ machine.parkedOn mutex,
          block.id = parked.id ∧ block.context = parked.context))
    (completed : ∀ block ∈ scheduler'.completed.elements, block ∈ scheduler.completed.elements)
    (parked : ∀ mutex, ∀ block ∈ after.parkedOn mutex, block ∈ machine.parkedOn mutex) :
    Proceeds home past machine after := by
  have populated := sound.populated scheduler present
  have thread : after.thread home = machine.thread home := by
    simp [Machine.thread, runtimes]
  have present' : (after.runtime home).scheduler = some scheduler' := by simp [runtimes]
  constructor
  case stays =>
    refine ⟨thread, ?_, ?_, parked⟩
    · rw [Machine.readyOn_eq present, Machine.readyOn_eq present']
      exact kept
    · rw [Machine.readyOn_eq present, Machine.readyOn_eq present']
      exact fun block member => (ready block member).imp_right And.right
  case sound =>
    apply of_populated present'
    case opening => simpa [runtimes] using sound.opening
    case stage =>
      have shut : after.shut home = machine.shut home := by
        simp [Machine.shut, runtimes]
      rw [errand_work, thread, shut]
      exact stage
    case exact => exact exact
    case populated =>
      have current : scheduler'.current.id = after.thread home := by
        rw [current, populated.current, thread]
      exact populated.turn (fun thread _ => errand_work home thread ..) active current grows
        accounts standing (fun block member => (ready block member).imp_right And.left)
        (fun block member => .inl (completed block member))
        (fun mutex block member => .inl (parked mutex block member))

theorem begin (sound : Sound home past machine) (going : machine.outcome = none)
    (todo : machine.todo = [.begin]) (errand : errand? home (machine.thread home) past = none)
    (shut : machine.shut home = true) (goes : machine.step.outcome = none) :
    Proceeds home past machine machine.step := by
  rw [Machine.step_eq going todo] at goes ⊢
  change ((machine.withTodo []).begin).outcome = none at goes
  change Proceeds home past machine ((machine.withTodo []).begin)
  cases present : (machine.runtime home).scheduler with
  | none =>
      simp [Machine.begin, (sound.unpopulated present).active, Machine.abort] at goes
  | some scheduler =>
      have populated := sound.populated scheduler present
      obtain ⟨status, value⟩ := populated.standing.ready_of todo (by simp)
      simp only [Machine.begin, Machine.active_withTodo, populated.active,
        Machine.runtime_withTodo, present]
      refine sound.reseat present { scheduler with current := scheduler.current.takeEntry.2 }
        rfl rfl rfl (Nat.le_refl _) sound.exact ?stage ?accounts (.ready status value)
        (fun _ => id) (fun _ => .inl) (fun _ => id) (fun _ _ => id)
      case stage =>
        rw [errand, shut]
        exact .beginning
      case accounts =>
        exact populated.rearranged rfl (gone_work todo rfl) fun number => rfl

/-- The first creation of a thread makes the running context thread 0. -/
theorem activate {entry : C} (sound : Sound home past machine)
    (asked : Errand home (.ask (.create home entry)) rest)
    (errand : errand? home (machine.thread home) past = some (.ask (.create home entry)))
    (shut : machine.shut home = true)
    (absent : (machine.runtime home).scheduler = none)
    (activated : Machine.Activated home (machine.withTodo rest) after)
    (taken : gone (⟨machine, .work⟩ :: past) = gone past) :
    Proceeds home past machine (after.push [.issue home entry]) := by
  obtain ⟨inactive, main, parked, none, unborn⟩ := sound.unpopulated absent
  have unparked (mutex : Fin k) : (after.push [.issue home entry]).parkedOn mutex = [] := by
    rw [← parked mutex, Machine.parkedOn, Machine.parkedOn]
    exact congrArg (fun cells => (cells mutex).waiters.threads.elements) activated.mutexes
  have present : ((after.push [.issue home entry]).runtime home).scheduler =
      some (.start (.main ⟨rest, machine.code⟩)) := activated.scheduler
  have thread : (after.push [.issue home entry]).thread home = machine.thread home :=
    activated.thread.trans main.symm
  constructor
  case stays =>
    have unready : machine.readyOn home = [] := by rw [Machine.readyOn, absent]
    refine ⟨thread, ?_, ?_, ?_⟩
    · simp [unready]
    · simp [Machine.readyOn_eq present, Scheduler.start]
    · simp [unparked]
  case sound =>
    refine of_populated present (activated.opening.trans sound.opening) ?stage ?exact ?populated
    case stage =>
      have closed : (after.push [.issue home entry]).shut home = true := activated.shut.trans shut
      rw [thread, errand_work, errand, closed, Machine.todo_push, activated.todo]
      exact .piece asked .issue
    case exact =>
      intro mutex
      have same : (after.push [.issue home entry]).cells = machine.cells := activated.mutexes
      rw [same]
      exact sound.exact mutex
    case populated =>
      constructor
      case active => exact activated.active
      case current => exact activated.thread.symm
      case accounts =>
        rw [accounted, taken, none, Machine.parked, funext unparked]
        simp [Scheduler.start, Block.main, Block.number, ThreadId.main]
      case standing => exact .ready rfl rfl
      case ready | completed => simp [Scheduler.start]
      case parked =>
        intro mutex block member
        simp [unparked mutex] at member
      case unborn =>
        intro thread future
        refine (errand_work ..).trans (unborn thread ?_)
        rintro rfl
        exact absurd future (Nat.not_succ_le_zero 0)

theorem enroll {entry : C} (sound : Sound home past machine) (going : machine.outcome = none)
    (todo : machine.todo = .enroll home entry :: rest)
    (asked : Errand home (.ask (.create home entry)) rest)
    (errand : errand? home (machine.thread home) past = some (.ask (.create home entry)))
    (shut : machine.shut home = true) (goes : machine.step.outcome = none) :
    Proceeds home past machine machine.step := by
  rw [Machine.step_eq going todo] at goes ⊢
  change ((machine.withTodo rest).enroll home entry).outcome = none at goes
  change Proceeds home past machine ((machine.withTodo rest).enroll home entry)
  have runtimes : (machine.withTodo rest).runtime = machine.runtime := rfl
  have active : (machine.withTodo rest).active = machine.active := rfl
  simp only [Machine.enroll, runtimes, active] at goes ⊢
  cases present : (machine.runtime home).scheduler with
  | some scheduler =>
      simp only [Option.isSome_some, if_true]
      refine sound.keep_work todo (by simp) ⟨rfl, rfl, rfl, fun _ => rfl, id⟩ ?_
        (gone_work todo rfl)
      rw [errand]
      exact shut ▸ .piece asked .issue
  | none =>
      simp only [present, (sound.unpopulated present).active, Option.isSome_none,
        Bool.false_eq_true, if_false] at goes ⊢
      exact sound.activate asked errand shut present ((machine.withTodo rest).activate_spec goes)
        (gone_work todo rfl)

/-- A new thread gets the next number and a place in line. -/
theorem issue {entry : C} (sound : Sound home past machine) (going : machine.outcome = none)
    (todo : machine.todo = .issue home entry :: rest)
    (asked : Errand home (.ask (.create home entry)) rest)
    (errand : errand? home (machine.thread home) past = some (.ask (.create home entry)))
    (shut : machine.shut home = true) (goes : machine.step.outcome = none) :
    Proceeds home past machine machine.step := by
  have taken : gone (⟨machine, .work⟩ :: past) = gone past :=
    gone_work todo rfl
  have finishing (answer : Reply ν) : Stage home (machine.thread home)
      (errand? home (machine.thread home) past) (machine.shut home)
      (.reopen home :: .reply answer :: rest) := by
    rw [errand, shut]
    exact .piece asked .finishing
  rw [Machine.step_eq going todo] at goes ⊢
  change ((machine.withTodo rest).issue home entry).outcome = none at goes
  change Proceeds home past machine ((machine.withTodo rest).issue home entry)
  simp only [Machine.issue, Machine.runtime_withTodo] at goes ⊢
  cases present : (machine.runtime home).scheduler with
  | none =>
      rw [present] at goes
      cases goes
  | some scheduler =>
      simp only
      cases issued : scheduler.issueId
          (.new (machine.runtime home).config.stackSize ⟨[.begin], entry⟩)
          (machine.runtime home).config.maxThreads with
      | error cause =>
          exact sound.keep_work todo (by simp) ⟨rfl, rfl, rfl, fun _ => rfl, id⟩ (finishing _) taken
      | ok made =>
          obtain ⟨block, scheduler'⟩ := made
          obtain ⟨rfl, nextId, rfl, next⟩ := Scheduler.issueId_eq issued
          have populated := sound.populated scheduler present
          obtain ⟨status, value⟩ := populated.standing.ready_of todo (by simp)
          refine sound.reseat present (Scheduler.makeReady { scheduler with nextId } _) rfl rfl rfl
            (next ▸ Nat.le_succ _) sound.exact (finishing _) ?accounts (.ready status value)
            (fun _ old => OrderedQueue.mem_insertByAge.mpr (.inr old)) ?ready (fun _ => id)
            (fun _ _ => id)
          case accounts =>
            refine List.perm_iff_count.mpr fun number => ?_
            have before := populated.accounts.count_eq number
            change _ = (List.range nextId.toNat).count number
            rw [count_accounted] at before ⊢
            rw [next, List.range_succ, List.count_append, ← before, count_single, taken,
              tally_makeReady]
            change tally [scheduler.current] number + (tally scheduler.ready.elements number +
                (scheduler.nextId.toNat == number).toNat) +
              tally scheduler.completed.elements number + tally machine.parked number + _ = _
            omega
          case ready =>
            intro newer member
            rcases OrderedQueue.mem_insertByAge.mp member with rfl | member
            · refine .inr ⟨⟨rfl, rfl, .inl ⟨?_, rfl⟩⟩, .inl rfl⟩
              exact (errand_work ..).trans (populated.unborn _ (Nat.le_refl _))
            · exact .inl member

end Sound

theorem Machine.reap_eq {thread : ThreadId} {block : Block (Context n k C ν) ν}
    (found : machine.reap? home thread = some (block, after)) :
    ∃ scheduler completed, (machine.runtime home).scheduler = some scheduler ∧
      after = machine.setScheduler home { scheduler with completed } ∧
      scheduler.completed.elements.Perm (block :: completed.elements) ∧ block.id = thread := by
  unfold reap? at found
  cases present : (machine.runtime home).scheduler with
  | none =>
      rw [present] at found
      cases found
  | some scheduler =>
      simp only [present] at found
      obtain ⟨⟨inner, scheduler'⟩, taken, same⟩ := Option.map_eq_some_iff.mp found
      obtain ⟨⟨inner', completed⟩, removed, same'⟩ := Option.map_eq_some_iff.mp taken
      cases same
      cases same'
      obtain ⟨arranged, id⟩ := OrderedQueue.removeById_perm removed
      exact ⟨scheduler, completed, rfl, rfl, arranged, id⟩

theorem Machine.reap_withTodo (machine : Machine n k C ν) (rest : List (Action n k C ν))
    (thread : ThreadId) :
    (machine.reap? home thread).map (fun _ => thread) =
      ((machine.withTodo rest).reap? home thread).map fun _ => thread := by
  simp only [reap?, runtime_withTodo]
  cases (machine.runtime home).scheduler with
  | none => rfl
  | some scheduler =>
      simp only [Option.map_map]
      rfl

theorem reaped_of_reap {thread : ThreadId}
    (todo : machine.todo = .reap home thread :: rest ∨
      machine.todo = .tryReap home thread :: rest) :
    (⟨machine, .work⟩ : Moment n k C ν).reaped? =
      ((machine.withTodo rest).reap? home thread).map fun _ => thread := by
  rcases todo with todo | todo <;> simp only [Moment.reaped?, todo, machine.reap_withTodo rest]

theorem gone_of_reap (past : List (Moment n k C ν)) {thread : ThreadId}
    (todo : machine.todo = .reap home thread :: rest ∨
      machine.todo = .tryReap home thread :: rest) :
    gone (⟨machine, .work⟩ :: past) =
      (((machine.withTodo rest).reap? home thread).map fun _ => thread).toList ++ gone past := by
  have dropped : (⟨machine, .work⟩ : Moment n k C ν).dropped = [] := by
    rcases todo with todo | todo <;> simp only [Moment.dropped, todo]
  rw [gone, List.flatMap_cons, Moment.gone, reaped_of_reap todo, dropped, List.append_nil, gone]

namespace Sound

theorem take {thread : ThreadId} {block : Block (Context n k C ν) ν} {value : ν}
    {call : Call n k C ν} {action : Action n k C ν} {reaping : Machine n k C ν}
    (sound : Sound home past machine)
    (todo : machine.todo = action :: rest) (apart : ∀ parking, action ≠ .schedule home parking)
    (asked : Errand home (.ask call) rest)
    (errand : errand? home (machine.thread home) past = some (.ask call))
    (shut : machine.shut home = true)
    (found : (machine.withTodo rest).reap? home thread = some (block, reaping))
    (runtimes : after.runtime = reaping.runtime) (active : after.active = reaping.active)
    (mutexes : after.cells = reaping.cells)
    (left : after.todo = .reopen home :: .reply (.value value) :: reaping.todo)
    (taken : gone (⟨machine, .work⟩ :: past) = thread :: gone past) :
    Proceeds home past machine after := by
  obtain ⟨scheduler, completed, present, rfl, arranged, rfl⟩ := Machine.reap_eq found
  have present : (machine.runtime home).scheduler = some scheduler := present
  have populated := sound.populated scheduler present
  obtain ⟨status, unset⟩ := populated.standing.ready_of todo apart
  have same (mutex : Fin k) : after.parkedOn mutex = machine.parkedOn mutex := by
    rw [Machine.parkedOn, mutexes]
    rfl
  refine sound.reseat present { scheduler with completed } runtimes active rfl (Nat.le_refl _)
    ?exact ?stage ?accounts (.ready status unset) (fun _ => id) (fun _ => .inl) ?completed
    (fun mutex block member => same mutex ▸ member)
  case exact =>
    intro mutex
    rw [mutexes]
    exact sound.exact mutex
  case stage =>
    rw [errand, shut, left]
    exact .piece asked .finishing
  case accounts =>
    refine List.perm_iff_count.mpr fun number => ?_
    have before := populated.accounts.count_eq number
    change _ = (List.range scheduler.nextId.toNat).count number
    have joined : ((block.id :: gone past).map fun thread => thread.number.toNat).count number =
        (block.number == number).toNat +
          ((gone past).map fun thread => thread.number.toNat).count number := by
      rw [List.map_cons, ← List.singleton_append, List.count_append, count_single]
      rfl
    simp only [count_accounted, taken, joined, Machine.parked_congr same, tally_perm arranged,
      tally_cons, tally_nil] at before ⊢
    omega
  case completed =>
    intro block member
    exact arranged.mem_iff.mpr (List.mem_cons_of_mem _ member)

theorem reap {thread : ThreadId} (sound : Sound home past machine)
    (going : machine.outcome = none) (todo : machine.todo = .reap home thread :: rest)
    (asked : Errand home (.ask (.join home thread)) rest)
    (errand : errand? home (machine.thread home) past = some (.ask (.join home thread)))
    (shut : machine.shut home = true) (goes : machine.step.outcome = none) :
    Proceeds home past machine machine.step := by
  rw [Machine.step_eq going todo] at goes ⊢
  change ((machine.withTodo rest).tryReaping home thread).outcome = none at goes
  change Proceeds home past machine ((machine.withTodo rest).tryReaping home thread)
  simp only [Machine.tryReaping] at goes ⊢
  have taken := gone_of_reap past (.inl todo)
  cases found : (machine.withTodo rest).reap? home thread with
  | none =>
      refine sound.keep_work todo (by simp) ⟨rfl, rfl, rfl, fun _ => rfl, id⟩ ?_ ?_
      · rw [errand]
        exact shut ▸ .piece asked .polling
      · rw [taken, found]
        rfl
  | some taking =>
      obtain ⟨block, reaping⟩ := taking
      simp only [found] at goes ⊢
      cases value : block.value with
      | none =>
          rw [value] at goes
          cases goes
      | some value =>
          refine sound.take todo (by simp) asked errand shut found rfl rfl rfl rfl ?_
          rw [taken, found]
          rfl

theorem tryReap {thread : ThreadId} (sound : Sound home past machine)
    (going : machine.outcome = none) (todo : machine.todo = .tryReap home thread :: rest)
    (asked : Errand home (.ask (.tryJoin home thread)) rest)
    (errand : errand? home (machine.thread home) past = some (.ask (.tryJoin home thread)))
    (shut : machine.shut home = true) (goes : machine.step.outcome = none) :
    Proceeds home past machine machine.step := by
  rw [Machine.step_eq going todo] at goes ⊢
  change ((machine.withTodo rest).reapOnce home thread).outcome = none at goes
  change Proceeds home past machine ((machine.withTodo rest).reapOnce home thread)
  simp only [Machine.reapOnce] at goes ⊢
  have taken := gone_of_reap past (.inr todo)
  cases found : (machine.withTodo rest).reap? home thread with
  | none =>
      refine sound.keep_work todo (by simp) ⟨rfl, rfl, rfl, fun _ => rfl, id⟩ ?_ ?_
      · rw [errand]
        exact shut ▸ .piece asked .finishing
      · rw [taken, found]
        rfl
  | some taking =>
      obtain ⟨block, reaping⟩ := taking
      simp only [found] at goes ⊢
      cases value : block.value with
      | none =>
          rw [value] at goes
          cases goes
      | some value =>
          refine sound.take todo (by simp) asked errand shut found rfl rfl rfl rfl ?_
          rw [taken, found]
          rfl

theorem finish {value : ν} {move : Move n k C ν} (sound : Sound home past machine)
    (going : machine.outcome = none) (todo : machine.todo = .finish home value :: rest)
    (asked : Errand home move rest) (errand : errand? home (machine.thread home) past = some move)
    (ends : move.exitValue? = some value) (shut : machine.shut home = true)
    (leaves : Piece home (machine.thread home) move true [.schedule home none, .resumed])
    (goes : machine.step.outcome = none) :
    Proceeds home past machine machine.step := by
  rw [Machine.step_eq going todo] at goes ⊢
  change ((machine.withTodo rest).finish home value).outcome = none at goes
  change Proceeds home past machine ((machine.withTodo rest).finish home value)
  simp only [Machine.finish, Machine.runtime_withTodo] at goes ⊢
  cases present : (machine.runtime home).scheduler with
  | none =>
      rw [present] at goes
      cases goes
  | some scheduler =>
      have populated := sound.populated scheduler present
      obtain ⟨status, unset⟩ := populated.standing.ready_of todo (by simp)
      simp only [present, Block.complete?, unset] at goes ⊢
      split
      · rename_i waiting
        have taken : gone (⟨machine, .work⟩ :: past) = gone past :=
          gone_work todo rfl
        refine sound.reseat present { scheduler with
            current := { scheduler.current with status := .completed, value := some value } }
          rfl rfl rfl (Nat.le_refl _) sound.exact ?stage ?accounts ?standing (fun _ => id)
          (fun _ => .inl) (fun _ => id) (fun _ _ => id)
        case stage =>
          rw [errand, shut]
          exact .piece asked leaves
        case accounts => exact populated.rearranged rfl taken fun number => rfl
        case standing =>
          refine .completed rfl ?_ rfl rfl ?_
          · change some value = exitValue? home scheduler.current.id _
            rw [exitValue?, errand_work, populated.current, errand]
            exact ends.symm
          · intro alone
            have idle : scheduler.ready.elements = [] := alone
            simp [Scheduler.hasReady, OrderedQueue.isEmpty, idle] at waiting
      · rename_i idle
        rw [if_neg idle] at goes
        cases goes

end Sound

end UserThreads
