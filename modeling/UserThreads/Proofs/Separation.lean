import UserThreads.Proofs.Crews
import UserThreads.Proofs.Identity

/-!
Where the threads of many runtimes are, on courses on which no thread is woken on behalf of
another runtime than the one where it was created.
-/

namespace UserThreads

variable {n k : Nat} {C ν : Type}

/-- Threads are created, and go on, where their code says. -/
def Move.traced (birthplace : C → Option (Fin n)) (code : C) : Move n k C ν → Bool
  | .ask (.create index entry) => birthplace entry == some index
  | .think later => birthplace later == birthplace code
  | _ => true

/-- The code of a thread tells where the thread was created, from beginning to end. -/
structure Traceable (birthplace : C → Option (Fin n)) (past : List (Moment n k C ν))
    (machine : Machine n k C ν) : Prop where
  initial : birthplace (machine.oldest past).code = none
  traced : ∀ moment ∈ past, moment.move.traced birthplace moment.machine.code = true

/-- An unlock or a destruction on behalf of one runtime wakes a thread created on another. -/
def Moment.stray (birthplace : C → Option (Fin n)) (moment : Moment n k C ν) : Bool :=
  match moment.move, moment.machine.todo with
  | .work, .handOn index mutex :: _ | .work, .wakeAll index mutex :: _ =>
      ((moment.machine.parkedOn mutex).head?.bind fun waiter =>
        birthplace waiter.context.code).any (· != index)
  | _, _ => false

/-- Threads are made where their entries say, and thread 0 alone detaches a runtime. -/
def Action.RespectsBirthplace (birthplace : C → Option (Fin n)) (code : C)
    (piece : Action n k C ν) : Prop :=
  (∀ index entry, piece.makes? = some (index, entry) → birthplace entry = some index) ∧
    ∀ index, piece = .deactivate index → birthplace code = none

/-- What is known of a parked thread. Its runtime has a scheduler or has been given up. -/
structure Waits (birthplace : C → Option (Fin n)) (machine : Machine n k C ν)
    (block : Block (Context n k C ν) ν) : Prop where
  main : birthplace block.context.code = none ↔ block.id = .main
  home : ∀ index, birthplace block.context.code = some index →
    (machine.runtime index).scheduler.isSome = true ∨ (machine.runtime index).live = false
  respects : ∀ piece ∈ block.context.todo, piece.RespectsBirthplace birthplace block.context.code

/-- What keeps the threads of a runtime apart from those of the runtimes before it. -/
structure Separated (birthplace : C → Option (Fin n)) (machine : Machine n k C ν) : Prop where
  manned : ∀ index scheduler, (machine.runtime index).scheduler = some scheduler →
    Manned birthplace machine index scheduler
  once : ∀ passport, census birthplace machine.parked passport ≤ 1
  parked : ∀ mutex, ∀ block ∈ machine.parkedOn mutex, Waits birthplace machine block
  /-- Without an active runtime the initial context runs. -/
  idle : machine.active = none → birthplace machine.code = none ∧
    ∀ mutex, ∀ block ∈ machine.parkedOn mutex, birthplace block.context.code ≠ none
  respects : ∀ piece ∈ machine.todo, piece.RespectsBirthplace birthplace machine.code
  ready : ∀ index, ∀ block ∈ machine.readyOn index,
    ∀ piece ∈ block.context.todo, piece.RespectsBirthplace birthplace block.context.code

variable {birthplace : C → Option (Fin n)} {machine after : Machine n k C ν}
  {action : Action n k C ν} {rest : List (Action n k C ν)} {index : Fin n}
  {host : Option (Fin n)} {parking : Option (Fin k)} {past : List (Moment n k C ν)} {entry : C}

open Machine (Driven)

/-- The mutex from whose queue a piece of work takes threads. -/
def Action.unparks? : Action n k C ν → Option (Fin k)
  | .handOn _ mutex | .wakeAll _ mutex | .dropMutex mutex => some mutex
  | _ => none

theorem Action.respects_of_ordinary (ordinary : action.ordinary = true) {code : C}
    (makes : ∀ index entry, action.makes? = some (index, entry) → birthplace entry = some index) :
    action.RespectsBirthplace birthplace code := by
  refine ⟨makes, ?_⟩
  rintro index rfl
  cases ordinary

/-- Only what takes threads from a mutex makes its queue shorter. -/
theorem Machine.perform_parkedOn (before : Machine n k C ν) {mutex : Fin k}
    (apart : ∀ index parking, action ≠ .schedule index parking)
    (unlike : action.unparks? ≠ some mutex) :
    (before.perform action).parkedOn mutex = before.parkedOn mutex := by
  have elsewhere (cells : Mutex (Context n k C ν) ν) {other : Fin k} (unlike : other ≠ mutex) :
      (before.setMutex other cells).parkedOn mutex = before.parkedOn mutex := by
    rw [parkedOn_setMutex, if_neg unlike]
  cases queues : action.keepsQueues with
  | true => exact (before.perform_keeps_parked queues).2 mutex
  | false =>
  cases action with
  | schedule index parking => exact absurd rfl (apart index parking)
  | begin | enroll | issue | finish | dropRuntime | deactivate | discard =>
      simp only [perform, begin, enroll, activate, issue, finish, exitProcess, dropRuntime,
        deactivate, discard]
      repeat' split
      all_goals rfl
  | reap index thread | tryReap index thread =>
      simp only [perform, tryReaping, reapOnce]
      split
      · rfl
      · rename_i found
        obtain ⟨_, _, _, rfl, _, _⟩ := reap_eq found
        split <;> rfl
  | claimAgain index other me =>
      have kept (cells : Mutex (Context n k C ν) ν)
          (same : cells.waiters.threads = (before.cells other).waiters.threads) :
          (before.setMutex other cells).parkedOn mutex = before.parkedOn mutex :=
        before.parkedOn_claimed same mutex
      simp only [perform, claimAgain, blockCurrent]
      split <;> rename_i claimed
      · obtain ⟨-, rfl⟩ := Mutex.claim_free claimed
        exact kept _ rfl
      · obtain ⟨-, rfl⟩ := Mutex.claim_taken claimed
        split <;> exact kept _ rfl
  | handOn index other | wakeAll index other =>
      have unlike : other ≠ mutex := fun same => unlike (congrArg some same)
      simp only [perform, handOn, wakeAll, popWaiter, wake]
      split <;> obtain ⟨-, rfl⟩ := Prod.mk.inj ‹_›
      all_goals repeat' split
      all_goals exact elsewhere _ unlike
  | dropMutex other =>
      have unlike : other ≠ mutex := fun same => unlike (congrArg some same)
      obtain ⟨log, cells, -, dropped⟩ := before.dropMutex_eq other
      simp only [perform, dropped]
      exact elsewhere _ unlike
  | _ => cases queues

theorem Machine.perform_birthplace (before : Machine n k C ν)
    (apart : ∀ index parking, action ≠ .schedule index parking) :
    birthplace (before.perform action).code = birthplace before.code := by
  match n with
  | 0 =>
      have nowhere (code : C) : birthplace code = none :=
        Option.eq_none_iff_forall_ne_some.mpr fun index => index.elim0
      rw [nowhere, nowhere]
  | _ + 1 =>
      have same : Constant 0 before (before.perform action) := before.perform_constant apart
      exact congrArg birthplace same.code

namespace Separated

/-- Where the schedulers are as they were and nobody has been parked. -/
theorem redo (separated : Separated birthplace machine)
    (schedulers : ∀ index, (after.runtime index).scheduler = (machine.runtime index).scheduler)
    (currents : ∀ index, (after.runtime index).current = (machine.runtime index).current)
    (lives : ∀ index, (after.runtime index).live = (machine.runtime index).live)
    (parked : ∀ mutex, ∀ block ∈ after.parkedOn mutex, block ∈ machine.parkedOn mutex)
    (fewer : ∀ passport, census birthplace after.parked passport ≤
      census birthplace machine.parked passport)
    (code : birthplace after.code = birthplace machine.code)
    (idle : after.active = none → birthplace machine.code = none ∧
      ∀ mutex, ∀ block ∈ machine.parkedOn mutex, birthplace block.context.code ≠ none)
    (respects : ∀ piece ∈ after.todo, piece.RespectsBirthplace birthplace after.code) :
    Separated birthplace after := by
  constructor
  case manned =>
    intro index scheduler present
    have manned := separated.manned index scheduler ((schedulers index).symm.trans present)
    exact manned.regroup manned.native (fun passport => Nat.add_le_add_left (fewer passport) _) rfl
      (code.trans manned.running) ((currents index).trans manned.current)
  case once => exact fun passport => Nat.le_trans (fewer passport) (separated.once passport)
  case parked =>
    intro mutex block member
    have waits := separated.parked mutex block (parked mutex block member)
    exact ⟨waits.main, fun index here => by
      rw [schedulers, lives]
      exact waits.home index here, waits.respects⟩
  case idle =>
    intro unled
    obtain ⟨main, others⟩ := idle unled
    refine ⟨code.trans main, fun mutex block member => ?_⟩
    exact others mutex block (parked mutex block member)
  case respects => exact respects
  case ready =>
    intro index block member
    rw [Machine.readyOn, schedulers] at member
    exact separated.ready index block member

/-- Where no runtime and no thread but the running one has changed. -/
theorem respond (separated : Separated birthplace machine)
    (runtimes : after.runtime = machine.runtime) (cells : after.cells = machine.cells)
    (active : after.active = machine.active)
    (code : birthplace after.code = birthplace machine.code)
    (respects : ∀ piece ∈ after.todo, piece.RespectsBirthplace birthplace after.code) :
    Separated birthplace after := by
  have parked (mutex : Fin k) : after.parkedOn mutex = machine.parkedOn mutex := by
    rw [Machine.parkedOn, cells, Machine.parkedOn]
  refine separated.redo ?_ ?_ ?_ (fun mutex block member => parked mutex ▸ member)
    (fun passport => Nat.le_of_eq (census_parked_congr parked)) code
    (fun unled => separated.idle (active.symm.trans unled)) respects
  all_goals exact fun index => by rw [runtimes]

theorem tail (separated : Separated birthplace machine) (todo : machine.todo = action :: rest) :
    ∀ piece ∈ rest, piece.RespectsBirthplace birthplace machine.code :=
  fun piece member => separated.respects piece (todo ▸ List.mem_cons_of_mem _ member)

theorem later (separated : Separated birthplace machine) (todo : machine.todo = action :: rest)
    {pushed : List (Action n k C ν)}
    (respects : ∀ piece ∈ pushed, piece.RespectsBirthplace birthplace machine.code) :
    ∀ piece ∈ pushed ++ rest, piece.RespectsBirthplace birthplace machine.code :=
  List.forall_mem_append.mpr ⟨respects, separated.tail todo⟩

theorem of_own (separated : Separated birthplace machine) {move : Move n k C ν}
    (suits : move.Suits machine) (own : move ≠ .work)
    (traced : move.traced birthplace machine.code = true)
    (goes : (machine.make move).outcome = none) : Separated birthplace (machine.make move) := by
  obtain ⟨runtimes, cells, active⟩ := machine.make_own own
  obtain ⟨host, rest, todo⟩ := Machine.own_of_inOwnCode (suits.own own)
  cases move with
  | work => exact absurd rfl own
  | think code =>
      have kept : birthplace code = birthplace machine.code := beq_iff_eq.mp traced
      refine separated.respond runtimes cells active kept fun piece member => ?_
      obtain ⟨makes, detaches⟩ := separated.respects piece member
      exact ⟨makes, fun index same => kept.trans (detaches index same)⟩
  | leave value =>
      cases host with
      | none =>
          simp only [Machine.make, Machine.leave, todo] at goes
          cases goes
      | some host =>
          have left : machine.make (.leave value) = (machine.withTodo rest).push
              [.close host, .reopen host, .close host, .finish host value] := by
            simp only [Machine.make, Machine.leave, todo]
            rfl
          rw [left]
          refine separated.respond rfl rfl rfl rfl (separated.later todo ?_)
          simp [Action.RespectsBirthplace, Action.makes?]
  | panic =>
      cases host <;>
        · simp only [Machine.make, Machine.panic, todo] at goes
          cases goes
  | ask request =>
      refine separated.respond runtimes cells active rfl
        (List.forall_mem_append.mpr ⟨?_, separated.respects⟩)
      cases request with
      | create index entry =>
          have here : birthplace entry = some index := beq_iff_eq.mp traced
          simp [Call.actions, Action.RespectsBirthplace, Action.makes?, here]
      | _ => simp [Call.actions, Action.RespectsBirthplace, Action.makes?]

/-- Whoever is woken belongs to the runtime on whose behalf this is done. -/
theorem wakes_native (separated : Separated birthplace machine) (going : machine.outcome = none)
    (todo : machine.todo = action :: rest)
    (apart : ∀ index parking, action ≠ .schedule index parking)
    (host : action.host? machine.active = some index)
    (calm : Moment.stray birthplace ⟨machine, .work⟩ = false) {mutex : Fin k}
    {waiter : Block (Context n k C ν) ν}
    (first : machine.parkedOn mutex = waiter :: machine.step.parkedOn mutex) :
    (waiter.passport birthplace).Native index := by
  have waits := separated.parked mutex waiter (first ▸ List.mem_cons_self)
  -- Nothing but a wake-up takes one thread off the queue, and this one is not stray.
  have unparks : action.unparks? = some mutex := by
    refine Classical.byContradiction fun unlike => ?_
    have kept := (machine.withTodo rest).perform_parkedOn apart unlike
    rw [← Machine.step_eq going todo] at kept
    have shorter := congrArg List.length (first.trans (congrArg (waiter :: ·) kept))
    exact absurd shorter (Nat.ne_of_lt (Nat.lt_succ_self _))
  have near : ((machine.parkedOn mutex).head?.bind fun waiter =>
      birthplace waiter.context.code).any (· != index) = false := by
    cases action with
    | handOn | wakeAll =>
        cases unparks
        cases host
        simpa only [Moment.stray, todo] using calm
    | dropMutex => cases host
    | _ => cases unparks
  rw [first] at near
  simp only [List.head?_cons, Option.bind_some] at near
  cases home : birthplace waiter.context.code with
  | none =>
      left
      rw [Block.passport, home, waits.main.mp home]
  | some other =>
      right
      have same : other = index := by simpa [home] using near
      refine ⟨home.trans (congrArg some same), fun main => ?_⟩
      cases home.symm.trans (waits.main.mpr main)

theorem works (separated : Separated birthplace machine) (driven : Driven machine)
    (going : machine.outcome = none) (todo : machine.todo = action :: rest)
    (ordinary : action.ordinary = true) (apart : ∀ index parking, action ≠ .schedule index parking)
    (calm : Moment.stray birthplace ⟨machine, .work⟩ = false)
    (goes : machine.step.outcome = none) : Separated birthplace machine.step := by
  obtain ⟨keeping, renews⟩ := Action.ordinary_keeps ordinary
  have woken {index : Fin n} (host : action.host? machine.active = some index) {mutex : Fin k}
      {waiter : Block (Context n k C ν) ν}
      (first : machine.parkedOn mutex = waiter :: machine.step.parkedOn mutex) :=
    separated.wakes_native going todo apart host calm first
  rw [Machine.step_eq going todo] at goes woken ⊢
  have effect := (machine.withTodo rest).perform_effect apart keeping goes
  have lives (index : Fin n) : (((machine.withTodo rest).perform action).runtime index).live =
      (machine.runtime index).live :=
    ((machine.withTodo rest).perform_lasts (by simp [renews])).live
  obtain ⟨active, standing⟩ := effect.standing ordinary
  have code : birthplace ((machine.withTodo rest).perform action).code =
      birthplace machine.code := (machine.withTodo rest).perform_birthplace apart
  have respects : ∀ piece ∈ ((machine.withTodo rest).perform action).todo,
      piece.RespectsBirthplace birthplace ((machine.withTodo rest).perform action).code := by
    have before (piece : Action n k C ν) (member : piece ∈ action :: rest) :
        piece.RespectsBirthplace birthplace machine.code := separated.respects piece (todo ▸ member)
    obtain ⟨pushed, left, pushes⟩ := (machine.withTodo rest).perform_pushes apart keeping
    rw [left]
    refine List.forall_mem_append.mpr ⟨fun piece member => ?_, fun piece member => ?_⟩
    · obtain ⟨ordinary, makes⟩ := pushes piece member
      refine Action.respects_of_ordinary ordinary fun index entry made => ?_
      rcases makes with none | same
      · cases none.symm.trans made
      · exact (before action List.mem_cons_self).1 index entry (same.symm.trans made)
    · obtain ⟨makes, detaches⟩ := before piece (List.mem_cons_of_mem _ member)
      exact ⟨makes, fun index same => code.trans (detaches index same)⟩
  generalize (machine.withTodo rest).perform action = after at *
  cases effect with
  | keeps schedulers currents active parked =>
      have parked (mutex : Fin k) : after.parkedOn mutex = machine.parkedOn mutex := parked mutex
      exact separated.redo schedulers currents lives
        (fun mutex block member => parked mutex ▸ member)
        (fun passport => Nat.le_of_eq (census_parked_congr parked)) code
        (fun unled => separated.idle (active.symm.trans unled)) respects
  | activates => cases ordinary
  | @drops mutex runtimes active unparked elsewhere =>
      have runtimes : after.runtime = machine.runtime := runtimes
      have fewer (passport : Passport n) :
          census birthplace after.parked passport ≤ census birthplace machine.parked passport := by
        have exchange : census birthplace after.parked passport + _ =
          census birthplace machine.parked passport + _ := census_parked_exchange elsewhere
        rw [unparked] at exchange
        exact Nat.le.intro exchange
      have parks : Effect (machine.withTodo rest) after (.dropMutex mutex) :=
        .drops runtimes active unparked elsewhere
      refine separated.redo ?_ ?_ ?_ (fun mutex block member => parks.parks member) fewer code
        (fun unled => separated.idle (active.symm.trans unled)) respects
      all_goals exact fun index => by rw [runtimes]
  | @shifts _ index shift host present others current =>
      have effect : Effect (machine.withTodo rest) after action :=
        .shifts shift host present others current active
      obtain ⟨scheduler, seen⟩ := Option.isSome_iff_exists.mp present
      obtain ⟨scheduler', seated⟩ := Option.isSome_iff_exists.mp (shift.seats present ordinary)
      have manned := (separated.manned index scheduler seen).shifts shift.of_withTodo seen seated
        (fun entry issues => (separated.respects action (todo ▸ List.mem_cons_self)).1 index entry
          (issues ▸ rfl)) (fun mutex waiter => woken host) code current
      constructor
      case manned =>
        intro other scheduler' present'
        by_cases here : other = index
        · subst here
          cases Option.some.inj (seated.symm.trans present')
          exact manned
        · have elsewhere : (machine.runtime other).scheduler = some scheduler' :=
            (congrArg Runtime.scheduler (others other here)).symm.trans present'
          exact absurd (driven.single (by rw [elsewhere]; rfl) present) here
      case once => exact fun passport =>
        Nat.le_trans (Nat.le_add_left _ _) (manned.once passport)
      case parked =>
        intro mutex block member
        have waits := separated.parked mutex block (effect.parks member)
        exact ⟨waits.main, fun home born => by
          rw [(standing home).1, lives]
          exact waits.home home born, waits.respects⟩
      case idle =>
        intro idle
        obtain ⟨main, others⟩ := separated.idle (active.symm.trans idle)
        exact ⟨code.trans main, fun mutex block member => others mutex block (effect.parks member)⟩
      case respects => exact respects
      case ready =>
        intro index block member
        rcases effect.line member with before | new | ⟨mutex, waiter, parked, same⟩
        · exact separated.ready index block before
        · rw [new]
          simp [Action.RespectsBirthplace, Action.makes?]
        · rw [same]
          exact (separated.parked mutex waiter parked).respects

theorem activates (separated : Separated birthplace machine) (driven : Driven machine)
    (todo : machine.todo = .enroll index entry :: rest)
    (absent : (machine.runtime index).scheduler = none) (idle : machine.active = none)
    (gate : Gate) (log : List LogEvent) :
    Separated birthplace (Machine.push { (machine.withTodo rest).activated index gate with log }
      [.issue index entry]) := by
  obtain ⟨live, -⟩ := driven.of_enroll todo
  obtain ⟨main, marked⟩ := separated.idle idle
  have runtime (other : Fin n) :
      (Machine.push { (machine.withTodo rest).activated index gate with log }
        [.issue index entry]).runtime other = if index = other then
        { machine.runtime index with
          gate, scheduler := some (.start (.main ⟨rest, machine.code⟩)), current := .main }
        else machine.runtime other := (machine.withTodo rest).runtime_activated index other gate
  constructor
  case manned =>
    intro other scheduler present
    rw [runtime] at present
    split at present
    · rename_i here
      subst here
      cases Option.some.inj present
      refine .start main main ?_ (fun block member => ?_) separated.once
      · rw [runtime, if_pos rfl]
      · obtain ⟨mutex, parked⟩ := Machine.mem_parked.mp member
        -- A runtime whose threads are parked has its scheduler until it is given up.
        refine ⟨marked mutex block parked, fun born => ?_⟩
        rcases (separated.parked mutex block parked).home _ born with present | given
        · rw [absent] at present
          cases present
        · cases live.symm.trans given
    · have driver := (driven.present_iff (Driven.undiscarded todo (by simp) (by simp))).mp
        (Option.isSome_iff_exists.mpr ⟨scheduler, present⟩)
      cases idle.symm.trans driver
  case once => exact separated.once
  case parked =>
    intro mutex block member
    have waits := separated.parked mutex block member
    refine ⟨waits.main, fun home born => ?_, waits.respects⟩
    rw [runtime]
    split
    · exact .inl rfl
    · exact waits.home home born
  case idle => exact fun idle => nomatch idle
  case respects =>
    refine separated.later todo ?_
    have respects := (separated.respects _ (todo ▸ List.mem_cons_self)).1 index entry rfl
    simp [Action.RespectsBirthplace, Action.makes?, respects]
  case ready =>
    intro other block member
    have line : block ∈ ((machine.withTodo rest).activated index gate).readyOn other := member
    have before := Machine.readyOn_activated _ line
    exact separated.ready other block before

theorem enrolls (separated : Separated birthplace machine) (driven : Driven machine)
    (going : machine.outcome = none) (todo : machine.todo = .enroll index entry :: rest)
    (goes : machine.step.outcome = none) : Separated birthplace machine.step := by
  have here := (separated.respects _ (todo ▸ List.mem_cons_self)).1 index entry rfl
  rw [Machine.step_eq going todo] at goes ⊢
  change Separated birthplace ((machine.withTodo rest).enroll index entry)
  cases (machine.withTodo rest).enroll_cases goes with
  | enrolled _ same | refused _ _ same =>
      rw [same]
      exact separated.respond rfl rfl rfl rfl
        (separated.later todo (by simp [Action.RespectsBirthplace, Action.makes?, here]))
  | activated absent idle _ same =>
      rw [same]
      exact separated.activates driven todo absent idle _ _

theorem drops (separated : Separated birthplace machine) (driven : Driven machine)
    (going : machine.outcome = none) (todo : machine.todo = .dropRuntime index :: rest) :
    Separated birthplace machine.step := by
  have current : (machine.runtime index).current = .main := by
    have place := todo ▸ driven.place
    cases place with
    | engaged driver engaged => cases engaged.behind rfl
    | working ordinary => cases ordinary _ List.mem_cons_self
    | asked _ current => exact current
  rw [Machine.step_eq going todo]
  simp only [Machine.perform, Machine.dropRuntime]
  split
  · rename_i driver
    obtain ⟨scheduler, present⟩ := Option.isSome_iff_exists.mp (driven.drives index driver).2
    have manned := separated.manned index scheduler present
    have main : birthplace machine.code = none := by
      rcases manned.native scheduler.current List.mem_cons_self with main | ⟨-, apart⟩
      · exact manned.running.trans (congrArg Passport.birthplace main)
      · exact absurd (manned.current.symm.trans current) apart
    refine separated.respond rfl rfl rfl rfl (separated.later todo ?_)
    simp [Action.RespectsBirthplace, Action.makes?, main]
  · exact separated.respond rfl rfl rfl rfl
      (separated.later todo (by simp [Action.RespectsBirthplace, Action.makes?]))

theorem deactivates (separated : Separated birthplace machine) (driven : Driven machine)
    (going : machine.outcome = none) (todo : machine.todo = .deactivate index :: rest) :
    Separated birthplace machine.step := by
  obtain ⟨driver, -⟩ := driven.of_deactivate todo
  obtain ⟨scheduler, present⟩ := Option.isSome_iff_exists.mp (driven.drives index driver).2
  have manned := separated.manned index scheduler present
  have main := (separated.respects _ (todo ▸ List.mem_cons_self)).2 index rfl
  have current : scheduler.current.passport birthplace = ⟨none, .main⟩ := by
    rcases manned.native scheduler.current List.mem_cons_self with current | ⟨here, -⟩
    · exact current
    · cases here.symm.trans (manned.running.symm.trans main)
  rw [Machine.step_eq going todo]
  have runtime (other : Fin n) : ((machine.withTodo rest).perform (.deactivate index)).runtime
      other = if index = other then
        { machine.runtime index with gate := (machine.runtime index).gate.disarm }
      else machine.runtime other := machine.runtime_setRuntime index other _
  refine separated.redo ?_ ?_ ?_ (fun _ _ => id) (fun _ => Nat.le_refl _) rfl ?idle
    (separated.tail todo)
  case idle =>
    -- Thread 0 has its place in the scheduler: nobody who is parked holds its passport.
    refine fun _ => ⟨main, fun mutex block member unmarked => ?_⟩
    have waits := separated.parked mutex block member
    have same : block.passport birthplace = ⟨none, .main⟩ :=
      Passport.ext unmarked (waits.main.mp unmarked)
    have once := manned.once ⟨none, .main⟩
    have inside : 0 < census birthplace scheduler.crew ⟨none, .main⟩ :=
      census_pos.mpr ⟨_, List.mem_cons_self, current⟩
    have outside : 0 < census birthplace machine.parked ⟨none, .main⟩ :=
      census_pos.mpr ⟨block, Machine.mem_parked.mpr ⟨mutex, member⟩, same⟩
    omega
  all_goals
    intro other
    rw [runtime]
    split
    · rename_i here
      exact here ▸ rfl
    · rfl

theorem discards (separated : Separated birthplace machine)
    (going : machine.outcome = none) (todo : machine.todo = .discard index :: rest) :
    Separated birthplace machine.step := by
  rw [Machine.step_eq going todo]
  obtain ⟨log, freed⟩ : ∃ log, (machine.withTodo rest).discard index =
      Machine.push { (machine.withTodo rest).freed index with log } [.reply .done] :=
    ⟨_, Machine.discard_eq ..⟩
  simp only [Machine.perform]
  rw [freed]
  have runtime (other : Fin n) :
      (Machine.push { (machine.withTodo rest).freed index with log } [.reply .done]).runtime other =
        if index = other then { machine.runtime index with scheduler := none, live := false }
        else machine.runtime other := machine.runtime_setRuntime index other _
  constructor
  case manned =>
    intro other scheduler present
    rw [runtime] at present
    split at present
    · cases present
    · rename_i unlike
      have manned := separated.manned other scheduler present
      refine manned.regroup manned.native (fun _ => Nat.le_refl _) rfl manned.running ?_
      rw [runtime, if_neg unlike]
      exact manned.current
  case once => exact separated.once
  case parked =>
    intro mutex block member
    have waits := separated.parked mutex block member
    refine ⟨waits.main, fun home born => ?_, waits.respects⟩
    rw [runtime]
    split
    · exact .inr rfl
    · exact waits.home home born
  case idle => exact separated.idle
  case respects => exact separated.later todo (by simp [Action.RespectsBirthplace, Action.makes?])
  case ready =>
    intro other block member
    exact separated.ready other block ((machine.withTodo _).readyOn_freed member)

theorem turns (separated : Separated birthplace machine) (driven : Driven machine)
    (going : machine.outcome = none) (todo : machine.todo = .schedule index parking :: rest)
    (goes : machine.step.outcome = none) : Separated birthplace machine.step := by
  have later := separated.tail todo
  rw [Machine.step_eq going todo] at goes ⊢
  simp only [Machine.perform] at goes ⊢
  have turn := (machine.withTodo rest).schedule_cases goes
  have resumed := turn.resumed
  have lives (other : Fin n) := ((machine.withTodo rest).lasts_schedule other index parking).live
  generalize (machine.withTodo rest).schedule index parking = after at *
  cases turn with
  | idle absent same =>
      subst same
      exact separated.respond rfl rfl rfl rfl later
  | @turns scheduler rotation present decides scheduled others resumes =>
      have driver : machine.active = some index :=
        (driven.present_iff (Driven.undiscarded todo (by simp) (by simp))).mp
          (Option.isSome_iff_exists.mpr ⟨scheduler, present⟩)
      have before := separated.manned index scheduler present
      have manned := (before.save rest).turns decides scheduled resumes
      have elsewhere {other : Fin n} (apart : other ≠ index) :
          after.runtime other = machine.runtime other := others other apart
      have filed {block : Block (Context n k C ν) ν}
          (filed : ((machine.withTodo rest).save scheduler).Filed rotation block) :
          block.passport birthplace = scheduler.current.passport birthplace ∧
            ∀ piece ∈ block.context.todo,
              piece.RespectsBirthplace birthplace block.context.code := by
        refine ⟨Passport.ext ?_ filed.id, filed.context ▸ later⟩
        exact (congrArg (birthplace ∘ Context.code) filed.context).trans before.running
      constructor
      case manned =>
        intro other scheduler' present'
        by_cases here : other = index
        · subst here
          cases Option.some.inj (scheduled.scheduler.symm.trans present')
          exact manned
        · rw [elsewhere here] at present'
          refine absurd (driven.single ?_ ?_) here
          · rw [present', Option.isSome_some]
          · exact Option.isSome_iff_exists.mpr ⟨scheduler, present⟩
      case once => exact fun passport =>
        Nat.le_trans (Nat.le_add_left _ _) (manned.once passport)
      case parked =>
        intro mutex block member
        rcases scheduled.parked decides member with before | parks
        · have waits := separated.parked mutex block before
          refine ⟨waits.main, fun home born => ?_, waits.respects⟩
          rw [lives]
          by_cases here : home = index
          · exact .inl (here ▸ Option.isSome_iff_exists.mpr ⟨_, scheduled.scheduler⟩)
          · rw [elsewhere here]
            exact waits.home home born
        · obtain ⟨same, respects⟩ := filed parks
          have native : (block.passport birthplace).Native index :=
            same ▸ before.native _ List.mem_cons_self
          refine ⟨native.main, fun home born => ?_, respects⟩
          obtain rfl := native.home born
          exact .inl (Option.isSome_iff_exists.mpr ⟨_, scheduled.scheduler⟩)
      case idle =>
        intro idle
        cases (scheduled.active.trans driver).symm.trans idle
      case respects =>
        rcases resumed with ⟨same, code⟩ | ⟨block, ready, same, code⟩ <;> rw [same, code]
        · exact later
        · exact separated.ready index block ready
      case ready =>
        intro other block member
        by_cases here : other = index
        · subst here
          rw [Machine.readyOn_eq scheduled.scheduler] at member
          rcases decides.seated (List.mem_cons_of_mem _ member) with ready | rests
          · exact separated.ready other block (Machine.readyOn_eq present ▸ ready)
          · exact (filed rests).2
        · rw [Machine.readyOn, elsewhere here] at member
          exact separated.ready other block member

/-- A piece of work keeps what is known unless it is a stray wake-up. -/
theorem step (separated : Separated birthplace machine) (driven : Driven machine)
    (going : machine.outcome = none) (library : machine.inOwnCode = false)
    (calm : Moment.stray birthplace ⟨machine, .work⟩ = false)
    (goes : machine.step.outcome = none) : Separated birthplace machine.step := by
  cases todo : machine.todo with
  | nil =>
      rwa [Machine.step, going, todo]
  | cons action rest =>
      rw [Machine.inOwnCode_eq todo] at library
      cases action with
      | schedule index parking => exact separated.turns driven going todo goes
      | enroll index entry => exact separated.enrolls driven going todo goes
      | dropRuntime index => exact separated.drops driven going todo
      | deactivate index => exact separated.deactivates driven going todo
      | discard index => exact separated.discards going todo
      | _ => exact separated.works driven going todo rfl (by simp) calm goes

theorem start {runtimes : Vector (Runtime n k C ν) n}
    (fresh : ∀ index, ∃ config kind plan, runtimes.get index = .new config (.new kind plan))
    {code : C} (initial : birthplace code = none) :
    Separated birthplace (Machine.start runtimes code : Machine n k C ν) := by
  have absent (index : Fin n) : (runtimes.get index).scheduler = none := by
    obtain ⟨config, kind, plan, same⟩ := fresh index
    rw [same]
    rfl
  have nobody (mutex : Fin k) : (Machine.start runtimes code : Machine n k C ν).parkedOn mutex =
      [] := by
    simp [Machine.parkedOn, Mutex.new, WaitQueue.empty]
  have empty : (Machine.start runtimes code : Machine n k C ν).parked = [] :=
    List.flatMap_eq_nil_iff.mpr fun mutex _ => nobody mutex
  constructor
  case manned => simp [absent]
  case once => simp [empty, census]
  case parked => simp [nobody]
  case idle => exact fun _ => ⟨initial, by simp [nobody]⟩
  case respects => simp [Machine.start, Action.RespectsBirthplace, Action.makes?]
  case ready => simp [Machine.readyOn, absent]

end Separated

theorem Traceable.later {moment : Moment n k C ν}
    (traceable : Traceable birthplace (moment :: past) after) :
    Traceable birthplace past moment.machine where
  initial := traceable.initial
  traced := (List.forall_mem_cons.mp traceable.traced).2

theorem Course.separated (course : Course past machine) (going : machine.outcome = none)
    (traceable : Traceable birthplace past machine)
    (calm : ∀ moment ∈ past, moment.stray birthplace = false) : Separated birthplace machine := by
  induction course with
  | start fresh code => exact .start fresh traceable.initial
  | @move past machine move course before suits ih =>
      have separated := ih before traceable.later fun moment member =>
        calm moment (List.mem_cons_of_mem _ member)
      by_cases library : move = .work
      · subst library
        exact separated.step (course.driven before) before suits (calm _ List.mem_cons_self) going
      · exact separated.of_own suits library (traceable.traced _ List.mem_cons_self) going

end UserThreads
