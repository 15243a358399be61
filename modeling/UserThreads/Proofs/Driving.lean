import UserThreads.Proofs.Course

/-!
The runtime that drives the OS thread is the only one with a scheduler, on the whole of
any course; a scheduler without a driver is about to be freed by the running thread.
-/

namespace UserThreads

variable {n k : Nat} {C ν : Type}

/-- Work by which the timer comes and goes while a gate is being closed. -/
def Action.entering (index : Fin n) : Action n k C ν → Prop
  | .close host | .closed host | .schedule host none => host = index
  | .timer => True
  | _ => False

/-- What a thread does behind the gate of the runtime that drives it, to make a thread on
this runtime or to give it up. -/
inductive Behind (index : Fin n) : List (Action n k C ν) → Prop
  | enroll {entry : C} {host : Option (Fin n)} {rest : List (Action n k C ν)}
      (ordinary : ∀ piece ∈ rest, piece.ordinary = true) :
      Behind index (.enroll index entry :: .own host :: rest)
  | deactivate {host : Option (Fin n)} {rest : List (Action n k C ν)}
      (ordinary : ∀ piece ∈ rest, piece.ordinary = true) :
      Behind index (.deactivate index :: .reopen index :: .discard index :: .own host :: rest)

/-- What is left to do for a thread that the runtime `index` drives. On its way into the
gate it can lose the processor. -/
inductive Engaged (index : Fin n) : List (Action n k C ν) → Prop
  | working {todo : List (Action n k C ν)} (ordinary : ∀ piece ∈ todo, piece.ordinary = true) :
      Engaged index todo
  | entering {pieces todo : List (Action n k C ν)}
      (entering : ∀ piece ∈ pieces, piece.entering index) (behind : Behind index todo) :
      Engaged index (pieces ++ todo)

/-- What is left to do for the running thread. -/
inductive Place (machine : Machine n k C ν) : List (Action n k C ν) → Prop
  | engaged {index : Fin n} {todo : List (Action n k C ν)} (driven : machine.active = some index)
      (engaged : Engaged index todo) : Place machine todo
  | working {todo : List (Action n k C ν)} (ordinary : ∀ piece ∈ todo, piece.ordinary = true) :
      Place machine todo
  | closing {index : Fin n} {entry : C} {host : Option (Fin n)} {rest : List (Action n k C ν)}
      (live : (machine.runtime index).live = true) (apart : machine.active ≠ some index)
      (ordinary : ∀ piece ∈ rest, piece.ordinary = true) :
      Place machine (.close index :: .enroll index entry :: .own host :: rest)
  | enrolling {index : Fin n} {entry : C} {host : Option (Fin n)} {rest : List (Action n k C ν)}
      (live : (machine.runtime index).live = true) (apart : machine.active ≠ some index)
      (ordinary : ∀ piece ∈ rest, piece.ordinary = true) :
      Place machine (.enroll index entry :: .own host :: rest)
  | asked {index : Fin n} {host : Option (Fin n)} {rest : List (Action n k C ν)}
      (live : (machine.runtime index).live = true)
      (current : (machine.runtime index).current = .main)
      (ordinary : ∀ piece ∈ rest, piece.ordinary = true) :
      Place machine (.dropRuntime index :: .own host :: rest)
  | detached {index : Fin n} {host : Option (Fin n)} {rest : List (Action n k C ν)}
      (idle : machine.active = none) (ordinary : ∀ piece ∈ rest, piece.ordinary = true) :
      Place machine (.reopen index :: .discard index :: .own host :: rest)
  | discarding {index : Fin n} {host : Option (Fin n)} {rest : List (Action n k C ν)}
      (apart : machine.active ≠ some index)
      (ordinary : ∀ piece ∈ rest, piece.ordinary = true) :
      Place machine (.discard index :: .own host :: rest)

namespace Machine

/-- The running thread is about to free the scheduler of the runtime `index`. -/
def discards (machine : Machine n k C ν) (index : Fin n) : Prop :=
  ∃ rest, machine.todo = .reopen index :: .discard index :: rest ∨
    machine.todo = .discard index :: rest

/-- How the runtimes of a machine, the active one and the work of all threads fit together. -/
structure Driven (machine : Machine n k C ν) : Prop where
  quiet : ∀ index, (machine.runtime index).gate.afterOpening = 0
  drives : ∀ index, machine.active = some index →
    (machine.runtime index).live = true ∧ (machine.runtime index).scheduler.isSome = true
  unused : ∀ index, (machine.runtime index).live = true →
    (machine.runtime index).scheduler = none →
      (machine.runtime index).gate.installed = false ∧ (machine.runtime index).current = .main
  freed : ∀ index, (machine.runtime index).live = false →
    (machine.runtime index).scheduler = none
  undriven : ∀ index, (machine.runtime index).scheduler.isSome = true →
    machine.active = some index ∨ machine.active = none ∧ machine.discards index
  place : Place machine machine.todo
  ready : ∀ index, ∀ block ∈ machine.readyOn index, Engaged index block.context.todo
  parked : ∀ mutex, ∀ block ∈ machine.parkedOn mutex,
    ∀ piece ∈ block.context.todo, piece.ordinary = true

end Machine

variable {machine after : Machine n k C ν} {action : Action n k C ν}
  {rest : List (Action n k C ν)} {index : Fin n} {host : Option (Fin n)}
  {parking : Option (Fin k)} {past : List (Moment n k C ν)}

open Machine (Driven)

theorem Gate.keeps_start {gate started : Gate} {interval : Duration}
    (starts : gate.start interval = .ok started) : gate.Keeps started := by
  unfold start at starts
  split at starts
  · cases starts
  · rename_i installed
    exact (keeps_install installed).1.trans (keeps_arm starts).1

section places

theorem Action.ordinary_of_entering (entering : action.entering index) :
    action.ordinary = true := by
  cases action <;> first | rfl | exact entering.elim

/-- A thread of the active runtime does ordinary work, comes nearer to what it does behind
the gate, or is there. -/
theorem Engaged.next (engaged : Engaged index (action :: rest)) :
    (∀ piece ∈ action :: rest, piece.ordinary = true) ∨
      (∃ pieces todo, rest = pieces ++ todo ∧ action.entering index ∧
        (∀ piece ∈ pieces, piece.entering index) ∧ Behind index todo) ∨
      Behind index (action :: rest) := by
  generalize shape : action :: rest = todo at engaged
  cases engaged with
  | working ordinary => exact .inl ordinary
  | @entering pieces todo entering behind =>
      cases pieces with
      | nil => exact .inr (.inr behind)
      | cons first pieces =>
          cases shape
          exact .inr (.inl ⟨pieces, todo, rfl, entering _ List.mem_cons_self,
            fun piece member => entering piece (List.mem_cons_of_mem _ member), behind⟩)

theorem Engaged.behind (engaged : Engaged index (action :: rest))
    (extraordinary : action.ordinary = false) : Behind index (action :: rest) := by
  rcases engaged.next with ordinary | ⟨_, _, _, entering, _⟩ | behind
  · cases extraordinary.symm.trans (ordinary action List.mem_cons_self)
  · cases extraordinary.symm.trans (Action.ordinary_of_entering entering)
  · exact behind

theorem Engaged.closing {todo : List (Action n k C ν)} (behind : Behind index todo) :
    Engaged index (.close index :: todo) := by
  have enters : ∀ piece ∈ ([.close index] : List (Action n k C ν)), piece.entering index := by
    simp [Action.entering]
  exact .entering enters behind

theorem Place.of_own (place : Place machine (.own host :: rest)) :
    ∀ piece ∈ rest, piece.ordinary = true := by
  have later (ordinary : ∀ piece ∈ (.own host :: rest : List (Action n k C ν)),
      piece.ordinary = true) : ∀ piece ∈ rest, piece.ordinary = true :=
    fun piece member => ordinary piece (List.mem_cons_of_mem _ member)
  cases place with
  | engaged driven engaged =>
      rcases engaged.next with ordinary | ⟨_, _, _, entering, _⟩ | behind
      · exact later ordinary
      · exact entering.elim
      · cases behind
  | working ordinary => exact later ordinary

/-- A thread that decides goes on with the rest of its work. -/
theorem Place.of_schedule (place : Place machine (.schedule index parking :: rest)) :
    (∀ piece ∈ rest, piece.ordinary = true) ∨
      ∃ driver, machine.active = some driver ∧ Engaged driver rest ∧ parking = none := by
  cases place with
  | engaged driven engaged =>
      rcases engaged.next with ordinary | ⟨pieces, todo, rfl, entering, others, behind⟩ | behind
      · exact .inl fun piece member => ordinary piece (List.mem_cons_of_mem _ member)
      · cases parking with
        | none => exact .inr ⟨_, driven, .entering others behind, rfl⟩
        | some mutex => exact entering.elim
      · cases behind
  | working ordinary =>
      exact .inl fun piece member => ordinary piece (List.mem_cons_of_mem _ member)

/-- The timer comes in on the active runtime, and brings in no more than its own work. -/
theorem Machine.entering_pushes (before : Machine n k C ν) (entering : action.entering index)
    (driven : before.active = some index)
    (apart : ∀ index parking, action ≠ .schedule index parking) :
    ∃ pushed, (before.perform action).todo = pushed ++ before.todo ∧
      ∀ piece ∈ pushed, piece.entering index := by
  cases action with
  | close host =>
      obtain rfl : host = index := entering
      rcases (before.closeGate_cases host).2 with same | ⟨-, fires⟩
      · exact ⟨[], same, by simp⟩
      · exact ⟨[.timer, .closed host], fires, by simp [Action.entering]⟩
  | closed => exact ⟨[], rfl, by simp⟩
  | timer =>
      simp only [perform, enterTimer, driven]
      exact ⟨_, rfl, by simp [Action.entering]⟩
  | schedule index parking => exact absurd rfl (apart index parking)
  | _ => exact entering.elim

end places

section effects

theorem Shift.seats {before : Machine n k C ν} (shift : Shift index before after action)
    (present : (before.runtime index).scheduler.isSome = true)
    (ordinary : action.ordinary = true) : (after.runtime index).scheduler.isSome = true := by
  cases shift with
  | keeps same | drops same => rw [same, present]
  | activates => cases ordinary
  | issues _ seated | begins _ seated | blocks _ seated | completes _ seated | reaps _ seated
  | wakes _ seated => rw [seated, Option.isSome_some]

/-- Ordinary work sets no runtime up and gives none up, nor does it change who runs. -/
theorem Effect.standing {before : Machine n k C ν} (effect : Effect before after action)
    (ordinary : action.ordinary = true) :
    after.active = before.active ∧ ∀ index,
      (after.runtime index).scheduler.isSome = (before.runtime index).scheduler.isSome ∧
        (after.runtime index).current = (before.runtime index).current := by
  cases effect with
  | keeps schedulers currents active => exact ⟨active, fun index =>
      ⟨congrArg _ (schedulers index), currents index⟩⟩
  | @shifts _ host shift _ present others current active =>
      refine ⟨active, fun index => ?_⟩
      by_cases here : index = host
      · subst here
        exact ⟨(shift.seats present ordinary).trans present.symm, current⟩
      · rw [others index here]
        exact ⟨rfl, rfl⟩
  | activates => cases ordinary
  | drops runtimes active =>
      refine ⟨active, fun index => ?_⟩
      rw [runtimes]
      exact ⟨rfl, rfl⟩

theorem Shift.line {before : Machine n k C ν} (shift : Shift index before after action)
    {block : Block (Context n k C ν) ν} (member : block ∈ after.readyOn index) :
    block ∈ before.readyOn index ∨ block.context.todo = [.begin] ∨
      ∃ mutex, ∃ waiter ∈ before.parkedOn mutex, block.context = waiter.context := by
  have before_line {scheduler : Scheduler (Context n k C ν) ν}
      (present : (before.runtime index).scheduler = some scheduler)
      (member : block ∈ scheduler.ready.elements) : block ∈ before.readyOn index :=
    Machine.readyOn_eq present ▸ member
  cases shift with
  | keeps same | drops same =>
      rw [Machine.readyOn, same] at member
      exact .inl member
  | activates _ present =>
      rw [Machine.readyOn_eq present] at member
      cases member
  | issues present seated =>
      rw [Machine.readyOn_eq seated] at member
      rcases OrderedQueue.mem_insertByAge.mp member with rfl | member
      · exact .inr (.inl rfl)
      · exact .inl (before_line present member)
  | begins present seated | blocks present seated | completes present seated
  | reaps present seated =>
      rw [Machine.readyOn_eq seated] at member
      exact .inl (before_line present member)
  | @wakes _ mutex scheduler waiter present seated first =>
      rw [Machine.readyOn_eq seated] at member
      rcases OrderedQueue.mem_insertByAge.mp member with rfl | member
      · exact .inr (.inr ⟨mutex, waiter, first ▸ List.mem_cons_self, rfl⟩)
      · exact .inl (before_line present member)

/-- Who is in line for the processor was so before, is new, or was parked. -/
theorem Effect.line {before : Machine n k C ν} (effect : Effect before after action)
    {block : Block (Context n k C ν) ν} (member : block ∈ after.readyOn index) :
    block ∈ before.readyOn index ∨ block.context.todo = [.begin] ∨
      ∃ mutex, ∃ waiter ∈ before.parkedOn mutex, block.context = waiter.context := by
  cases effect with
  | keeps schedulers =>
      rw [Machine.readyOn, schedulers index] at member
      exact .inl member
  | @shifts _ host shift _ _ others =>
      by_cases here : index = host
      · subst here
        exact shift.line member
      · rw [Machine.readyOn, others index here] at member
        exact .inl member
  | @activates host _ _ _ _ present _ others =>
      by_cases here : index = host
      · subst here
        rw [Machine.readyOn_eq present] at member
        cases member
      · rw [Machine.readyOn, others index here] at member
        exact .inl member
  | drops runtimes =>
      rw [Machine.readyOn, runtimes] at member
      exact .inl member

theorem Effect.parks {before : Machine n k C ν} (effect : Effect before after action)
    {mutex : Fin k} {block : Block (Context n k C ν) ν} (member : block ∈ after.parkedOn mutex) :
    block ∈ before.parkedOn mutex := by
  cases effect with
  | keeps _ _ _ parked => exact parked mutex ▸ member
  | activates _ _ _ _ _ _ parked => exact parked mutex ▸ member
  | @drops emptied _ _ unparked elsewhere =>
      by_cases here : mutex = emptied
      · subst here
        rw [unparked] at member
        cases member
      · exact elsewhere mutex here ▸ member
  | shifts shift =>
      cases shift with
      | keeps _ parked | activates _ _ parked | issues _ _ _ parked | begins _ _ parked
      | blocks _ _ parked | completes _ _ parked | reaps _ _ _ parked =>
          exact parked mutex ▸ member
      | @wakes _ woken _ _ _ _ first elsewhere =>
          by_cases here : mutex = woken
          · subst here
            exact first ▸ List.mem_cons_of_mem _ member
          · exact elsewhere mutex here ▸ member
      | @drops emptied _ unparked elsewhere =>
          by_cases here : mutex = emptied
          · subst here
            rw [unparked] at member
            cases member
          · exact elsewhere mutex here ▸ member

end effects

namespace Machine.Driven

/-- Where no runtime and no thread but the running one has changed. -/
theorem redo (driven : Driven machine) (runtimes : after.runtime = machine.runtime)
    (active : after.active = machine.active) (parked : after.parkedOn = machine.parkedOn)
    (elsewhere : ∀ index, ¬machine.discards index) (place : Place after after.todo) :
    Driven after := by
  constructor
  case quiet => exact runtimes ▸ driven.quiet
  case drives => exact runtimes ▸ active ▸ driven.drives
  case unused => exact runtimes ▸ driven.unused
  case freed => exact runtimes ▸ driven.freed
  case undriven =>
    intro index present
    rw [runtimes] at present
    rcases driven.undriven index present with driver | ⟨-, discards⟩
    · exact .inl (active.trans driver)
    · exact absurd discards (elsewhere index)
  case place => exact place
  case ready =>
    intro index block member
    rw [readyOn, runtimes] at member
    exact driven.ready index block member
  case parked => exact parked ▸ driven.parked

theorem single (driven : Driven machine) {other : Fin n}
    (present : (machine.runtime index).scheduler.isSome = true)
    (present' : (machine.runtime other).scheduler.isSome = true) : index = other := by
  rcases driven.undriven index present with active | ⟨idle, rest, left⟩ <;>
    rcases driven.undriven other present' with active' | ⟨idle', rest', left'⟩
  · exact Option.some.inj (active.symm.trans active')
  · cases idle'.symm.trans active
  · cases idle.symm.trans active'
  · rcases left with left | left <;> rcases left' with left' | left' <;> simp [left] at left'
    · exact left'.1
    · exact left'.1

theorem undiscarded (todo : machine.todo = action :: rest)
    (opens : ∀ index, action ≠ .reopen index) (frees : ∀ index, action ≠ .discard index)
    (index : Fin n) : ¬machine.discards index := by
  rintro ⟨later, reopening | discarding⟩
  · exact opens index (List.cons.inj (todo.symm.trans reopening)).1
  · exact frees index (List.cons.inj (todo.symm.trans discarding)).1

theorem of_own (driven : Driven machine) {move : Move n k C ν} (suits : move.Suits machine)
    (own : move ≠ .work) (goes : (machine.make move).outcome = none) :
    Driven (machine.make move) := by
  obtain ⟨runtimes, cells, active⟩ := machine.make_own own
  obtain ⟨host, rest, todo⟩ := own_of_inOwnCode (suits.own own)
  have later := (todo ▸ driven.place).of_own
  have ordinary : ∀ piece ∈ machine.todo, piece.ordinary = true := by
    rw [todo]
    exact List.forall_mem_cons.mpr ⟨rfl, later⟩
  have parked : (machine.make move).parkedOn = machine.parkedOn := by
    unfold parkedOn
    rw [cells]
  refine driven.redo runtimes active parked (undiscarded todo (by simp) (by simp)) ?_
  cases move with
  | work => exact absurd rfl own
  | think => exact .working ordinary
  | leave value =>
      cases host with
      | none =>
          simp only [make, leave, todo] at goes
          cases goes
      | some host =>
          simp only [make, leave, todo]
          exact .working (List.forall_mem_append.mpr ⟨by simp [Action.ordinary], later⟩)
  | panic =>
      cases host <;>
        · simp only [make, panic, todo] at goes
          cases goes
  | ask request =>
      obtain ⟨-, reaches⟩ := suits
      cases request with
      | create index entry =>
          change Place _ (.close index :: .enroll index entry :: machine.todo)
          rw [todo]
          by_cases driver : machine.active = some index
          · exact .engaged driver (.closing (.enroll later))
          · exact .closing reaches driver later
      | dropRuntime index =>
          change Place _ (.dropRuntime index :: machine.todo)
          rw [todo]
          exact .asked reaches.1 reaches.2 later
      | _ => exact .working (List.forall_mem_append.mpr ⟨by simp [Call.actions, Action.ordinary],
          ordinary⟩)

theorem works (driven : Driven machine) (going : machine.outcome = none)
    (todo : machine.todo = action :: rest) (ordinary : action.ordinary = true)
    (apart : ∀ index parking, action ≠ .schedule index parking)
    (goes : machine.step.outcome = none) : Driven machine.step := by
  rw [step_eq going todo] at goes ⊢
  obtain ⟨keeping, renews⟩ := Action.ordinary_keeps ordinary
  have effect := (machine.withTodo rest).perform_effect apart keeping goes
  have lasts (index : Fin n) : (machine.runtime index).Lasts
      (((machine.withTodo rest).perform action).runtime index) :=
    (machine.withTodo rest).perform_lasts (by simp [renews])
  obtain ⟨active, standing⟩ := effect.standing ordinary
  have pushes := (machine.withTodo rest).perform_pushes apart keeping
  constructor
  case quiet => exact fun index => (lasts index).keeps.gate.quiet (driven.quiet index)
  case drives =>
    intro index driver
    rw [(lasts index).live, (standing index).1]
    exact driven.drives index (active.symm.trans driver)
  case unused =>
    intro index live absent
    rw [(lasts index).installed, (standing index).2]
    refine driven.unused index ((lasts index).live.symm.trans live) ?_
    rw [← Option.not_isSome_iff_eq_none] at absent ⊢
    rwa [(standing index).1] at absent
  case freed =>
    intro index given
    have absent := driven.freed index ((lasts index).live.symm.trans given)
    rw [← Option.not_isSome_iff_eq_none] at absent ⊢
    rwa [(standing index).1]
  case undriven =>
    intro index present
    rw [(standing index).1] at present
    rw [active]
    refine (driven.undriven index present).imp_right (And.imp_right ?_)
    -- The gate is reopened quietly, and the discard comes next.
    rintro ⟨later, reopening | discarding⟩
    · obtain ⟨rfl, shape⟩ := List.cons.inj (todo.symm.trans reopening)
      have left := ((machine.withTodo rest).reopenGate_eq (driven.quiet index)).2
      exact ⟨later, .inr (left.trans shape)⟩
    · obtain ⟨rfl, -⟩ := List.cons.inj (todo.symm.trans discarding)
      cases ordinary
  case ready =>
    intro index block member
    rcases effect.line member with before | new | ⟨mutex, waiter, parked, same⟩
    · exact driven.ready index block before
    · rw [new]
      exact .working (by simp [Action.ordinary])
    · rw [same]
      exact .working (driven.parked mutex waiter parked)
  case parked => exact fun mutex block member => driven.parked mutex block (effect.parks member)
  case place =>
    have working (before : ∀ piece ∈ action :: rest, piece.ordinary = true) :
        Place ((machine.withTodo rest).perform action)
          ((machine.withTodo rest).perform action).todo := by
      obtain ⟨pushed, left, pushes⟩ := pushes
      rw [left]
      exact .working (List.forall_mem_append.mpr ⟨fun piece member => (pushes piece member).1,
        fun piece member => before piece (List.mem_cons_of_mem _ member)⟩)
    have place := todo ▸ driven.place
    cases place with
    | working before => exact working before
    | @engaged index _ driver engaged =>
        rcases engaged.next with before | ⟨pieces, later, rfl, entering, others, behind⟩ | behind
        · exact working before
        · obtain ⟨pushed, left, entered⟩ :=
            (machine.withTodo (pieces ++ later)).entering_pushes entering driver apart
          rw [left, todo_withTodo, ← List.append_assoc]
          exact .engaged (active.trans driver)
            (.entering (List.forall_mem_append.mpr ⟨entered, others⟩) behind)
        · cases behind <;> cases ordinary
    | @closing index entry host later live unlike before =>
        -- A runtime without scheduler never had its gate installed: the timer stays out.
        have absent : (machine.runtime index).scheduler = none := by
          refine Option.not_isSome_iff_eq_none.mp fun present => ?_
          rcases driven.undriven index present with driver | ⟨-, discards⟩
          · exact unlike driver
          · exact undiscarded todo (by simp) (by simp) index discards
        have silent := Gate.silent_of_uninstalled (driven.unused index live absent).1
        have left := congrArg Machine.todo
          ((machine.withTodo (.enroll index entry :: .own host :: later)).closeGate_silent silent)
        change Place _ ((machine.withTodo _).closeGate index).todo
        rw [left]
        exact .enrolling ((lasts index).live.trans live) (by rwa [active]) before
    | @detached index host later idle before =>
        have left := ((machine.withTodo (.discard index :: .own host :: later)).reopenGate_eq
          (driven.quiet index)).2
        change Place _ ((machine.withTodo _).reopenGate index).todo
        rw [left]
        exact .discarding (by simp [active, idle]) before
    | enrolling | asked | discarding => cases ordinary

theorem present_iff (driven : Driven machine) (elsewhere : ∀ index, ¬machine.discards index) :
    (machine.runtime index).scheduler.isSome = true ↔ machine.active = some index :=
  ⟨fun present => (driven.undriven index present).resolve_right fun left => elsewhere index left.2,
    fun driver => (driven.drives index driver).2⟩

theorem of_enroll (driven : Driven machine) {entry : C}
    (todo : machine.todo = .enroll index entry :: rest) :
    (machine.runtime index).live = true ∧ ∃ host later, rest = .own host :: later ∧
      ∀ piece ∈ later, piece.ordinary = true := by
  have place := todo ▸ driven.place
  cases place with
  | engaged driver engaged =>
      cases engaged.behind rfl with
      | enroll ordinary => exact ⟨(driven.drives _ driver).1, _, _, rfl, ordinary⟩
  | working ordinary => cases ordinary _ List.mem_cons_self
  | enrolling live _ ordinary => exact ⟨live, _, _, rfl, ordinary⟩

theorem activates (driven : Driven machine) {entry : C}
    (todo : machine.todo = .enroll index entry :: rest) (idle : machine.active = none)
    {gate : Gate} (starts : (machine.runtime index).gate.start
      (machine.runtime index).config.timerInterval = .ok gate) (log : List LogEvent) :
    Driven (push { (machine.withTodo rest).activated index gate with log }
      [.issue index entry]) := by
  obtain ⟨live, host, later, rfl, ordinary⟩ := driven.of_enroll todo
  have kept := Gate.keeps_start starts
  have runtime (other : Fin n) :
      (push { (machine.withTodo (.own host :: later)).activated index gate with log }
        [.issue index entry]).runtime other = if index = other then
        { machine.runtime index with
          gate, scheduler := some (.start (.main ⟨.own host :: later, machine.code⟩))
          current := .main }
        else machine.runtime other :=
    (machine.withTodo (.own host :: later)).runtime_activated index other gate
  constructor
  case quiet =>
    intro other
    rw [runtime]
    split
    · exact kept.quiet (driven.quiet index)
    · exact driven.quiet other
  case drives =>
    intro other driver
    cases Option.some.inj driver
    rw [runtime, if_pos rfl]
    exact ⟨live, rfl⟩
  case unused =>
    intro other
    rw [runtime]
    split
    · exact nofun
    · exact driven.unused other
  case freed =>
    intro other
    rw [runtime]
    split
    · exact fun given => absurd given (by simp [live])
    · exact driven.freed other
  case undriven =>
    intro other present
    rw [runtime] at present
    split at present
    · rename_i here
      exact .inl (congrArg some here)
    · have driver := (driven.present_iff (undiscarded todo (by simp) (by simp))).mp present
      cases idle.symm.trans driver
  case place => exact .working (List.forall_mem_cons.mpr ⟨rfl, List.forall_mem_cons.mpr
      ⟨rfl, ordinary⟩⟩)
  case ready =>
    intro other block member
    have line : block ∈ ((machine.withTodo (.own host :: later)).activated index gate).readyOn
      other := member
    have before := readyOn_activated _ line
    exact driven.ready other block before
  case parked => exact driven.parked

theorem enrolls (driven : Driven machine) (going : machine.outcome = none) {entry : C}
    (todo : machine.todo = .enroll index entry :: rest) (goes : machine.step.outcome = none) :
    Driven machine.step := by
  obtain ⟨-, host, later, rfl, ordinary⟩ := driven.of_enroll todo
  have elsewhere := undiscarded todo (by simp) (by simp)
  have behind {pushed : List (Action n k C ν)} (fresh : ∀ piece ∈ pushed, piece.ordinary = true) :
      ∀ piece ∈ pushed ++ .own host :: later, piece.ordinary = true :=
    List.forall_mem_append.mpr ⟨fresh, List.forall_mem_cons.mpr ⟨rfl, ordinary⟩⟩
  rw [step_eq going todo] at goes ⊢
  change Driven ((machine.withTodo _).enroll index entry)
  cases (machine.withTodo (.own host :: later)).enroll_cases goes with
  | enrolled _ same | refused _ _ same =>
      rw [same]
      exact driven.redo rfl rfl rfl elsewhere (.working (behind (by simp [Action.ordinary])))
  | activated _ idle starts same =>
      rw [same]
      exact driven.activates todo idle starts _

theorem drops (driven : Driven machine) (going : machine.outcome = none)
    (todo : machine.todo = .dropRuntime index :: rest) : Driven machine.step := by
  have elsewhere := undiscarded todo (by simp) (by simp)
  obtain ⟨host, later, rfl, ordinary⟩ : ∃ host later, rest = .own host :: later ∧
      ∀ piece ∈ later, piece.ordinary = true := by
    have place := todo ▸ driven.place
    cases place with
    | engaged driver engaged => cases engaged.behind rfl
    | working ordinary => cases ordinary _ List.mem_cons_self
    | asked _ _ ordinary => exact ⟨_, _, rfl, ordinary⟩
  rw [step_eq going todo]
  simp only [perform, dropRuntime]
  split
  · rename_i driver
    exact driven.redo rfl rfl rfl elsewhere (.engaged driver (.closing (.deactivate ordinary)))
  · rename_i undriven
    exact driven.redo rfl rfl rfl elsewhere (.discarding undriven ordinary)

theorem of_deactivate (driven : Driven machine)
    (todo : machine.todo = .deactivate index :: rest) : machine.active = some index ∧
      ∃ host later, rest = .reopen index :: .discard index :: .own host :: later ∧
        ∀ piece ∈ later, piece.ordinary = true := by
  have place := todo ▸ driven.place
  cases place with
  | engaged driver engaged =>
      cases engaged.behind rfl with
      | deactivate ordinary => exact ⟨driver, _, _, rfl, ordinary⟩
  | working ordinary => cases ordinary _ List.mem_cons_self

theorem deactivates (driven : Driven machine) (going : machine.outcome = none)
    (todo : machine.todo = .deactivate index :: rest) : Driven machine.step := by
  obtain ⟨driver, host, later, rfl, ordinary⟩ := driven.of_deactivate todo
  have elsewhere := undiscarded todo (by simp) (by simp)
  rw [step_eq going todo]
  have runtime (other : Fin n) :
      ((machine.withTodo (.reopen index :: .discard index :: .own host :: later)).perform
        (.deactivate index)).runtime other = if index = other then
          { machine.runtime index with gate := (machine.runtime index).gate.disarm }
        else machine.runtime other := machine.runtime_setRuntime index other _
  have scheduler (other : Fin n) :
      (((machine.withTodo (.reopen index :: .discard index :: .own host :: later)).perform
        (.deactivate index)).runtime other).scheduler = (machine.runtime other).scheduler := by
    rw [runtime]
    split
    · rename_i here
      exact here ▸ rfl
    · rfl
  constructor
  case quiet =>
    intro other
    rw [runtime]
    split
    · exact driven.quiet index
    · exact driven.quiet other
  case drives => exact fun other driver => nomatch driver
  case unused =>
    intro other
    rw [runtime]
    split
    · exact driven.unused index
    · exact driven.unused other
  case freed =>
    intro other
    rw [runtime]
    split
    · exact driven.freed index
    · exact driven.freed other
  case undriven =>
    intro other present
    rw [scheduler] at present
    cases Option.some.inj (driver.symm.trans ((driven.present_iff elsewhere).mp present))
    exact .inr ⟨rfl, _, .inl rfl⟩
  case place => exact .detached rfl ordinary
  case ready =>
    intro other block member
    rw [readyOn, scheduler] at member
    exact driven.ready other block member
  case parked => exact driven.parked

theorem of_discard (driven : Driven machine) (todo : machine.todo = .discard index :: rest) :
    machine.active ≠ some index ∧ ∃ host later, rest = .own host :: later ∧
      ∀ piece ∈ later, piece.ordinary = true := by
  have place := todo ▸ driven.place
  cases place with
  | engaged driver engaged => cases engaged.behind rfl
  | working ordinary => cases ordinary _ List.mem_cons_self
  | discarding apart ordinary => exact ⟨apart, _, _, rfl, ordinary⟩

theorem idle_of_reopen (driven : Driven machine)
    (todo : machine.todo = .reopen index :: .discard index :: rest) : machine.active = none := by
  have place := todo ▸ driven.place
  cases place with
  | engaged driver engaged =>
      rcases engaged.next with ordinary | ⟨_, _, _, entering, _⟩ | behind
      · cases ordinary (.discard index) (List.mem_cons_of_mem _ List.mem_cons_self)
      · exact entering.elim
      · cases behind
  | working ordinary =>
      cases ordinary (.discard index) (List.mem_cons_of_mem _ List.mem_cons_self)
  | detached idle => exact idle

theorem discards (driven : Driven machine) (going : machine.outcome = none)
    (todo : machine.todo = .discard index :: rest) : Driven machine.step := by
  obtain ⟨apart, host, later, rfl, ordinary⟩ := driven.of_discard todo
  rw [step_eq going todo]
  obtain ⟨log, freed⟩ : ∃ log, (machine.withTodo (.own host :: later)).discard index =
      push { (machine.withTodo (.own host :: later)).freed index with log } [.reply .done] :=
    ⟨_, discard_eq ..⟩
  simp only [perform]
  rw [freed]
  have runtime (other : Fin n) :
      (push { (machine.withTodo (.own host :: later)).freed index with log }
        [.reply .done]).runtime other =
        if index = other then { machine.runtime index with scheduler := none, live := false }
        else machine.runtime other := machine.runtime_setRuntime index other _
  constructor
  case quiet =>
    intro other
    rw [runtime]
    split
    · exact driven.quiet index
    · exact driven.quiet other
  case drives =>
    intro other driver
    have unlike : index ≠ other := fun here => apart (here ▸ driver)
    rw [runtime, if_neg unlike]
    exact driven.drives other driver
  case unused =>
    intro other
    rw [runtime]
    split
    · intro live
      cases live
    · exact driven.unused other
  case freed =>
    intro other
    rw [runtime]
    split
    · exact fun _ => rfl
    · exact driven.freed other
  case undriven =>
    intro other present
    rw [runtime] at present
    split at present
    · cases present
    · rename_i unlike
      obtain active | ⟨-, later, left | left⟩ := driven.undriven other present
      · exact .inl active
      · cases todo.symm.trans left
      · exact absurd (Action.discard.inj (List.cons.inj (todo.symm.trans left)).1) unlike
  case place =>
    exact .working (List.forall_mem_cons.mpr ⟨rfl, List.forall_mem_cons.mpr ⟨rfl, ordinary⟩⟩)
  case ready =>
    intro other block member
    exact driven.ready other block ((machine.withTodo _).readyOn_freed member)
  case parked => exact driven.parked

theorem turns (driven : Driven machine) (going : machine.outcome = none)
    (todo : machine.todo = .schedule index parking :: rest)
    (goes : machine.step.outcome = none) : Driven machine.step := by
  have elsewhere := undiscarded todo (by simp) (by simp)
  have place := (todo ▸ driven.place).of_schedule
  rw [step_eq going todo] at goes ⊢
  simp only [perform] at goes ⊢
  cases (machine.withTodo rest).schedule_cases goes with
  | idle absent same =>
      rw [same]
      refine driven.redo rfl rfl rfl elsewhere ?_
      rcases place with ordinary | ⟨driver, active, engaged, -⟩
      · exact .working ordinary
      · exact .engaged active engaged
  | @turns scheduler rotation present decides scheduled others resumes =>
      have driver : machine.active = some index :=
        (driven.present_iff elsewhere).mp (by rw [← runtime_withTodo _ _ rest, present]; rfl)
      have engaged : Engaged index rest ∧
          ∀ mutex, parking = some mutex → ∀ piece ∈ rest, piece.ordinary = true := by
        rcases place with ordinary | ⟨other, active, engaged, rfl⟩
        · exact ⟨.working ordinary, fun _ _ => ordinary⟩
        · cases Option.some.inj (driver.symm.trans active)
          refine ⟨engaged, fun mutex parks => ?_⟩
          cases parks
      have turn := Rescheduled.turns present decides scheduled others resumes
      have lasts (other : Fin n) :=
        (machine.withTodo rest).lasts_schedule other index parking
      have active := scheduled.active.trans driver
      have unlike {other : Fin n} (undriven : machine.active ≠ some other) : other ≠ index :=
        fun here => undriven (here ▸ driver)
      constructor
      case quiet => exact fun other => (lasts other).keeps.gate.quiet (driven.quiet other)
      case drives =>
        intro other driven'
        cases Option.some.inj (active.symm.trans driven')
        exact ⟨(lasts index).live.trans (driven.drives index driver).1, by
          rw [scheduled.scheduler]; rfl⟩
      case unused =>
        intro other live absent
        have unlike : other ≠ index := by
          rintro rfl
          cases scheduled.scheduler.symm.trans absent
        rw [others other unlike] at live absent ⊢
        exact driven.unused other live absent
      case freed =>
        intro other given
        have unlike : other ≠ index := by
          rintro rfl
          cases given.symm.trans ((lasts other).live.trans (driven.drives other driver).1)
        rw [others other unlike] at given ⊢
        exact driven.freed other given
      case undriven =>
        intro other present
        by_cases here : other = index
        · exact .inl (here ▸ active)
        · rw [others other here] at present
          have driven' := (driven.present_iff elsewhere).mp present
          exact .inl (scheduled.active.trans driven')
      case place =>
        refine .engaged active ?_
        -- Whoever runs now was engaged before, as the running thread or in line.
        rcases turn.resumed with ⟨same, -⟩ | ⟨block, ready, same, -⟩
        · exact same ▸ engaged.1
        · exact same ▸ driven.ready index block ready
      case ready =>
        intro other block member
        by_cases here : other = index
        · subst here
          rw [readyOn_eq scheduled.scheduler] at member
          rcases decides.seated (List.mem_cons_of_mem _ member) with before | filed
          · exact driven.ready other block (readyOn_eq present ▸ before)
          · rw [filed.context]
            exact engaged.1
        · rw [readyOn, others other here] at member
          exact driven.ready other block member
      case parked =>
        intro mutex block member
        cases parking with
        | none =>
            rw [parkedOn, scheduled.mutexes] at member
            exact driven.parked mutex block member
        | some parking =>
            rcases scheduled.parked decides member with before | filed
            · exact driven.parked mutex block before
            · rw [filed.context]
              exact engaged.2 parking rfl

theorem step (driven : Driven machine) (going : machine.outcome = none)
    (library : machine.inOwnCode = false) (goes : machine.step.outcome = none) :
    Driven machine.step := by
  cases todo : machine.todo with
  | nil =>
      rwa [Machine.step, going, todo]
  | cons action rest =>
      rw [inOwnCode_eq todo] at library
      cases action with
      | schedule index parking => exact driven.turns going todo goes
      | enroll index entry => exact driven.enrolls going todo goes
      | dropRuntime index => exact driven.drops going todo
      | deactivate index => exact driven.deactivates going todo
      | discard index => exact driven.discards going todo
      | _ => exact driven.works going todo rfl (by simp) goes

theorem start {runtimes : Vector (Runtime n k C ν) n}
    (fresh : ∀ index, ∃ config kind plan, runtimes.get index = .new config (.new kind plan))
    (code : C) : Driven (Machine.start runtimes code : Machine n k C ν) := by
  have absent (index : Fin n) : (runtimes.get index).scheduler = none := by
    obtain ⟨config, kind, plan, same⟩ := fresh index
    rw [same]
    rfl
  constructor
  case quiet | unused =>
    intro index
    obtain ⟨config, kind, plan, same⟩ := fresh index
    simp [same, Runtime.new, Gate.new]
  case drives =>
    intro index driver
    cases driver
  case freed => exact fun index _ => absent index
  case undriven => simp [absent]
  case place => exact .working (by simp [Machine.start, Action.ordinary])
  case ready => simp [readyOn, absent]
  case parked => simp [parkedOn, Mutex.new, WaitQueue.empty]

end Machine.Driven

theorem Course.driven (course : Course past machine) (going : machine.outcome = none) :
    Driven machine := by
  induction course with
  | start fresh code => exact .start fresh code
  | @move past machine move course before suits ih =>
      by_cases library : move = .work
      · subst library
        exact (ih before).step before suits going
      · exact (ih before).of_own suits library going

end UserThreads
