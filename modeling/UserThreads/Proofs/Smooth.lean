import UserThreads.Proofs.Exclusion

/-!
Calls of lock and unlock that go well: on a usable mutex, and if only its owner unlocks
it, none of their work reports a failure, and they come back with success.
-/

namespace UserThreads

variable {n k : Nat} {C ν : Type}

/-- The pieces of work by which a call fails. -/
def Action.fails : Action n k C ν → Bool
  | .reply .done => false
  | .reply _ | .refuse .. | .refuseUnlock .. => true
  | _ => false

/-- Nothing is left to do by which a call fails. -/
def Smooth (todo : List (Action n k C ν)) : Prop := ∀ action ∈ todo, action.fails = false

/-- The calls by which a thread takes a mutex and gives it back. -/
inductive Call.Uses (home : Fin n) (mutex : Fin k) : Call n k C ν → Prop
  | lock : Uses home mutex (.lock home mutex)
  | unlock : Uses home mutex (.unlock home mutex)

variable {home : Fin n} {mutex : Fin k} {me : ThreadId} {past : List (Moment n k C ν)}
  {machine after : Machine n k C ν} {action : Action n k C ν} {rest : List (Action n k C ν)}
  {request : Call n k C ν}

theorem Smooth.own (host : Option (Fin n)) : Smooth ([.own host] : List (Action n k C ν)) := by
  simp [Smooth, Action.fails]

theorem Smooth.append {pushed : List (Action n k C ν)} (first : Smooth pushed)
    (second : Smooth rest) : Smooth (pushed ++ rest) := by
  intro action member
  rcases List.mem_append.mp member with member | member
  · exact first action member
  · exact second action member

theorem Smooth.tail (smooth : Smooth (action :: rest)) : Smooth rest :=
  fun other member => smooth other (List.mem_cons_of_mem _ member)

theorem Smooth.of_interrupts {pushed : List (Action n k C ν)}
    (interrupts : ∀ action ∈ pushed, action.interrupts = true) : Smooth pushed := by
  intro action member
  have interrupts := interrupts action member
  cases action with
  | reply | refuse | refuseUnlock => cases interrupts
  | _ => rfl

theorem Action.aside_of_movesGate (gate : action.movesGate = true) :
    action.concerns mutex = false := by
  cases action <;> first | rfl | cases gate

theorem pending_interrupted {pushed : List (Action n k C ν)}
    (interrupts : ∀ action ∈ pushed, action.interrupts = true) :
    pending? mutex (pushed ++ rest) = pending? mutex rest := by
  have none : pending? mutex pushed = none := by
    refine List.find?_eq_none.mpr fun action member concerned => ?_
    have interrupts := interrupts action member
    cases action with
    | schedule index parking => cases parking <;> simp [Action.concerns, Action.interrupts] at *
    | close | closed | reopened | timer => cases concerned
    | _ => cases interrupts
  rw [pending?, List.find?_append, ← pending?, none, Option.none_or, pending?]

/-- A thread has nothing to do to a mutex that its call is not about. -/
theorem stage_idle {errand : Option (Move n k C ν)} {closed : Bool} {todo : List (Action n k C ν)}
    (stage : Stage home me errand closed todo)
    (idle : ∀ request, errand = some (.ask request) → pending? mutex request.actions = none) :
    pending? mutex todo = none := by
  cases stage with
  | initial | own | begin | beginning | enter => rfl
  | @guarded move work rest _ _ asked doing way =>
      have through : pending? mutex (work ++ rest) = none := by
        rw [pending_append (pending_behind mutex asked)]
        cases doing <;>
          first
          | rfl
          | simpa [pending?, Action.concerns, Call.actions] using idle _ rfl
      cases way with
      | through => exact through
      | close | timer | timerCloses | timerSchedules | closed =>
          simpa [pending?, Action.concerns] using through
  | piece asked doing =>
      rw [pending_append (pending_behind mutex asked)]
      cases doing <;>
        first
        | rfl
        | simpa [pending?, Action.concerns, Call.actions] using idle _ rfl

/-- A piece of work on the way to the answer of a call of unlock. -/
theorem stage_unlocks {closed : Bool}
    (stage : Stage home me (some (.ask (.unlock home mutex))) closed (action :: rest))
    (library : action.isOwn = false) (apart : ∀ parking, action ≠ .schedule home parking)
    (elsewhere : action.concerns mutex = false) :
    (∃ answer host, action = .reply answer ∧ rest = [.own host]) ∨ action = .refuseUnlock home me ∨
      action.movesGate = true ∧ ∃ first after, rest = first :: after ∧ first.isOwn = false := by
  generalize shape : action :: rest = todo at stage
  cases stage with
  | initial | own => cases shape; cases library
  | guarded asked doing way =>
      obtain ⟨first, after, begins, foreign⟩ := doing.foreign
      cases way with
      | close | closed =>
          cases shape
          exact .inr (.inr ⟨rfl, first, _, by rw [begins]; rfl, foreign⟩)
      | timer | timerCloses => cases shape; exact .inr (.inr ⟨rfl, _, _, rfl, rfl⟩)
      | timerSchedules => cases shape; exact absurd rfl (apart _)
      | through =>
          cases doing with
          | handOn => cases shape; exact absurd elsewhere (by simp [Action.concerns])
          | refuseUnlock => cases shape; exact .inr (.inl rfl)
  | piece asked doing =>
      cases doing with
      | finishing => cases shape; exact .inr (.inr ⟨rfl, _, _, rfl, rfl⟩)
      | replying => cases asked <;> cases shape <;> exact .inl ⟨_, _, rfl, rfl⟩
      | unlock => cases shape; exact absurd elsewhere (by simp [Action.concerns])

theorem stage_uses {closed : Bool}
    (stage : Stage home me (some (.ask request)) closed (action :: rest))
    (uses : request.Uses home mutex) (library : action.isOwn = false)
    (apart : ∀ parking, action ≠ .schedule home parking)
    (elsewhere : action.concerns mutex = false) (unfailing : action.fails = false) :
    (∃ host, action = .reply .done ∧ rest = [.own host]) ∨
      action.movesGate = true ∧ ∃ first after, rest = first :: after ∧ first.isOwn = false := by
  have done {answer : Reply ν} (replies : action = .reply answer) : action = .reply .done := by
    subst replies
    cases answer <;> first | rfl | cases unfailing
  cases uses with
  | lock =>
      rcases stage_returns stage (.inl rfl) library apart elsewhere with
        ⟨answer, host, replies, left⟩ | ⟨operation, status, rfl, -⟩ | passes
      · exact .inl ⟨host, done replies, left⟩
      · cases unfailing
      · exact .inr passes
  | unlock =>
      rcases stage_unlocks stage library apart elsewhere with
        ⟨answer, host, replies, left⟩ | rfl | passes
      · exact .inl ⟨host, done replies, left⟩
      · cases unfailing
      · exact .inr passes

/-- A piece of work, other than a decision, for a call of lock or unlock that goes well. -/
inductive GoesWell (home : Fin n) (mutex : Fin k) (machine after : Machine n k C ν)
    (request : Call n k C ν) : Prop
  | replies {host : Option (Fin n)} (todo : machine.todo = [.reply .done, .own host])
      (cells : after.cells mutex = machine.cells mutex) (left : after.todo = [.own host])
      (answered : after.answer = .done) : GoesWell home mutex machine after request
  | passes {action first : Action n k C ν} {rest pushed : List (Action n k C ν)}
      (todo : machine.todo = action :: first :: rest) (gate : action.movesGate = true)
      (foreign : first.isOwn = false) (cells : after.cells mutex = machine.cells mutex)
      (interrupts : ∀ action ∈ pushed, action.interrupts = true)
      (left : after.todo = pushed ++ first :: rest) : GoesWell home mutex machine after request
  | handles {action : Action n k C ν} {host : Option (Fin n)}
      {cells : Mutex (Context n k C ν) ν} {pushed : List (Action n k C ν)}
      (todo : machine.todo = [action, .own host]) (concerned : action.concerns mutex = true)
      (serves : Serves home mutex (machine.thread home) (.ask request) action)
      (handles : Handles home mutex (machine.thread home) (machine.cells mutex) action cells pushed)
      (becomes : after.cells mutex = cells) (left : after.todo = pushed ++ [.own host]) :
      GoesWell home mutex machine after request

theorem Sound.goes_well (sound : Sound home past machine) (going : machine.outcome = none)
    (library : machine.inOwnCode = false) (goes : machine.step.outcome = none)
    (working : ∀ parking rest, machine.todo ≠ .schedule home parking :: rest)
    (errand : errand? home (machine.thread home) past = some (.ask request))
    (uses : request.Uses home mutex) (smooth : Smooth machine.todo) :
    GoesWell home mutex machine machine.step request := by
  cases sound.works going library goes mutex with
  | decides todo => exact absurd todo (working _ _)
  | @handles action rest _ _ _ todo concerned errand' serves asked handles becomes left stays =>
      cases errand'.symm.trans errand
      obtain ⟨host, rfl⟩ : ∃ host, rest = [.own host] := by
        cases asked <;> exact ⟨_, rfl⟩
      exact .handles todo concerned serves handles becomes left
  | @aside action rest todo apart elsewhere cells pending stays =>
      have foreign : action.isOwn = false := by simpa only [Machine.inOwnCode, todo] using library
      have unfailing : action.fails = false := smooth action (todo ▸ List.mem_cons_self)
      have step := Machine.step_eq going todo
      rcases stage_uses (errand ▸ todo ▸ sound.stage) uses foreign apart elsewhere unfailing with
        ⟨host, rfl, rfl⟩ | ⟨gate, first, others, rfl, strange⟩
      · exact .replies todo cells (by rw [step]; rfl) (by rw [step]; rfl)
      · obtain ⟨pushed, left, interrupts⟩ := (machine.withTodo (first :: others)).interrupted gate
        rw [← step] at left
        exact .passes todo gate strange cells interrupts left

@[simp] theorem Mutex.owner_release {κ : Type} (cells : Mutex κ ν) :
    cells.release.owner? = none := by
  simp [release, owner?]

theorem Mutex.owner_setOwner {κ : Type} (cells : Mutex κ ν) (real : me.number ≠ noOwner) :
    (cells.setOwner me).owner? = some me := by
  simp [setOwner, owner?, real]

namespace GoesWell

theorem smooth (well : GoesWell home mutex machine after request)
    (uses : request.Uses home mutex) (smooth : Smooth machine.todo)
    (usable : (machine.cells mutex).status = .initialized)
    (owned : request = .unlock home mutex →
      pending? mutex machine.todo = some (.unlock home mutex) →
        (machine.cells mutex).owner? = some (machine.thread home)) : Smooth after.todo := by
  cases well with
  | replies todo cells left => exact left ▸ .own _
  | passes todo gate foreign cells interrupts left =>
      rw [todo] at smooth
      exact left ▸ .append (.of_interrupts interrupts) smooth.tail
  | handles todo concerned serves handles becomes left =>
      rw [left]
      refine .append ?_ (.own _)
      have pending := todo ▸ pending_head concerned
      cases handles with
      | lockRefused unusable | wokenRefused unusable | destroyRefused unusable =>
          exact absurd usable unusable
      | unlockRefused other =>
          cases serves
          exact absurd (owned rfl pending) other
      | initRefused => cases uses <;> cases serves
      | _ => simp [Smooth, Action.fails]

theorem usable (well : GoesWell home mutex machine after request)
    (uses : request.Uses home mutex) (usable : (machine.cells mutex).status = .initialized) :
    (after.cells mutex).status = .initialized := by
  cases well with
  | replies todo cells | passes todo gate foreign cells => exact cells ▸ usable
  | handles todo concerned serves handles becomes left =>
      rw [becomes]
      cases uses with
      | lock => cases serves <;> cases handles <;> exact usable
      | unlock => cases serves <;> cases handles <;> exact usable

/-- The owner changes to the running thread or away from it. -/
theorem owner_other (well : GoesWell home mutex machine after request)
    (uses : request.Uses home mutex)
    (marked : Marked (machine.cells mutex) (machine.thread home) (pending? mutex machine.todo))
    (real : (machine.thread home).number ≠ Mutex.noOwner) {thread : ThreadId}
    (other : thread ≠ machine.thread home) :
    (after.cells mutex).owner? = some thread ↔ (machine.cells mutex).owner? = some thread := by
  cases well with
  | replies todo cells | passes todo gate foreign cells => rw [cells]
  | handles todo concerned serves handles becomes left =>
      rw [becomes]
      rw [todo, pending_head concerned] at marked
      cases handles with
      | acquire =>
          rw [Mutex.owner_setOwner _ real, marked.2]
          simp [other.symm]
      | unlock owned | unlockHands owned =>
          rw [Mutex.owner_release, owned]
          simp [other.symm]
      | init | drain | destroyOwned | destroy | releaseDestroyed | drop =>
          cases uses <;> cases serves
      | _ => rfl

/-- The thread that calls for the mutex owns it once its success is settled. -/
theorem lock_owner (well : GoesWell home mutex machine after (.lock home mutex))
    (real : (machine.thread home).number ≠ Mutex.noOwner)
    (before : (machine.cells mutex).owner? = some (machine.thread home) ↔
      .reply .done ∈ machine.todo) :
    (after.cells mutex).owner? = some (machine.thread home) ↔
      (∃ host, after.todo = [.own host]) ∨ .reply .done ∈ after.todo := by
  cases well with
  | replies todo cells left =>
      rw [cells, before, todo, left]
      simp
  | @passes action first rest pushed todo gate foreign cells interrupts left =>
      have head : action ≠ .reply .done := by
        rintro rfl
        cases gate
      have strange : .reply .done ∉ pushed := fun member => nomatch interrupts _ member
      have away (host : Option (Fin n)) : pushed ++ first :: rest ≠ [.own host] := by
        intro same
        cases pushed with
        | nil =>
            cases same
            cases foreign
        | cons next others =>
            cases (List.cons.inj same).1
            cases interrupts _ List.mem_cons_self
      rw [cells, before, todo, left]
      simp [head.symm, strange, away]
  | handles todo concerned serves handles becomes left =>
      rw [todo] at before
      rw [becomes, left]
      cases serves with
      | acquire =>
          cases handles
          simp [Mutex.owner_setOwner _ real]
      | lock =>
          cases handles with
          | lockOwned usable owned => exact absurd (before.mp owned) (by simp)
          | _ => simpa using before
      | claim | claimAgain | woken => cases handles <;> simpa using before

/-- The thread that gives the mutex back owns it until the first piece of work. -/
theorem unlock_owner (well : GoesWell home mutex machine after (.unlock home mutex))
    (before : (machine.cells mutex).owner? = some (machine.thread home) ↔
      pending? mutex machine.todo = some (.unlock home mutex)) :
    (after.cells mutex).owner? = some (machine.thread home) ↔
      pending? mutex after.todo = some (.unlock home mutex) := by
  cases well with
  | replies todo cells left =>
      rw [cells, before, todo, left]
      simp [pending?, Action.concerns]
  | @passes action first rest pushed todo gate foreign cells interrupts left =>
      rw [cells, before, todo, left, pending_aside (Action.aside_of_movesGate gate),
        pending_interrupted interrupts]
  | handles todo concerned serves handles becomes left =>
      rw [todo, pending_head concerned] at before
      rw [becomes, left]
      cases serves with
      | unlock =>
          cases handles with
          | unlockRefused other => exact absurd (before.mpr rfl) other
          | unlock | unlockHands => simp [pending?, Action.concerns]
      | handOn => cases handles <;> simpa [pending?, Action.concerns] using before

theorem returns (well : GoesWell home mutex machine after request)
    (back : after.inOwnCode = true) : after.answer = .done := by
  have away {first : Action n k C ν} {others : List (Action n k C ν)}
      (left : after.todo = first :: others) (foreign : first.isOwn = false) : False := by
    rw [Machine.inOwnCode, left] at back
    exact absurd (foreign.symm.trans back) (by decide)
  cases well with
  | replies todo cells left answered => exact answered
  | @passes action first rest pushed todo gate foreign cells interrupts left =>
      cases pushed with
      | nil => exact (away left foreign).elim
      | cons next others =>
          have interrupts := interrupts next List.mem_cons_self
          refine (away left ?_).elim
          cases next <;> first | rfl | cases interrupts
  | handles todo concerned serves handles becomes left =>
      cases handles <;> exact (away left rfl).elim

end GoesWell

end UserThreads
