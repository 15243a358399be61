import UserThreads.Proofs.Carrying
import UserThreads.Proofs.Gating
import UserThreads.Proofs.Numbering

/-!
Destructors of what entries capture. A creation that is refused drops its entry on the spot,
and with it the values that the entry has captured: their destructors run within the creation,
with the gate closed and the scheduler lent. As long as they stay away from the gate it is kept
as it is without them.
-/

namespace UserThreads

variable {n k : Nat} {C ν : Type}

/-- The size in bytes from which on nothing can be allocated. -/
def Config.allocationLimit : UInt64 := 9223372036854775808

/-- Own code comes to an end by this move. -/
def Move.ends : Move n k C ν → Bool
  | .leave _ | .panic => true
  | _ => false

/-- The pieces of calls that are done without passing the gate. -/
def Action.unguarded : Action n k C ν → Bool
  | .reply _ | .readCurrent _ | .initMutex _ | .lock .. | .claim .. | .acquire .. | .unlock ..
  | .destroy .. | .drain .. | .releaseDestroyed .. | .dropMutex _ => true
  | _ => false

namespace Machine

/-- The code of a destructor runs, or a call of it: own code stands above other work. -/
def inDestructor (machine : Machine n k C ν) : Bool := machine.todo.dropLast.any Action.isOwn

/-- Does the next piece of work while the scheduler of `home` is lent. -/
def stepLent (machine : Machine n k C ν) (home : Fin n) : Machine n k C ν :=
  match machine.todo with
  | [] => machine
  | action :: rest =>
      match (Procedure.carryOut action).run ⟨machine.withTodo rest, [home], [], []⟩ with
      | .ok (_, state) => state.machine
      | .error fault => (machine.withTodo rest).abort fault

/-- The machine after a move within a destructor. -/
def makeLent (machine : Machine n k C ν) (home : Fin n) : Move n k C ν → Machine n k C ν
  | .work => machine.stepLent home
  | move => machine.make move

end Machine

/-- The last move was the piece of work by which a creation is refused, so that its entry is
dropped now. No other runtime is active where all threads share one, so it is always the piece
that gives the id. -/
def DropsEntry (home : Fin n) (past : List (Moment n k C ν)) (machine : Machine n k C ν) : Prop :=
  ∃ before older entry failure rest, past = ⟨before, .work⟩ :: older ∧
    before.todo = .issue home entry :: rest ∧ machine = before.step ∧
      machine.todo = .reopen home :: .reply (.failed failure) :: rest

/-- The runs of programs whose threads share the runtime `home` with the settings `config`, and
whose entries capture values with destructors. -/
inductive DestructorRun (home : Fin n) (config : Config) :
    List (Moment n k C ν) → Machine n k C ν → Prop
  | start {runtimes : Vector (Runtime n k C ν) n} {kind : GateKind} {plan : Nat → Bool}
      (fresh : runtimes.get home = .new config (.new kind plan)) (code : C) :
      DestructorRun home config [] (.start runtimes code)
  | move {past : List (Moment n k C ν)} {machine : Machine n k C ν} {move : Move n k C ν}
      (run : DestructorRun home config past machine) (going : machine.outcome = none)
      (outside : machine.inDestructor = false)
      (allocates : ∀ entry rest, machine.todo = .issue home entry :: rest →
        config.stackSize < Config.allocationLimit)
      (fits : move.Fits home machine) :
      DestructorRun home config (⟨machine, move⟩ :: past) (machine.make move)
  /-- A stack too large for any allocation is a panic within the creation, behind which own
  code may go on. -/
  | overflow {past : List (Moment n k C ν)} {machine : Machine n k C ν} {entry : C}
      {rest : List (Action n k C ν)} (run : DestructorRun home config past machine)
      (going : machine.outcome = none) (todo : machine.todo = .issue home entry :: rest)
      (huge : ¬config.stackSize < Config.allocationLimit) :
      DestructorRun home config (⟨machine, .panic⟩ :: past) (machine.withTodo rest)
  | enter {past : List (Moment n k C ν)} {machine : Machine n k C ν} {host : Option (Fin n)}
      (run : DestructorRun home config past machine) (going : machine.outcome = none)
      (drops : DropsEntry home past machine) :
      DestructorRun home config past (machine.push [.own host])
  | within {past : List (Moment n k C ν)} {machine : Machine n k C ν} {move : Move n k C ν}
      (run : DestructorRun home config past machine) (going : machine.outcome = none)
      (inside : machine.inDestructor = true) (stays : move.ends = false)
      (fits : move.Fits home machine) :
      DestructorRun home config (⟨machine, move⟩ :: past) (machine.makeLent home move)
  /-- A destructor has come to its end, and the creation goes on. -/
  | leave {past : List (Moment n k C ν)} {machine : Machine n k C ν} {host : Option (Fin n)}
      {first : Action n k C ν} {rest : List (Action n k C ν)}
      (run : DestructorRun home config past machine) (going : machine.outcome = none)
      (todo : machine.todo = .own host :: first :: rest) :
      DestructorRun home config (⟨machine, .think machine.code⟩ :: past)
        (machine.withTodo (first :: rest))
  /-- A destructor panics, and own code goes on behind the creation. -/
  | escape {past : List (Moment n k C ν)} {machine : Machine n k C ν} {host : Option (Fin n)}
      {first second : Action n k C ν} {rest : List (Action n k C ν)}
      (run : DestructorRun home config past machine) (going : machine.outcome = none)
      (todo : machine.todo = .own host :: first :: second :: rest) :
      DestructorRun home config (⟨machine, .panic⟩ :: past) (machine.withTodo rest)

/-- Destructors neither pass the gate, in calls of theirs, nor panic. -/
def QuietDestructors (past : List (Moment n k C ν)) : Prop :=
  ∀ moment ∈ past, moment.machine.inDestructor = true →
    moment.leaves? = none ∧ moment.move ≠ .panic

variable {home : Fin n} {config : Config} {past : List (Moment n k C ν)}
  {machine : Machine n k C ν}

section stages

variable {me : ThreadId} {errand : Option (Move n k C ν)} {closed : Bool}
  {move : Move n k C ν} {work rest todo : List (Action n k C ν)}

theorem Guarded.all_foreign (doing : Guarded home me move work) :
    ∀ action ∈ work, action.isOwn = false := by
  cases doing <;> simp [Action.isOwn]

theorem Piece.all_foreign (doing : Piece home me move closed work) :
    ∀ action ∈ work, action.isOwn = false := by
  cases doing <;> simp [Action.isOwn]

theorem Entering.ahead (way : Entering home rest closed todo) :
    ∃ ahead, todo = ahead ++ rest ∧ ∀ action ∈ ahead, action.isOwn = false := by
  cases way with
  | close => exact ⟨[.close home], rfl, by simp [Action.isOwn]⟩
  | timer => exact ⟨[.timer, .closed home], rfl, by simp [Action.isOwn]⟩
  | timerCloses =>
      exact ⟨[.close home, .schedule home none, .closed home], rfl, by simp [Action.isOwn]⟩
  | timerSchedules => exact ⟨[.schedule home none, .closed home], rfl, by simp [Action.isOwn]⟩
  | closed => exact ⟨[.closed home], rfl, by simp [Action.isOwn]⟩
  | through => exact ⟨[], rfl, by simp⟩

theorem Errand.outside (asked : Errand home move rest)
    (foreign : ∀ action ∈ work, action.isOwn = false) :
    (work ++ rest).dropLast.any Action.isOwn = false := by
  refine List.any_eq_false.mpr fun action member => ?_
  have ahead : action ∈ work := by
    cases asked with
    | initial | thread => simpa using member
    | leave => exact (List.dropLast_sublist work).subset (by simpa using member)
  simp [foreign action ahead]

/-- Threads that run no destructor have own code left only at the end. -/
theorem stage_outside (stage : Stage home me errand closed todo) :
    todo.dropLast.any Action.isOwn = false := by
  cases stage with
  | initial | own | begin | beginning | enter => rfl
  | guarded asked doing way =>
      obtain ⟨ahead, rfl, foreign⟩ := way.ahead
      rw [← List.append_assoc]
      exact asked.outside fun action member =>
        (List.mem_append.mp member).elim (foreign action) (doing.all_foreign action)
  | piece asked doing => exact asked.outside doing.all_foreign

/-- The way out of a creation fits every call, and the gate is closed there. -/
theorem stage_refused {failure : Failure}
    (stage : Stage home me errand closed (.reopen home :: .reply (.failed failure) :: rest)) :
    closed = true ∧ ∀ request : Call n k C ν,
      Stage home me (some (.ask request)) true
        (.reopen home :: .reply (.failed failure) :: rest) := by
  generalize shape : Action.reopen home :: .reply (.failed failure) :: rest = todo at stage
  cases stage with
  | initial | own | begin | beginning | enter => cases shape
  | guarded asked doing way =>
      cases way with
      | through => cases doing <;> cases shape
      | _ => cases shape
  | piece asked doing =>
      cases doing <;> cases shape
      cases asked with
      | initial => exact ⟨rfl, fun request => .piece .initial .finishing⟩
      | thread => exact ⟨rfl, fun request => .piece .thread .finishing⟩

end stages

theorem Machine.inside_of_todo {work : List (Action n k C ν)} {host : Option (Fin n)}
    {first : Action n k C ν} {rest : List (Action n k C ν)}
    (todo : machine.todo = work ++ .own host :: first :: rest) : machine.inDestructor = true := by
  rw [inDestructor, todo, List.dropLast_append_of_ne_nil (by simp), List.any_append,
    List.dropLast_cons_of_ne_nil (by simp)]
  simp [Action.isOwn]

theorem Sound.outside (sound : Sound home past machine) : machine.inDestructor = false :=
  stage_outside sound.stage

/-- What a destructor that stays away from the gate has left to do of a call. -/
inductive Unguarded : List (Action n k C ν) → Prop
  | none : Unguarded []
  | piece {action : Action n k C ν} (free : action.unguarded = true) : Unguarded [action]
  /-- The gate is what comes next. -/
  | closing {index : Fin n} {work : List (Action n k C ν)} : Unguarded (.close index :: work)

section unguarded

variable {action : Action n k C ν} {rest work : List (Action n k C ν)}

theorem Action.foreign_of_unguarded (free : action.unguarded = true) : action.isOwn = false := by
  cases action <;> first | rfl | cases free

theorem Action.still_of_unguarded (free : action.unguarded = true) :
    action.movesGate = false := by
  cases action <;> first | rfl | cases free

theorem Action.keeps_of_unguarded (free : action.unguarded = true) :
    action.keepsQueues = true ∨ ∃ mutex, action = .dropMutex mutex := by
  cases action with
  | dropMutex mutex => exact .inr ⟨mutex, rfl⟩
  | _ => first | exact .inl rfl | cases free

theorem Unguarded.actions {request : Call n k C ν} (keeps : request.KeepsTo home) :
    Unguarded request.actions := by
  cases request with
  | dropRuntime => exact keeps.elim
  | current | init | lock | unlock | destroy | dropMutex => exact .piece rfl
  | _ => exact .closing

theorem Unguarded.nil_of_own {host : Option (Fin n)} (doing : Unguarded work)
    (own : machine.inOwnCode = true) (todo : machine.todo = work ++ .own host :: rest) :
    work = [] := by
  cases doing with
  | none => rfl
  | piece free =>
      simp [Machine.inOwnCode, todo, Action.foreign_of_unguarded free] at own
  | closing => simp [Machine.inOwnCode, todo, Action.isOwn] at own

/-- An unguarded piece leads to the next one, to the gate, or back to own code. -/
theorem Machine.perform_unguarded (machine : Machine n k C ν) (free : action.unguarded = true) :
    (machine.perform action).outcome = machine.outcome ∧
      ∃ pushed, (machine.perform action).todo = pushed ++ machine.todo ∧ Unguarded pushed := by
  cases action with
  | reply | readCurrent => exact ⟨rfl, [], rfl, .none⟩
  | initMutex mutex =>
      simp only [perform, initMutex]
      split <;> exact ⟨rfl, _, rfl, .piece rfl⟩
  | lock index mutex =>
      simp only [perform, lock, refuseUse]
      split
      · split <;> exact ⟨rfl, _, rfl, .piece rfl⟩
      · exact ⟨rfl, _, rfl, .closing⟩
  | claim index mutex me =>
      simp only [perform, claim]
      split
      · exact ⟨rfl, _, rfl, .piece rfl⟩
      · exact ⟨rfl, _, rfl, .closing⟩
  | acquire => exact ⟨rfl, _, rfl, .piece rfl⟩
  | unlock index mutex =>
      simp only [perform, unlock]
      split
      · split
        · exact ⟨rfl, _, rfl, .piece rfl⟩
        · exact ⟨rfl, _, rfl, .closing⟩
      · exact ⟨rfl, _, rfl, .closing⟩
  | destroy index mutex =>
      simp only [perform, destroy, refuseUse]
      split
      · split <;> exact ⟨rfl, _, rfl, .piece rfl⟩
      · exact ⟨rfl, _, rfl, .closing⟩
  | drain index mutex =>
      simp only [perform, drain]
      split
      · exact ⟨rfl, _, rfl, .piece rfl⟩
      · exact ⟨rfl, _, rfl, .closing⟩
  | releaseDestroyed => exact ⟨rfl, _, rfl, .closing⟩
  | dropMutex mutex =>
      simp only [perform, dropMutex]
      split <;> exact ⟨rfl, _, rfl, .piece rfl⟩
  | _ => cases free

/-- An unguarded piece uses nothing that is lent. -/
theorem Machine.stepLent_eq (going : machine.outcome = none)
    (todo : machine.todo = action :: rest) (free : action.unguarded = true) :
    machine.stepLent home = (machine.withTodo rest).perform action := by
  have alone : Procedure.carryOut action = Procedure.alone action := by
    cases action <;> first | rfl | cases free
  have goes : ((machine.withTodo rest).perform action).outcome = none :=
    ((machine.withTodo rest).perform_unguarded free).1.trans going
  simp [stepLent, todo, alone, Procedure.alone, goes]
  rfl

end unguarded

section within

variable {first : Action n k C ν} {behind : List (Action n k C ν)}

/-- What a destructor does by itself changes nothing behind it. -/
theorem Sound.think_within (sound : Sound home past (machine.withTodo (first :: behind)))
    (apart : ∀ parking, first ≠ .schedule home parking) (code : C) :
    Sound home (⟨machine, .think code⟩ :: past)
      ((machine.make (.think code)).withTodo (first :: behind)) := by
  have same (thread : ThreadId) :
      errand? home thread (⟨machine, .think code⟩ :: past) = errand? home thread past :=
    errand_of_stays rfl
  refine sound.keep rfl apart ⟨rfl, rfl, rfl, fun _ => rfl, id⟩ ?_ (fun thread _ => same thread) rfl
  rw [same]
  exact sound.stage

/-- A call of a destructor is another errand of the thread, which fits what is behind it. -/
theorem Sound.ask_within (sound : Sound home past (machine.withTodo (first :: behind)))
    (apart : ∀ parking, first ≠ .schedule home parking) {request : Call n k C ν}
    (stage : Stage home (machine.thread home) (some (.ask request)) (machine.shut home)
      (first :: behind)) :
    Sound home (⟨machine, .ask request⟩ :: past)
      ((machine.make (.ask request)).withTodo (first :: behind)) := by
  refine sound.keep rfl apart ⟨rfl, rfl, rfl, fun _ => rfl, id⟩ ?_
    (fun thread apart => errand_of_other apart.symm) rfl
  have errand : errand? home (machine.thread home) (⟨machine, .ask request⟩ :: past) =
      some (.ask request) := errand_of_enters ⟨machine, .ask request⟩ rfl
  rw [← errand] at stage
  exact stage

/-- An unguarded piece changes nothing behind it, but that threads vanish with a mutex. -/
theorem Sound.work_within {action : Action n k C ν} {rest : List (Action n k C ν)}
    (sound : Sound home past (machine.withTodo (first :: behind)))
    (apart : ∀ parking, first ≠ .schedule home parking)
    (todo : machine.todo = action :: rest) (free : action.unguarded = true) :
    Sound home (⟨machine, .work⟩ :: past)
      (((machine.withTodo rest).perform action).withTodo (first :: behind)) := by
  have shut : ((machine.withTodo rest).perform action).shut home = machine.shut home :=
    Machine.perform_shut _ home (Action.still_of_unguarded free)
  rcases Action.keeps_of_unguarded free with keeps | ⟨mutex, rfl⟩
  · have kept := (machine.withTodo rest).perform_keepsQueues home keeps
    have thread : ((machine.withTodo rest).perform action).thread home = machine.thread home :=
      kept.current
    refine sound.keep rfl apart
      ⟨kept.scheduler, kept.current, kept.active, kept.waiters, kept.quiet⟩ ?_
      (fun thread _ => errand_work home thread machine past)
      (gone_work todo (Action.stays_of_keepsQueues keeps))
    change Stage home (((machine.withTodo rest).perform action).thread home)
      (errand? home (((machine.withTodo rest).perform action).thread home) _)
      (((machine.withTodo rest).perform action).shut home) (first :: behind)
    rw [thread, shut, errand_work]
    exact sound.stage
  · obtain ⟨log, cells, emptied, dropped⟩ := (machine.withTodo rest).dropMutex_eq mutex
    rw [Machine.perform, dropped]
    have waiters (other : Fin k) : ((machine.setMutex mutex cells).cells other).waiters =
        if mutex = other then .empty else (machine.cells other).waiters := by
      rw [Machine.waiters_setMutex, emptied]
    have stage := sound.stage
    rw [← errand_work home _ machine past] at stage
    exact sound.vanish rfl apart rfl rfl waiters stage (errand_work home · machine past)
      (Sound.gone_dropMutex todo)

end within

section plain

variable (run : Run home past machine)
include run

theorem Run.quiet : QuietDestructors past := by
  induction run with
  | start => simp [QuietDestructors]
  | move run before fits ih =>
      intro moment member inside
      rcases List.mem_cons.mp member with rfl | member
      · simp [(run.sound before).outside] at inside
      · exact ih moment member inside

end plain

/-- Where a run with quiet destructors can be: at a point of a run without them, or in a
destructor behind which such a point comes. -/
inductive QuietPlace (home : Fin n) (past : List (Moment n k C ν)) (machine : Machine n k C ν) :
    Prop
  | outside (sound : Sound home past machine)
      (returned : ∀ moment older answer, past = moment :: older → moment.Answers answer →
        machine.inOwnCode = true) : QuietPlace home past machine
  | inside {work : List (Action n k C ν)} {host : Option (Fin n)} {failure : Failure}
      {rest : List (Action n k C ν)} (doing : Unguarded work)
      (todo : machine.todo = work ++ .own host :: .reopen home :: .reply (.failed failure) :: rest)
      (sound : Sound home past
        (machine.withTodo (.reopen home :: .reply (.failed failure) :: rest))) :
      QuietPlace home past machine

namespace QuietPlace

theorem sound (place : QuietPlace home past machine) (outside : machine.inDestructor = false) :
    Sound home past machine := by
  cases place with
  | outside sound => exact sound
  | inside doing todo => simp [Machine.inside_of_todo todo] at outside

theorem enter {host : Option (Fin n)} (place : QuietPlace home past machine)
    (drops : DropsEntry home past machine) :
    QuietPlace home past (machine.push [.own host]) := by
  obtain ⟨before, older, entry, failure, rest, -, -, -, todo⟩ := drops
  have inner : (machine.push [.own host]).todo =
      [] ++ .own host :: .reopen home :: .reply (.failed failure) :: rest :=
    congrArg (Action.own host :: ·) todo
  refine .inside .none inner ?_
  have same : (machine.push [.own host]).withTodo
      (.reopen home :: .reply (.failed failure) :: rest) = machine := by
    rw [← todo]
    rfl
  rw [same]
  cases place with
  | outside sound => exact sound
  | @inside work _ _ _ doing here =>
      rw [todo] at here
      cases doing <;> cases here

theorem within {move : Move n k C ν} (place : QuietPlace home past machine)
    (going : machine.outcome = none) (inside : machine.inDestructor = true)
    (stays : move.ends = false) (fits : move.Fits home machine)
    (quiet : Moment.leaves? ⟨machine, move⟩ = none) :
    QuietPlace home (⟨machine, move⟩ :: past) (machine.makeLent home move) := by
  cases place with
  | outside sound => simp [sound.outside] at inside
  | @inside work host failure rest doing todo sound =>
      have apart (parking : Option (Fin k)) :
          Action.reopen home ≠ (.schedule home parking : Action n k C ν) := by simp
      cases move with
      | leave | panic => cases stays
      | think code => exact .inside doing todo (sound.think_within apart code)
      | ask request =>
          have closed := stage_refused sound.stage
          have shut : machine.shut home = true := closed.1
          rw [doing.nil_of_own fits.1 todo] at todo
          have left : (machine.make (.ask request)).todo = request.actions ++
              .own host :: .reopen home :: .reply (.failed failure) :: rest :=
            congrArg (request.actions ++ ·) todo
          refine .inside (.actions fits.2) left (sound.ask_within apart ?_)
          rw [shut]
          exact closed.2 request
      | work =>
          cases doing with
          | none => simp [Move.Fits, Machine.inOwnCode, todo, Action.isOwn] at fits
          | closing => simp [Moment.leaves?, todo, Action.leaves?] at quiet
          | @piece action free =>
              have next := sound.work_within apart todo free
              obtain ⟨-, pushed, left, doing⟩ := (machine.withTodo
                (.own host :: .reopen home :: .reply (.failed failure) :: rest)).perform_unguarded
                free
              rw [Machine.makeLent, Machine.stepLent_eq going todo free]
              exact .inside doing left next

theorem leave {host : Option (Fin n)} {first : Action n k C ν} {rest : List (Action n k C ν)}
    (place : QuietPlace home past machine) (todo : machine.todo = .own host :: first :: rest) :
    QuietPlace home (⟨machine, .think machine.code⟩ :: past) (machine.withTodo (first :: rest)) := by
  cases place with
  | outside sound => cases (sound.own_todo todo).2.1
  | @inside work _ _ _ doing here sound =>
      rw [todo] at here
      cases doing with
      | none =>
          cases here
          refine .outside (sound.think_within (by simp) machine.code) ?_
          rintro moment older answer split ⟨foreign, -⟩
          cases split
          simp [Machine.inOwnCode, todo, Action.isOwn] at foreign
      | piece free => cases here; cases free
      | closing => cases here

end QuietPlace

namespace DestructorRun

theorem place (run : DestructorRun home config past machine) (going : machine.outcome = none)
    (quiet : QuietDestructors past) (allocates : config.stackSize < Config.allocationLimit) :
    QuietPlace home past machine := by
  have earlier {moment : Moment n k C ν} {past : List (Moment n k C ν)}
      (quiet : QuietDestructors (moment :: past)) : QuietDestructors past :=
    fun other member => quiet other (.tail _ member)
  induction run with
  | start fresh code => exact .outside (.start fresh code) fun _ _ _ split => by cases split
  | move run before outside _ fits ih =>
      have sound := (ih before (earlier quiet)).sound outside
      refine .outside (sound.move before fits going) fun moment older answer split answers => ?_
      cases split
      exact answers.2.1
  | overflow _ _ _ huge => exact absurd allocates huge
  | enter run before drops ih => exact (ih before quiet).enter drops
  | within run before inside stays fits ih =>
      exact (ih before (earlier quiet)).within before inside stays fits
        (quiet _ List.mem_cons_self inside).1
  | leave run before todo ih => exact (ih before (earlier quiet)).leave todo
  | @escape past machine host first second rest run before todo =>
      have left : machine.todo = [] ++ .own host :: first :: second :: rest := todo
      exact absurd rfl (quiet _ List.mem_cons_self (Machine.inside_of_todo left)).2

end DestructorRun

/-- A context that can make no threads but itself. -/
def Config.single : Config := { Config.standard with maxThreads := 1 }

end UserThreads
