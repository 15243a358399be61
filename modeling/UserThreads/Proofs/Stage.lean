import UserThreads.Proofs.Frame

/-!
Stages: where in the library a thread is, read off what is left for it to do.

A stage says what the thread's errand is, whether the gate is closed while it
runs there, and which pieces of work are left up to its own code. Every list that
a thread of a run has left is a stage, so what a thread may do next follows from
the head of its list.
-/

namespace UserThreads

variable {n k : Nat} {C ν : Type}

/-- On the way through a closing of the gate, behind which `rest` is left. The
timer may have come in. -/
inductive Entering (home : Fin n) (rest : List (Action n k C ν)) :
    Bool → List (Action n k C ν) → Prop
  | close : Entering home rest false (.close home :: rest)
  | timer : Entering home rest true (.timer :: .closed home :: rest)
  | timerCloses :
      Entering home rest true (.close home :: .schedule home none :: .closed home :: rest)
  | timerSchedules : Entering home rest true (.schedule home none :: .closed home :: rest)
  | closed : Entering home rest true (.closed home :: rest)
  | through : Entering home rest true rest

/-- What an errand of the thread `me` does behind a closing of the gate. -/
inductive Guarded (home : Fin n) (me : ThreadId) :
    Move n k C ν → List (Action n k C ν) → Prop
  | create {entry : C} : Guarded home me (.ask (.create home entry)) [.enroll home entry]
  | yield :
      Guarded home me (.ask (.yield home)) [.schedule home none, .reopen home, .reply .done]
  | exit {value : ν} : Guarded home me (.ask (.exit home value)) [.finish home value]
  | join {thread : ThreadId} :
      Guarded home me (.ask (.join home thread)) [.reap home thread]
  | tryJoin {thread : ThreadId} :
      Guarded home me (.ask (.tryJoin home thread)) [.tryReap home thread]
  | numReady : Guarded home me (.ask (.numReady home)) [.countReady home]
  | numCompleted : Guarded home me (.ask (.numCompleted home)) [.countCompleted home]
  | passGate : Guarded home me (.ask (.passGate home)) [.reopen home, .reply .done]
  | claimAgain {mutex : Fin k} :
      Guarded home me (.ask (.lock home mutex)) [.claimAgain home mutex me]
  | refuseLock {mutex : Fin k} {status : MutexStatus} :
      Guarded home me (.ask (.lock home mutex)) [.refuse home "lock" status]
  | handOn {mutex : Fin k} : Guarded home me (.ask (.unlock home mutex)) [.handOn home mutex]
  | refuseUnlock {mutex : Fin k} :
      Guarded home me (.ask (.unlock home mutex)) [.refuseUnlock home me]
  | drain {mutex : Fin k} :
      Guarded home me (.ask (.destroy home mutex))
        [.schedule home none, .reopen home, .drain home mutex]
  | wakeAll {mutex : Fin k} :
      Guarded home me (.ask (.destroy home mutex)) [.wakeAll home mutex]
  | refuseDestroy {mutex : Fin k} {status : MutexStatus} :
      Guarded home me (.ask (.destroy home mutex)) [.refuse home "destroy" status]
  /-- The value that own code ended with is put away. -/
  | leave {value : ν} :
      Guarded home me (.leave value) [.reopen home, .close home, .finish home value]
  | finish {value : ν} : Guarded home me (.leave value) [.finish home value]

/-- The other pieces of an errand, with whether the gate is closed at them. -/
inductive Piece (home : Fin n) (me : ThreadId) :
    Move n k C ν → Bool → List (Action n k C ν) → Prop
  | issue {entry : C} : Piece home me (.ask (.create home entry)) true [.issue home entry]
  | finishing {call : Call n k C ν} {answer : Reply ν} :
      Piece home me (.ask call) true [.reopen home, .reply answer]
  | replying {call : Call n k C ν} {answer : Reply ν} :
      Piece home me (.ask call) false [.reply answer]
  | readCurrent : Piece home me (.ask (.current home)) false [.readCurrent home]
  | initMutex {mutex : Fin k} : Piece home me (.ask (.init mutex)) false [.initMutex mutex]
  | dropMutex {mutex : Fin k} : Piece home me (.ask (.dropMutex mutex)) false [.dropMutex mutex]
  | polling {thread : ThreadId} :
      Piece home me (.ask (.join home thread)) true
        [.schedule home none, .reopen home, .close home, .reap home thread]
  | polled {thread : ThreadId} :
      Piece home me (.ask (.join home thread)) true
        [.reopen home, .close home, .reap home thread]
  | lock {mutex : Fin k} : Piece home me (.ask (.lock home mutex)) false [.lock home mutex]
  | claim {mutex : Fin k} : Piece home me (.ask (.lock home mutex)) false [.claim home mutex me]
  | parking {mutex : Fin k} :
      Piece home me (.ask (.lock home mutex)) true
        [.schedule home (some mutex), .reopen home, .woken home mutex me]
  | waking {mutex : Fin k} :
      Piece home me (.ask (.lock home mutex)) true [.reopen home, .woken home mutex me]
  | woken {mutex : Fin k} : Piece home me (.ask (.lock home mutex)) false [.woken home mutex me]
  | granting {mutex : Fin k} :
      Piece home me (.ask (.lock home mutex)) true [.reopen home, .acquire mutex me]
  | acquire {mutex : Fin k} : Piece home me (.ask (.lock home mutex)) false [.acquire mutex me]
  | unlock {mutex : Fin k} : Piece home me (.ask (.unlock home mutex)) false [.unlock home mutex]
  | destroy {mutex : Fin k} :
      Piece home me (.ask (.destroy home mutex)) false [.destroy home mutex]
  | drain {mutex : Fin k} : Piece home me (.ask (.destroy home mutex)) false [.drain home mutex]
  | drained {mutex : Fin k} :
      Piece home me (.ask (.destroy home mutex)) true [.reopen home, .drain home mutex]
  | releaseDestroyed {mutex : Fin k} :
      Piece home me (.ask (.destroy home mutex)) false [.releaseDestroyed home mutex]
  | exiting {value : ν} :
      Piece home me (.ask (.exit home value)) true [.schedule home none, .resumed]
  | leaving {value : ν} : Piece home me (.leave value) true [.schedule home none, .resumed]
  | exited {value : ν} : Piece home me (.ask (.exit home value)) true [.resumed]
  | left {value : ν} : Piece home me (.leave value) true [.resumed]

/-- What is left behind an errand: the own code that asked for it. -/
inductive Errand (home : Fin n) : Move n k C ν → List (Action n k C ν) → Prop
  | initial {call : Call n k C ν} : Errand home (.ask call) [.own none]
  | thread {call : Call n k C ν} : Errand home (.ask call) [.own (some home)]
  | leave {value : ν} : Errand home (.leave value) []

/-- The lists that the thread `me` can have left. -/
inductive Stage (home : Fin n) (me : ThreadId) :
    Option (Move n k C ν) → Bool → List (Action n k C ν) → Prop
  | initial {errand : Option (Move n k C ν)} : Stage home me errand false [.own none]
  | own {errand : Option (Move n k C ν)} : Stage home me errand false [.own (some home)]
  | begin : Stage home me none true [.begin]
  | beginning {unstarted : Bool} : Stage home me none true [.reopen home, .enter home unstarted]
  | enter {unstarted : Bool} : Stage home me none false [.enter home unstarted]
  | guarded {move : Move n k C ν} {work rest todo : List (Action n k C ν)} {closed : Bool}
      (errand : Errand home move rest) (doing : Guarded home me move work)
      (way : Entering home (work ++ rest) closed todo) : Stage home me (some move) closed todo
  | piece {move : Move n k C ν} {work rest : List (Action n k C ν)} {closed : Bool}
      (errand : Errand home move rest) (doing : Piece home me move closed work) :
      Stage home me (some move) closed (work ++ rest)

/-- The lists that a thread can have left that waits for the processor. -/
def Suspended (home : Fin n) (me : ThreadId) (errand : Option (Move n k C ν))
    (todo : List (Action n k C ν)) : Prop :=
  errand = none ∧ todo = [.begin] ∨
    ∃ parking, Stage home me errand true (.schedule home parking :: todo)

variable {home : Fin n} {me : ThreadId} {errand : Option (Move n k C ν)} {closed : Bool}

theorem stage_own {host : Option (Fin n)} {rest : List (Action n k C ν)}
    (stage : Stage home me errand closed (.own host :: rest)) :
    closed = false ∧ rest = [] ∧ (host = none ∨ host = some home) := by
  generalize shape : Action.own host :: rest = todo at stage
  cases stage with
  | initial => cases shape; exact ⟨rfl, rfl, .inl rfl⟩
  | own => cases shape; exact ⟨rfl, rfl, .inr rfl⟩
  | begin | beginning | enter => cases shape
  | guarded errand doing way =>
      cases way with
      | through => cases doing <;> cases shape
      | _ => cases shape
  | piece errand doing => cases doing <;> cases shape

theorem stage_ne_nil {todo : List (Action n k C ν)} (stage : Stage home me errand closed todo) :
    todo ≠ [] := by
  cases stage with
  | initial | own | begin | beginning | enter => simp
  | guarded errand doing way =>
      cases way with
      | through => cases doing <;> simp
      | _ => simp
  | piece errand doing => cases doing <;> simp

theorem stage_host {host : Fin n} {parking : Option (Fin k)} {rest : List (Action n k C ν)}
    (stage : Stage home me errand closed (.schedule host parking :: rest)) : host = home := by
  generalize shape : Action.schedule host parking :: rest = todo at stage
  cases stage with
  | initial | own | begin | beginning | enter => cases shape
  | guarded errand doing way =>
      cases way with
      | close | timer | timerCloses | closed => cases shape
      | timerSchedules => cases shape; rfl
      | through => cases doing <;> cases shape <;> rfl
  | piece errand doing => cases doing <;> cases shape <;> rfl

/-- What can be left behind a decision, with the mutex to park on. -/
inductive Resumes (home : Fin n) (me : ThreadId) :
    Option (Fin k) → Move n k C ν → List (Action n k C ν) → Prop
  | entering {move : Move n k C ν} {work rest : List (Action n k C ν)}
      (errand : Errand home move rest) (doing : Guarded home me move work) :
      Resumes home me none move (.closed home :: (work ++ rest))
  | yielded {rest : List (Action n k C ν)} (errand : Errand home (.ask (.yield home)) rest) :
      Resumes home me none (.ask (.yield home)) (.reopen home :: .reply .done :: rest)
  | drained {mutex : Fin k} {rest : List (Action n k C ν)}
      (errand : Errand home (.ask (.destroy home mutex)) rest) :
      Resumes home me none (.ask (.destroy home mutex)) (.reopen home :: .drain home mutex :: rest)
  | polled {thread : ThreadId} {rest : List (Action n k C ν)}
      (errand : Errand home (.ask (.join home thread)) rest) :
      Resumes home me none (.ask (.join home thread))
        (.reopen home :: .close home :: .reap home thread :: rest)
  | waking {mutex : Fin k} {rest : List (Action n k C ν)}
      (errand : Errand home (.ask (.lock home mutex)) rest) :
      Resumes home me (some mutex) (.ask (.lock home mutex))
        (.reopen home :: .woken home mutex me :: rest)
  | exited {value : ν} {rest : List (Action n k C ν)}
      (errand : Errand home (.ask (.exit home value)) rest) :
      Resumes home me none (.ask (.exit home value)) (.resumed :: rest)
  | left {value : ν} {rest : List (Action n k C ν)} (errand : Errand home (.leave value) rest) :
      Resumes home me none (.leave value) (.resumed :: rest)

theorem Resumes.stage {parking : Option (Fin k)} {move : Move n k C ν}
    {rest : List (Action n k C ν)} (resumes : Resumes home me parking move rest) :
    Stage home me (some move) true rest := by
  cases resumes with
  | entering errand doing => exact .guarded errand doing .closed
  | yielded errand => exact .piece errand .finishing
  | drained errand => exact .piece errand .drained
  | polled errand => exact .piece errand .polled
  | waking errand => exact .piece errand .waking
  | exited errand => exact .piece errand .exited
  | left errand => exact .piece errand .left

/-- Own code does not go on behind a decision. -/
theorem Resumes.foreign {parking : Option (Fin k)} {move : Move n k C ν}
    {rest : List (Action n k C ν)} (resumes : Resumes home me parking move rest) :
    ∃ first others, rest = first :: others ∧ first.isOwn = false := by
  cases resumes <;> exact ⟨_, _, rfl, rfl⟩

/-- A decision is made with the gate closed, and what is left behind it is known. -/
theorem stage_resumes {parking : Option (Fin k)} {rest : List (Action n k C ν)}
    (stage : Stage home me errand closed (.schedule home parking :: rest)) :
    closed = true ∧ ∃ move, errand = some move ∧ Resumes home me parking move rest := by
  generalize shape : Action.schedule home parking :: rest = todo at stage
  cases stage with
  | initial | own | begin | beginning | enter => cases shape
  | guarded errand doing way =>
      cases way with
      | close | timer | timerCloses | closed => cases shape
      | timerSchedules => cases shape; exact ⟨rfl, _, rfl, .entering errand doing⟩
      | through =>
          cases doing <;> cases shape
          · exact ⟨rfl, _, rfl, .yielded errand⟩
          · exact ⟨rfl, _, rfl, .drained errand⟩
  | piece errand doing =>
      cases doing <;> cases shape
      · exact ⟨rfl, _, rfl, .polled errand⟩
      · exact ⟨rfl, _, rfl, .waking errand⟩
      · exact ⟨rfl, _, rfl, .exited errand⟩
      · exact ⟨rfl, _, rfl, .left errand⟩

theorem stage_resume {parking : Option (Fin k)} {rest : List (Action n k C ν)}
    (stage : Stage home me errand closed (.schedule home parking :: rest)) :
    closed = true ∧ Stage home me errand true rest := by
  obtain ⟨shut, move, rfl, resumes⟩ := stage_resumes stage
  exact ⟨shut, resumes.stage⟩

theorem Suspended.stage {todo : List (Action n k C ν)}
    (suspended : Suspended home me errand todo) : Stage home me errand true todo := by
  rcases suspended with ⟨rfl, rfl⟩ | ⟨parking, stage⟩
  · exact .begin
  · exact (stage_resume stage).2

namespace Machine

variable {machine : Machine n k C ν}

theorem stage_call (me : ThreadId) {request : Call n k C ν} {behind : List (Action n k C ν)}
    (keeps : request.KeepsTo home) (asked : Errand home (.ask request) behind) :
    Stage home me (some (.ask request)) false (request.actions ++ behind) := by
  cases request
  case dropRuntime => exact keeps.elim
  case init => exact .piece asked .initMutex
  case dropMutex => exact .piece asked .dropMutex
  all_goals cases keeps
  case create => exact .guarded asked .create .close
  case yield => exact .guarded asked .yield .close
  case exit => exact .guarded asked .exit .close
  case join => exact .guarded asked .join .close
  case tryJoin => exact .guarded asked .tryJoin .close
  case current => exact .piece asked .readCurrent
  case numReady => exact .guarded asked .numReady .close
  case numCompleted => exact .guarded asked .numCompleted .close
  case passGate => exact .guarded asked .passGate .close
  case lock => exact .piece asked .lock
  case unlock => exact .piece asked .unlock
  case destroy => exact .piece asked .destroy

theorem stage_reopened {rest : List (Action n k C ν)}
    (opening : (machine.runtime home).gate.afterOpening = 0)
    (stage : Stage home me errand false rest) :
    Stage home me errand (((machine.withTodo rest).reopenGate home).shut home)
      ((machine.withTodo rest).reopenGate home).todo := by
  obtain ⟨opened, same⟩ := reopenGate_eq (machine.withTodo rest) opening
  exact opened ▸ same ▸ stage

/-- Behind a closing, what is left is either a way out or the next closing. -/
theorem stage_guarded {move : Move n k C ν}
    {action : Action n k C ν} {rest behind work : List (Action n k C ν)}
    (errand : Errand home move behind) (doing : Guarded home me move work)
    (here : action :: rest = work ++ behind)
    (shut : machine.shut home = true)
    (opening : (machine.runtime home).gate.afterOpening = 0)
    (keeps : action.keepsQueues = true) :
    Stage home me (some move) (((machine.withTodo rest).perform action).shut home)
      ((machine.withTodo rest).perform action).todo := by
  cases doing <;> cases here <;> try contradiction
  case numReady | numCompleted => exact shut ▸ .piece errand .finishing
  case refuseLock | refuseDestroy | refuseUnlock => exact shut ▸ .piece errand .finishing
  case passGate =>
    exact stage_reopened opening (.piece errand .replying)
  case leave value =>
    cases errand
    exact stage_reopened opening (.guarded .leave .finish .close)

/-- On its way through a closing a thread keeps to what stands behind it. -/
theorem stage_entering {move : Move n k C ν}
    {action : Action n k C ν} {rest behind work : List (Action n k C ν)}
    (errand : Errand home move behind) (doing : Guarded home me move work)
    (way : Entering home (work ++ behind) closed (action :: rest))
    (shut : machine.shut home = closed)
    (active : ∀ index, machine.active = some index → index = home)
    (opening : (machine.runtime home).gate.afterOpening = 0)
    (keeps : action.keepsQueues = true) :
    Stage home me (some move) (((machine.withTodo rest).perform action).shut home)
      ((machine.withTodo rest).perform action).todo := by
  generalize shape : action :: rest = todo at way
  cases way with
  | close =>
      cases shape
      rcases closeGate_cases (machine.withTodo (work ++ behind)) home with
        ⟨closed, same | ⟨-, fired⟩⟩
      · exact closed ▸ same ▸ .guarded errand doing .through
      · exact closed ▸ fired ▸ .guarded errand doing .timer
  | timer =>
      cases shape
      simp only [perform, enterTimer]
      split
      · exact shut ▸ .guarded errand doing .closed
      · rename_i index driven
        cases active index driven
        exact shut ▸ .guarded errand doing .timerCloses
  | timerCloses =>
      cases shape
      rcases closeGate_cases
        (machine.withTodo (.schedule home none :: .closed home :: (work ++ behind))) home with
        ⟨closed, same | ⟨opened, -⟩⟩
      · exact closed ▸ same ▸ .guarded errand doing .timerSchedules
      · exact absurd (shut.symm.trans opened) (by decide)
  | timerSchedules => cases shape; contradiction
  | closed =>
      cases shape
      have closed : ((machine.withTodo (work ++ behind)).settleGate home true).shut home = true :=
        shut_setGate ..
      exact closed ▸ .guarded errand doing .through
  | through => exact stage_guarded errand doing shape shut opening keeps

theorem stage_piece {move : Move n k C ν}
    {action : Action n k C ν} {rest behind work : List (Action n k C ν)}
    (errand : Errand home move behind) (doing : Piece home me move closed work)
    (here : action :: rest = work ++ behind)
    (self : machine.thread home = me)
    (shut : machine.shut home = closed)
    (opening : (machine.runtime home).gate.afterOpening = 0)
    (keeps : action.keepsQueues = true)
    (goes : ((machine.withTodo rest).perform action).outcome = none) :
    Stage home me (some move) (((machine.withTodo rest).perform action).shut home)
      ((machine.withTodo rest).perform action).todo := by
  cases doing <;> cases here <;> try contradiction
  case finishing call answer =>
    exact stage_reopened opening (.piece errand .replying)
  case replying =>
    cases errand
    · exact shut ▸ .initial
    · exact shut ▸ .own
  case readCurrent =>
    cases errand
    · exact shut ▸ .initial
    · exact shut ▸ .own
  case initMutex mutex =>
    simp only [perform, initMutex]
    split <;> exact shut ▸ .piece errand .replying
  case polled thread =>
    exact stage_reopened opening (.guarded errand .join .close)
  case lock mutex =>
    simp only [perform, lock, refuseUse]
    split
    · split
      · exact shut ▸ .piece errand .replying
      · exact shut ▸ self ▸ .piece errand .claim
    · exact shut ▸ .guarded errand .refuseLock .close
  case claim mutex =>
    simp only [perform, claim]
    split
    · exact shut ▸ .piece errand .acquire
    · exact shut ▸ .guarded errand .claimAgain .close
  case waking mutex =>
    exact stage_reopened opening (.piece errand .woken)
  case woken mutex =>
    simp only [perform, woken, refuseUse]
    split
    · exact shut ▸ .piece errand .claim
    · exact shut ▸ .guarded errand .refuseLock .close
  case granting mutex =>
    exact stage_reopened opening (.piece errand .acquire)
  case acquire => exact shut ▸ .piece errand .replying
  case unlock mutex =>
    simp only [perform, unlock]
    split
    · split
      · exact shut ▸ .piece errand .replying
      · exact shut ▸ .guarded errand .handOn .close
    · exact shut ▸ self ▸ .guarded errand .refuseUnlock .close
  case destroy mutex =>
    simp only [perform, destroy, refuseUse]
    split
    · split
      · exact shut ▸ .piece errand .releaseDestroyed
      · exact shut ▸ .piece errand .drain
    · exact shut ▸ .guarded errand .refuseDestroy .close
  case drain mutex =>
    simp only [perform, drain]
    split
    · exact shut ▸ .piece errand .releaseDestroyed
    · exact shut ▸ .guarded errand .drain .close
  case drained mutex =>
    exact stage_reopened opening (.piece errand .drain)
  case releaseDestroyed mutex => exact shut ▸ .guarded errand .wakeAll .close

theorem stage_work {action : Action n k C ν}
    {rest : List (Action n k C ν)} (stage : Stage home me errand closed (action :: rest))
    (self : machine.thread home = me) (shut : machine.shut home = closed)
    (opening : (machine.runtime home).gate.afterOpening = 0)
    (active : ∀ index, machine.active = some index → index = home)
    (library : action.isOwn = false) (keeps : action.keepsQueues = true)
    (goes : ((machine.withTodo rest).perform action).outcome = none) :
    Stage home me errand (((machine.withTodo rest).perform action).shut home)
      ((machine.withTodo rest).perform action).todo := by
  generalize shape : action :: rest = todo at stage
  cases stage with
  | initial | own | begin => cases shape; contradiction
  | beginning =>
      cases shape
      exact stage_reopened opening .enter
  | enter =>
      cases shape
      simp only [perform, enter] at goes ⊢
      split
      · exact shut ▸ .own
      · rename_i started
        simp [started, abort] at goes
  | guarded errand doing way =>
      exact stage_entering errand doing (shape ▸ way) shut active opening keeps
  | piece errand doing => exact stage_piece errand doing shape self shut opening keeps goes

end Machine

end UserThreads
