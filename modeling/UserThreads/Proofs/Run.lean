import UserThreads.Machine.Step

/-!
Runs of programs whose threads share one runtime.

A run is built move by move: either the library does its next piece of work for
the running thread, or this thread's own code does something of its choice. What
the threads are up to is read off the moves made so far, the newest one first.
-/

namespace UserThreads

variable {n k : Nat} {C ν : Type}

/-- What is done next on a machine. -/
inductive Move (n k : Nat) (C ν : Type)
  /-- The library does a piece of work for the running thread. -/
  | work
  /-- Own code goes on by itself. -/
  | think (code : C)
  | ask (request : Call n k C ν)
  /-- Own code ends with a value. -/
  | leave (value : ν)
  | panic

/-- The value that a thread leaves behind by this move, if it ends by it. -/
def Move.exitValue? : Move n k C ν → Option ν
  | .ask (.exit _ value) => some value
  | .leave value => some value
  | _ => none

/-- A call of a program that has one runtime. It works on `home`, which it does
not give up. -/
def Call.KeepsTo (home : Fin n) : Call n k C ν → Prop
  | .create runtime _ | .yield runtime | .exit runtime _ | .join runtime _
  | .tryJoin runtime _ | .current runtime | .numReady runtime | .numCompleted runtime
  | .passGate runtime | .lock runtime _ | .unlock runtime _ | .destroy runtime _ =>
      runtime = home
  | .init _ | .dropMutex _ => True
  | .dropRuntime _ => False

instance (home : Fin n) : (request : Call n k C ν) → Decidable (request.KeepsTo home)
  | .create .. | .yield _ | .exit .. | .join .. | .tryJoin .. | .current _ | .numReady _
  | .numCompleted _ | .passGate _ | .lock .. | .unlock .. | .destroy .. =>
      inferInstanceAs (Decidable (_ = home))
  | .init _ | .dropMutex _ => inferInstanceAs (Decidable True)
  | .dropRuntime _ => inferInstanceAs (Decidable False)

namespace Machine

/-- The machine after a move. -/
def make (machine : Machine n k C ν) : Move n k C ν → Machine n k C ν
  | .work => machine.step
  | .think code => { machine with code }
  | .ask request => machine.call request
  | .leave value => machine.leave value
  | .panic => machine.panic

/-- The blocks of the threads parked on a mutex. -/
def parkedOn (machine : Machine n k C ν) (mutex : Fin k) : List (Block (Context n k C ν) ν) :=
  (machine.cells mutex).waiters.threads.elements

/-- The id of the thread that runs. -/
def thread (machine : Machine n k C ν) (home : Fin n) : ThreadId :=
  (machine.runtime home).current

end Machine

/-- Own code moves where it runs, and the library works everywhere else. -/
def Move.Fits (home : Fin n) (machine : Machine n k C ν) : Move n k C ν → Prop
  | .work => machine.inOwnCode = false
  | .ask request => machine.inOwnCode = true ∧ request.KeepsTo home
  | .think _ | .leave _ | .panic => machine.inOwnCode = true

instance (home : Fin n) (machine : Machine n k C ν) :
    (move : Move n k C ν) → Decidable (move.Fits home machine)
  | .work | .think _ | .leave _ | .panic => inferInstanceAs (Decidable (_ = _))
  | .ask _ => inferInstanceAs (Decidable (_ ∧ _))

theorem Move.Fits.own {home : Fin n} {machine : Machine n k C ν} {move : Move n k C ν}
    (fits : move.Fits home machine) (own : move ≠ .work) : machine.inOwnCode = true := by
  cases move with
  | work => exact absurd rfl own
  | ask => exact fits.1
  | think | leave | panic => exact fits

/-- A move and the machine on which it was made. -/
structure Moment (n k : Nat) (C ν : Type) where
  machine : Machine n k C ν
  move : Move n k C ν

/-- The runs of programs whose threads share the runtime `home`, which begins
without threads. The plan of its gate says at which closings the timer comes in
first. -/
inductive Run (home : Fin n) : List (Moment n k C ν) → Machine n k C ν → Prop
  | start {runtimes : Vector (Runtime n k C ν) n} {config : Config} {kind : GateKind}
      {plan : Nat → Bool} (fresh : runtimes.get home = .new config (.new kind plan)) (code : C) :
      Run home [] (.start runtimes code)
  | move {past : List (Moment n k C ν)} {machine : Machine n k C ν} {move : Move n k C ν}
      (run : Run home past machine) (going : machine.outcome = none)
      (fits : move.Fits home machine) :
      Run home (⟨machine, move⟩ :: past) (machine.make move)

namespace Moment

/-- The thread that makes the move. -/
def thread (home : Fin n) (moment : Moment n k C ν) : ThreadId := moment.machine.thread home

def after (moment : Moment n k C ν) : Machine n k C ν := moment.machine.make moment.move

/-- The move sends the thread into the library. -/
def enters (moment : Moment n k C ν) : Bool :=
  match moment.move with
  | .ask _ | .leave _ => true
  | _ => false

/-- The thread's call answers `answer`, and its own code goes on. -/
def Answers (moment : Moment n k C ν) (answer : Reply ν) : Prop :=
  moment.machine.inOwnCode = false ∧ moment.after.inOwnCode = true ∧
    moment.after.answer = answer

/-- The thread that a join takes off the completed ones by this move. -/
def reaped? (moment : Moment n k C ν) : Option ThreadId :=
  match moment.move, moment.machine.todo with
  | .work, .reap index thread :: _ | .work, .tryReap index thread :: _ =>
      (moment.machine.reap? index thread).map fun _ => thread
  | _, _ => none

/-- The threads that vanish by this move, with the mutex that they are parked on. -/
def dropped (moment : Moment n k C ν) : List ThreadId :=
  match moment.move, moment.machine.todo with
  | .work, .dropMutex mutex :: _ => (moment.machine.parkedOn mutex).map Block.id
  | _, _ => []

/-- The threads that are in no place any more after this move. -/
def gone (moment : Moment n k C ν) : List ThreadId := moment.reaped?.toList ++ moment.dropped

end Moment

/-- The move that last sent `thread` into the library: its call, or the end of
its own code. -/
def errand? (home : Fin n) (thread : ThreadId) :
    List (Moment n k C ν) → Option (Move n k C ν)
  | [] => none
  | moment :: past =>
      if moment.thread home = thread ∧ moment.enters = true then some moment.move
      else errand? home thread past

/-- The thread's call `request` answers with success by this move, made after `past`. -/
def Moment.Succeeds (home : Fin n) (request : Call n k C ν) (moment : Moment n k C ν)
    (past : List (Moment n k C ν)) : Prop :=
  moment.Answers .done ∧ errand? home (moment.thread home) past = some (.ask request)

/-- There was a move of the kind `starts`, and only moves of the kind `keeps` have followed. -/
def Since (starts : Moment n k C ν → List (Moment n k C ν) → Prop)
    (keeps : Moment n k C ν → Prop) : List (Moment n k C ν) → Prop
  | [] => False
  | moment :: past => starts moment past ∨ Since starts keeps past ∧ keeps moment

/-- The threads that joins have taken off the completed ones. -/
def reaped (past : List (Moment n k C ν)) : List ThreadId := past.filterMap Moment.reaped?

/-- The threads that are in no place any more. -/
def gone (past : List (Moment n k C ν)) : List ThreadId := past.flatMap Moment.gone

theorem gone_eq_reaped {past : List (Moment n k C ν)}
    (kept : ∀ moment ∈ past, moment.dropped = []) : gone past = reaped past := by
  induction past with
  | nil => rfl
  | cons moment past ih =>
      have earlier := ih fun moment member => kept moment (List.mem_cons_of_mem _ member)
      rw [gone, List.flatMap_cons, ← gone, earlier, Moment.gone, kept moment List.mem_cons_self,
        List.append_nil, reaped, reaped, List.filterMap_cons]
      cases moment.reaped? <;> rfl

/-- A call and the number of pieces of work up to the next own code. -/
def Move.calling (request : Call n k C ν) (pieces : Nat) : List (Move n k C ν) :=
  .ask request :: List.replicate pieces .work

/-- The history after the given moves. -/
def trail (past : List (Moment n k C ν)) (machine : Machine n k C ν) :
    List (Move n k C ν) → List (Moment n k C ν)
  | [] => past
  | move :: moves => trail (⟨machine, move⟩ :: past) (machine.make move) moves

/-- The machine after the given moves. -/
def Machine.play (machine : Machine n k C ν) (moves : List (Move n k C ν)) : Machine n k C ν :=
  moves.foldl Machine.make machine

/-- Whether the given moves can be made one after the other. -/
def Machine.allows (home : Fin n) (machine : Machine n k C ν) : List (Move n k C ν) → Bool
  | [] => true
  | move :: moves => machine.outcome.isNone && decide (move.Fits home machine) &&
      (machine.make move).allows home moves

theorem trail_append (past : List (Moment n k C ν)) (machine : Machine n k C ν)
    (moves later : List (Move n k C ν)) :
    trail past machine (moves ++ later) =
      trail (trail past machine moves) (machine.play moves) later := by
  induction moves generalizing past machine with
  | nil => rfl
  | cons move moves ih => exact ih ..

namespace Machine

theorem play_append (machine : Machine n k C ν) (moves later : List (Move n k C ν)) :
    machine.play (moves ++ later) = (machine.play moves).play later := List.foldl_append

theorem allows_append {home : Fin n} {machine : Machine n k C ν}
    {moves later : List (Move n k C ν)} :
    machine.allows home (moves ++ later) = true ↔
      machine.allows home moves = true ∧ (machine.play moves).allows home later = true := by
  induction moves generalizing machine with
  | nil => simp [allows, play]
  | cons move moves ih =>
      rw [List.cons_append, allows, allows, Bool.and_eq_true, ih, Bool.and_eq_true (_ && _),
        and_assoc]
      rfl

end Machine

theorem trail_moves {past : List (Moment n k C ν)} {machine : Machine n k C ν}
    {moves : List (Move n k C ν)} {moment : Moment n k C ν}
    (member : moment ∈ trail past machine moves) : moment ∈ past ∨ moment.move ∈ moves := by
  induction moves generalizing past machine with
  | nil => exact .inl member
  | cons move moves ih =>
      rcases ih member with earlier | later
      · rcases List.mem_cons.mp earlier with rfl | earlier
        · exact .inr List.mem_cons_self
        · exact .inl earlier
      · exact .inr (List.mem_cons_of_mem _ later)

theorem trail_eq (past : List (Moment n k C ν)) (machine : Machine n k C ν)
    (moves : List (Move n k C ν)) : trail past machine moves = trail [] machine moves ++ past := by
  induction moves generalizing past machine with
  | nil => rfl
  | cons move moves ih =>
      rw [trail, trail, ih, ih [⟨machine, move⟩], List.append_assoc]
      rfl

/-- Moves that are all kept keep up what has been so since some move. -/
theorem Since.trail {starts : Moment n k C ν → List (Moment n k C ν) → Prop}
    {keeps : Moment n k C ν → Prop} {past : List (Moment n k C ν)} {machine : Machine n k C ν}
    (since : Since starts keeps past) (moves : List (Move n k C ν))
    (kept : ∀ moment ∈ trail [] machine moves, keeps moment) :
    Since starts keeps (trail past machine moves) := by
  rw [trail_eq]
  generalize UserThreads.trail [] machine moves = newer at kept
  induction newer with
  | nil => exact since
  | cons moment newer ih =>
      exact .inr ⟨ih fun earlier member => kept earlier (List.mem_cons_of_mem _ member),
        kept moment List.mem_cons_self⟩

/-- A move that does not keep it up was made before what is so began. -/
theorem Since.split {starts : Moment n k C ν → List (Moment n k C ν) → Prop}
    {keeps : Moment n k C ν → Prop} {recent older : List (Moment n k C ν)}
    {moment : Moment n k C ν} (since : Since starts keeps (recent ++ moment :: older))
    (unstarted : ¬starts moment older) (breaks : ¬keeps moment) :
    ∃ later start between, recent = later ++ start :: between ∧
      starts start (between ++ moment :: older) := by
  induction recent with
  | nil =>
      rcases since with start | ⟨-, keeps⟩
      · exact absurd start unstarted
      · exact absurd keeps breaks
  | cons next recent ih =>
      rcases since with start | ⟨since, -⟩
      · exact ⟨[], next, recent, rfl, start⟩
      · obtain ⟨later, start, between, rfl, starts⟩ := ih since
        exact ⟨next :: later, start, between, rfl, starts⟩

theorem Machine.inOwnCode_eq {machine : Machine n k C ν} {action : Action n k C ν}
    {rest : List (Action n k C ν)} (todo : machine.todo = action :: rest) :
    machine.inOwnCode = action.isOwn := by
  rw [inOwnCode, todo]

theorem Run.work {home : Fin n} {past : List (Moment n k C ν)} {machine : Machine n k C ν}
    {action : Action n k C ν} {rest : List (Action n k C ν)} (run : Run home past machine)
    (going : machine.outcome = none) (todo : machine.todo = action :: rest)
    (foreign : action.isOwn = false) : Run home (⟨machine, .work⟩ :: past) machine.step :=
  run.move going ((Machine.inOwnCode_eq todo).trans foreign)

theorem Run.play {home : Fin n} {past : List (Moment n k C ν)} {machine : Machine n k C ν}
    (run : Run home past machine) (moves : List (Move n k C ν))
    (allowed : machine.allows home moves = true) :
    Run home (trail past machine moves) (machine.play moves) := by
  induction moves generalizing past machine with
  | nil => exact run
  | cons move moves ih =>
      simp only [Machine.allows, Bool.and_eq_true, Option.isNone_iff_eq_none,
        decide_eq_true_eq] at allowed
      exact ih (run.move allowed.1.1 allowed.1.2) allowed.2

/-- A context with one runtime and one mutex. The timer comes in at the closing
`number`. -/
def lone (number : Nat) : Machine 1 1 Unit Nat :=
  .start #v[.new .standard (.new .scripted fun closing => closing == number)] ()

/-- The context locks the mutex, and thread 1 is preempted between its two claims. -/
def contended : List (Move 1 1 Unit Nat) :=
  Move.calling (.init sole) 2 ++ Move.calling (.create sole ()) 5 ++
    Move.calling (.lock sole sole) 4 ++ Move.calling (.yield sole) 5 ++
    Move.calling (.lock sole sole) 8

end UserThreads
