import UserThreads.Proofs.Contexts
import UserThreads.Proofs.Smooth

/-!
A program that counts: the initial context makes threads, each of which goes a number
of rounds. In a round it locks the mutex, reads a counter, later writes what it has
read plus one, and unlocks the mutex. Whoever has read the counter has the mutex, so
that nobody else has written meanwhile.
-/

namespace UserThreads

variable {n k : Nat} {ν : Type}

/-- What a thread of the program is at, with the number of rounds that it has left. -/
inductive Job
  /-- The initial context. -/
  | main
  | outside (left : Nat)
  /-- The mutex has been called for; this round is not counted as left. -/
  | inside (left : Nat)
  /-- The counter has been read. -/
  | holding (left value : Nat)
  /-- The counter has been written. -/
  | stored (left : Nat)
  deriving DecidableEq, Repr

/-- The increments that a thread has still to make. -/
def Job.owed : Job → Nat
  | .main => 0
  | .outside left | .stored left => left
  | .inside left | .holding left _ => left + 1

/-- A call that a thread of the program may make at any time. It does not touch the
mutex, does not end the thread, and if it makes a thread then one that goes `rounds`
rounds. -/
structure Call.Minds (home : Fin n) (mutex : Fin k) (rounds : Nat) (request : Call n k Job ν) :
    Prop where
  elsewhere : pending? mutex request.actions = none
  makes : ∀ runtime entry, request = .create runtime entry → entry = .outside rounds
  stays : ∀ runtime value, request ≠ .exit runtime value

/-- What own code does at a job while the counter is read as it is, and what the counter is
after that. -/
inductive Turn (home : Fin n) (mutex : Fin k) (rounds : Nat) :
    Job → Nat → List (Move n k Job ν) → Nat → Prop
  | asks {job : Job} {counter : Nat} {request : Call n k Job ν}
      (minds : request.Minds home mutex rounds) :
      Turn home mutex rounds job counter [.ask request] counter
  | locks {left counter : Nat} :
      Turn home mutex rounds (.outside (left + 1)) counter
        [.think (.inside left), .ask (.lock home mutex)] counter
  | reads {left counter : Nat} :
      Turn home mutex rounds (.inside left) counter [.think (.holding left counter)] counter
  | writes {left value counter : Nat} :
      Turn home mutex rounds (.holding left value) counter [.think (.stored left)] (value + 1)
  | unlocks {left counter : Nat} :
      Turn home mutex rounds (.stored left) counter
        [.think (.outside left), .ask (.unlock home mutex)] counter
  | leaves {counter : Nat} {value : ν} :
      Turn home mutex rounds (.outside 0) counter [.leave value] counter

/-- The runs of the program from the machine `start` on, where the counter is `first`,
with the moves made since. -/
inductive Counting (home : Fin n) (mutex : Fin k) (rounds : Nat) (start : Machine n k Job ν)
    (first : Nat) : List (Moment n k Job ν) → Machine n k Job ν → Nat → Prop
  | start : Counting home mutex rounds start first [] start first
  | work {newer : List (Moment n k Job ν)} {machine : Machine n k Job ν} {counter : Nat}
      (counting : Counting home mutex rounds start first newer machine counter)
      (going : machine.outcome = none) (library : machine.inOwnCode = false) :
      Counting home mutex rounds start first (⟨machine, .work⟩ :: newer) machine.step counter
  | turn {newer : List (Moment n k Job ν)} {machine : Machine n k Job ν} {counter after : Nat}
      {moves : List (Move n k Job ν)}
      (counting : Counting home mutex rounds start first newer machine counter)
      (turn : Turn home mutex rounds machine.code counter moves after)
      (allowed : machine.allows home moves = true) :
      Counting home mutex rounds start first (trail newer machine moves) (machine.play moves) after

/-- The mutex is set up and open, and the initial context is about to make the threads. -/
structure Ready (home : Fin n) (mutex : Fin k) (past : List (Moment n k Job ν))
    (machine : Machine n k Job ν) : Prop where
  own : machine.inOwnCode = true
  code : machine.code = .main
  alone : issued past = []
  usable : (machine.cells mutex).status = .initialized
  opened : (machine.cells mutex).locked = false

/-- The thread that writes the counter by this move. -/
def Moment.storer? (home : Fin n) (moment : Moment n k Job ν) : Option ThreadId :=
  match moment.move with
  | .think (.stored _) => some (moment.thread home)
  | _ => none

/-- The threads that have written the counter, once for each time, the last one first. -/
def storers (home : Fin n) (past : List (Moment n k Job ν)) : List ThreadId :=
  past.filterMap (Moment.storer? home)

/-- What a thread can have been sent into the library for at a job. -/
inductive Doing (home : Fin n) (mutex : Fin k) (rounds : Nat) : Job → Move n k Job ν → Prop
  | asks {job : Job} {request : Call n k Job ν} (minds : request.Minds home mutex rounds) :
      Doing home mutex rounds job (.ask request)
  | locks {left : Nat} : Doing home mutex rounds (.inside left) (.ask (.lock home mutex))
  | unlocks {left : Nat} : Doing home mutex rounds (.outside left) (.ask (.unlock home mutex))
  | leaves {value : ν} : Doing home mutex rounds (.outside 0) (.leave value)

/-- A thread has the mutex, as its job and its errand tell. -/
def Critical (home : Fin n) (mutex : Fin k) (errand : Option (Move n k Job ν))
    (context : Context n k Job ν) : Prop :=
  match context.code with
  | .main => False
  | .outside _ => pending? mutex context.todo = some (.unlock home mutex)
  | .inside _ => errand = some (.ask (.lock home mutex)) →
      (∃ host, context.todo = [.own host]) ∨ .reply .done ∈ context.todo
  | .holding .. | .stored _ => True

/-- What holds of a thread of the program that has not ended. The moves since the start
are `newer`, and those before it `before`. -/
structure Fares (home : Fin n) (mutex : Fin k) (rounds : Nat)
    (before newer : List (Moment n k Job ν)) (cells : Mutex (Context n k Job ν) ν)
    (counter : Nat) (thread : ThreadId) (context : Context n k Job ν) : Prop where
  doing : (∃ host, context.todo = [.own host]) ∨
    ∀ move, errand? home thread (newer ++ before) = some move →
      Doing home mutex rounds context.code move
  smooth : ∀ request, errand? home thread (newer ++ before) = some (.ask request) →
    request.Uses home mutex → Smooth context.todo
  owns : cells.owner? = some thread ↔
    Critical home mutex (errand? home thread (newer ++ before)) context
  share : context.code = .main ∨
    thread ∈ issued (newer ++ before) ∧
      (storers home newer).count thread + context.code.owed = rounds
  current : ∀ left value, context.code = .holding left value → value = counter

/-- The calls of lock and unlock that have come back since the start have succeeded. -/
def Granted (home : Fin n) (mutex : Fin k) (before newer : List (Moment n k Job ν)) : Prop :=
  ∀ moment older request answer, (moment :: older) <:+ newer → request.Uses home mutex →
    moment.Answers answer →
      errand? home (moment.thread home) (older ++ before) = some (.ask request) → answer = .done

/-- What holds at every point of a run of the program. -/
structure Kept (home : Fin n) (mutex : Fin k) (rounds first : Nat)
    (before newer : List (Moment n k Job ν)) (machine : Machine n k Job ν) (counter : Nat) :
    Prop where
  usable : (machine.cells mutex).status = .initialized
  fares : ∀ thread context, Alive home machine thread context →
    Fares home mutex rounds before newer (machine.cells mutex) counter thread context
  owner : ∀ thread, (machine.cells mutex).owner? = some thread →
    thread ∈ issued (newer ++ before) ∧ exitValue? home thread (newer ++ before) = none
  ends : ∀ thread ∈ issued (newer ++ before), ∀ value,
    exitValue? home thread (newer ++ before) = some value →
      (storers home newer).count thread = rounds
  stores : ∀ thread ∈ storers home newer, thread ∈ issued (newer ++ before)
  distinct : (issued (newer ++ before)).Nodup
  total : counter = first + (storers home newer).length
  granted : Granted home mutex before newer

variable {home : Fin n} {mutex : Fin k} {rounds first counter : Nat}
  {before newer : List (Moment n k Job ν)} {start machine : Machine n k Job ν}
  {request : Call n k Job ν} {thread : ThreadId} {job : Job} {context : Context n k Job ν}
  {rest : List (Action n k Job ν)}

theorem Call.Minds.create :
    (.create home (.outside rounds) : Call n k Job ν).Minds home mutex rounds :=
  ⟨rfl, fun runtime entry same => by cases same; rfl, nofun⟩

theorem Call.Minds.join :
    (.join home thread : Call n k Job ν).Minds home mutex rounds := ⟨rfl, nofun, nofun⟩

theorem Call.Minds.yield :
    (.yield home : Call n k Job ν).Minds home mutex rounds := ⟨rfl, nofun, nofun⟩

theorem Call.Minds.unused (minds : request.Minds home mutex rounds) :
    ¬request.Uses home mutex := by
  intro uses
  have elsewhere := minds.elsewhere
  cases uses <;> simp [pending?, Call.actions, Action.concerns] at elsewhere

theorem Doing.lock
    (doing : Doing home mutex rounds job (.ask (.lock home mutex) : Move n k Job ν)) :
    ∃ left, job = .inside left := by
  cases doing with
  | asks minds => exact absurd .lock minds.unused
  | locks => exact ⟨_, rfl⟩

theorem Doing.unlock
    (doing : Doing home mutex rounds job (.ask (.unlock home mutex) : Move n k Job ν)) :
    ∃ left, job = .outside left := by
  cases doing with
  | asks minds => exact absurd .unlock minds.unused
  | unlocks => exact ⟨_, rfl⟩

/-- Whoever works on the mutex locks or unlocks it. -/
theorem Doing.uses {move : Move n k Job ν} {me : ThreadId} {action : Action n k Job ν}
    (doing : Doing home mutex rounds job move) (serves : Serves home mutex me move action) :
    ∃ request, move = .ask request ∧ request.Uses home mutex := by
  cases doing with
  | asks minds =>
      refine ⟨_, rfl, ?_⟩
      have elsewhere := minds.elsewhere
      cases serves with
      | lock | claim | claimAgain | woken | acquire => exact .lock
      | unlock | handOn => exact .unlock
      | _ => simp [pending?, Call.actions, Action.concerns] at elsewhere
  | locks => exact ⟨_, rfl, .lock⟩
  | unlocks => exact ⟨_, rfl, .unlock⟩
  | leaves => cases serves

theorem issued_append {past : List (Moment n k Job ν)} (later : List (Moment n k Job ν))
    (member : thread ∈ issued past) : thread ∈ issued (later ++ past) := by
  rw [issued, List.filterMap_append]
  exact List.mem_append_right _ member

/-- What a piece of work comes to for the mutex while the program runs. -/
inductive Advances (home : Fin n) (mutex : Fin k) (past : List (Moment n k Job ν))
    (machine after : Machine n k Job ν) : Prop
  | decides (cells : Machine.SameCells mutex machine after) (away : after.inOwnCode = false)
      (decision : ∃ parking rest, machine.todo = .schedule home parking :: rest) :
      Advances home mutex past machine after
  | aside (working : ∀ parking rest, machine.todo ≠ .schedule home parking :: rest)
      (other : ∀ request, errand? home (machine.thread home) past = some (.ask request) →
        ¬request.Uses home mutex)
      (cells : after.cells mutex = machine.cells mutex)
      (pending : pending? mutex after.todo = pending? mutex machine.todo) :
      Advances home mutex past machine after
  | uses {request : Call n k Job ν}
      (working : ∀ parking rest, machine.todo ≠ .schedule home parking :: rest)
      (errand : errand? home (machine.thread home) past = some (.ask request))
      (uses : request.Uses home mutex) (well : GoesWell home mutex machine after request) :
      Advances home mutex past machine after

namespace Kept

theorem running (kept : Kept home mutex rounds first before newer machine counter) :
    Fares home mutex rounds before newer (machine.cells mutex) counter (machine.thread home)
      ⟨machine.todo, machine.code⟩ := kept.fares _ _ .running

theorem doing (kept : Kept home mutex rounds first before newer machine counter)
    (library : machine.inOwnCode = false) {move : Move n k Job ν}
    (errand : errand? home (machine.thread home) (newer ++ before) = some move) :
    Doing home mutex rounds machine.code move := by
  rcases kept.running.doing with ⟨host, todo⟩ | doing
  · have todo : machine.todo = [.own host] := todo
    rw [Machine.inOwnCode, todo] at library
    cases library
  · exact doing move errand

theorem advances (kept : Kept home mutex rounds first before newer machine counter)
    (sound : Sound home (newer ++ before) machine) (going : machine.outcome = none)
    (library : machine.inOwnCode = false) (goes : machine.step.outcome = none) :
    Advances home mutex (newer ++ before) machine machine.step := by
  have uses {request : Call n k Job ν}
      (working : ∀ parking rest, machine.todo ≠ .schedule home parking :: rest)
      (errand : errand? home (machine.thread home) (newer ++ before) = some (.ask request))
      (uses : request.Uses home mutex) :
      Advances home mutex (newer ++ before) machine machine.step :=
    .uses working errand uses (sound.goes_well going library goes working errand uses
      (kept.running.smooth request errand uses))
  cases sound.works going library goes mutex with
  | decides todo cells suspended =>
      refine .decides cells (eq_false_of_ne_true fun back => ?_) ⟨_, _, todo⟩
      obtain ⟨host, others, own⟩ := Machine.own_of_inOwnCode back
      exact absurd (stage_own (own ▸ suspended.stage)).1 (by decide)
  | handles todo concerned errand serves asked handles becomes left stays =>
      obtain ⟨request, rfl, used⟩ := (kept.doing library errand).uses serves
      refine uses (fun parking rest same => ?_) errand used
      cases todo.symm.trans same
      cases serves
  | aside todo apart elsewhere cells pending stays =>
      have working (parking : Option (Fin k)) (others : List (Action n k Job ν)) :
          machine.todo ≠ .schedule home parking :: others := fun same =>
        apart parking (List.cons.inj (todo.symm.trans same)).1
      by_cases used : ∃ request : Call n k Job ν, request.Uses home mutex ∧
          errand? home (machine.thread home) (newer ++ before) = some (.ask request)
      · obtain ⟨request, used, errand⟩ := used
        exact uses working errand used
      · refine .aside working (fun request errand used' => used ⟨request, used', errand⟩) cells ?_
        rw [pending, todo, pending_aside elsewhere]

/-- Other threads than the running one get or lose the mutex by no piece of work. -/
theorem owner_other (kept : Kept home mutex rounds first before newer machine counter)
    (run : Run home (newer ++ before) machine) (going : machine.outcome = none)
    (library : machine.inOwnCode = false) (goes : machine.step.outcome = none)
    (other : thread ≠ machine.thread home) :
    (machine.step.cells mutex).owner? = some thread ↔
      (machine.cells mutex).owner? = some thread := by
  have sound := run.sound going
  cases kept.advances sound going library goes with
  | decides cells => rw [cells.owner]
  | aside working unused cells => rw [cells]
  | uses working errand uses well =>
      exact well.owner_other uses (run.marked going mutex) sound.real other

end Kept

/-- A thread that waits is as critical as it was when it was about to decide. -/
theorem critical_pauses {errand : Option (Move n k Job ν)} {parking : Option (Fin k)}
    (suspended : Suspended home thread errand rest) :
    Critical home mutex errand ⟨.schedule home parking :: rest, job⟩ ↔
      Critical home mutex errand ⟨rest, job⟩ := by
  unfold Critical
  cases job with
  | main | holding | stored => rfl
  | outside left =>
      -- Nobody waits before it has begun to unlock.
      have begun : .unlock home mutex ∉ rest := fun member =>
        absurd (suspended.lasting _ member) (by simp [Action.brief])
      constructor
      · intro pending
        rcases List.mem_cons.mp (pending_mem pending) with same | member
        · cases same
        · exact absurd member begun
      · intro pending
        exact absurd (pending_mem pending) begun
  | inside left =>
      refine imp_congr_right fun asks => ?_
      have waits (host : Option (Fin n)) : rest ≠ [.own host] := by
        rintro rfl
        exact absurd (stage_own suspended.stage).1 (by decide)
      simp [waits]

namespace Kept

theorem owns_working (kept : Kept home mutex rounds first before newer machine counter)
    (run : Run home (newer ++ before) machine) (going : machine.outcome = none)
    (library : machine.inOwnCode = false) (goes : machine.step.outcome = none)
    (working : ∀ parking rest, machine.todo ≠ .schedule home parking :: rest) :
    (machine.step.cells mutex).owner? = some (machine.thread home) ↔
      Critical home mutex (errand? home (machine.thread home) (newer ++ before))
        ⟨machine.step.todo, machine.step.code⟩ := by
  have sound := run.sound going
  have owns := kept.running.owns
  rw [sound.code_working going working]
  cases kept.advances sound going library goes with
  | decides cells away decision =>
      obtain ⟨parking, rest, todo⟩ := decision
      exact absurd todo (working parking rest)
  | aside working unused cells pending =>
      rw [cells, owns]
      unfold Critical
      cases machine.code with
      | main | holding | stored => rfl
      | outside left => rw [pending]
      | inside left =>
          have idle := fun asks => unused _ asks .lock
          exact ⟨fun _ asks => absurd asks idle, fun _ asks => absurd asks idle⟩
  | uses working errand uses well =>
      have doing := kept.doing library errand
      cases uses with
      | lock =>
          obtain ⟨left, code⟩ := doing.lock
          have away (host : Option (Fin n)) : machine.todo ≠ [.own host] := by
            intro todo
            rw [Machine.inOwnCode, todo] at library
            cases library
          simp only [Critical, code, errand, away, exists_false, false_or, true_imp_iff] at owns ⊢
          exact well.lock_owner sound.real owns
      | unlock =>
          obtain ⟨left, code⟩ := doing.unlock
          simp only [Critical, code] at owns ⊢
          exact well.unlock_owner owns

/-- The running thread fares on between decisions. -/
theorem fares_acting (kept : Kept home mutex rounds first before newer machine counter)
    (run : Run home (newer ++ before) machine) (going : machine.outcome = none)
    (library : machine.inOwnCode = false) (goes : machine.step.outcome = none)
    (working : ∀ parking rest, machine.todo ≠ .schedule home parking :: rest) :
    Fares home mutex rounds before (⟨machine, .work⟩ :: newer) (machine.step.cells mutex) counter
      (machine.thread home) ⟨machine.step.todo, machine.step.code⟩ := by
  have sound := run.sound going
  have running := kept.running
  have code : machine.step.code = machine.code := sound.code_working going working
  have errand (thread : ThreadId) :
      errand? home thread (⟨machine, .work⟩ :: (newer ++ before)) =
        errand? home thread (newer ++ before) := errand_work home thread machine _
  constructor
  case doing =>
    refine .inr fun move asked => ?_
    rw [List.cons_append, errand] at asked
    exact code ▸ kept.doing library asked
  case smooth =>
    intro request asked uses
    rw [List.cons_append, errand] at asked
    cases kept.advances sound going library goes with
    | decides cells away decision =>
        obtain ⟨parking, rest, todo⟩ := decision
        exact absurd todo (working parking rest)
    | aside working unused => exact absurd uses (unused request asked)
    | uses working asked' uses' well =>
        cases asked.symm.trans asked'
        refine well.smooth uses (running.smooth request asked uses) kept.usable ?_
        rintro rfl pending
        obtain ⟨left, outside⟩ := (kept.doing library asked).unlock
        refine running.owns.mpr ?_
        simpa only [Critical, outside] using pending
  case owns =>
    rw [List.cons_append, errand]
    exact kept.owns_working run going library goes working
  case share =>
    rw [code]
    refine running.share.imp_right fun ⟨member, count⟩ => ⟨?_, count⟩
    exact issued_append [_] member
  case current =>
    intro left value holding
    exact running.current left value (code ▸ holding)

/-- Who waits fares on as before. -/
theorem fares_waiting (kept : Kept home mutex rounds first before newer machine counter)
    (run : Run home (newer ++ before) machine) (going : machine.outcome = none)
    (library : machine.inOwnCode = false) (goes : machine.step.outcome = none)
    (alive : Alive home machine thread context) (other : thread ≠ machine.thread home) :
    Fares home mutex rounds before (⟨machine, .work⟩ :: newer) (machine.step.cells mutex) counter
      thread context := by
  have fares := kept.fares _ _ alive
  have errand := errand_work home thread machine (newer ++ before)
  constructor
  case doing =>
    rw [List.cons_append, errand]
    exact fares.doing
  case smooth =>
    rw [List.cons_append, errand]
    exact fares.smooth
  case owns =>
    rw [List.cons_append, errand]
    exact (kept.owner_other run going library goes other).trans fares.owns
  case share =>
    exact fares.share.imp_right fun ⟨member, count⟩ => ⟨issued_append [_] member, count⟩
  case current => exact fares.current

/-- The thread that makes a decision fares on behind it. -/
theorem fares_deciding {parking : Option (Fin k)}
    (kept : Kept home mutex rounds first before newer machine counter)
    (sound : Sound home (newer ++ before) machine) (going : machine.outcome = none)
    (library : machine.inOwnCode = false) (goes : machine.step.outcome = none)
    (todo : machine.todo = .schedule home parking :: rest) :
    Fares home mutex rounds before (⟨machine, .work⟩ :: newer) (machine.step.cells mutex) counter
      (machine.thread home) ⟨rest, machine.code⟩ := by
  have fares := kept.running
  rw [todo] at fares
  have errand := errand_work home (machine.thread home) machine (newer ++ before)
  have suspended : Suspended home (machine.thread home)
      (errand? home (machine.thread home) (newer ++ before)) rest := by
    have stage := todo ▸ sound.stage
    rw [(stage_resume stage).1] at stage
    exact .inr ⟨parking, stage⟩
  constructor
  case doing =>
    refine .inr fun move asked => ?_
    rw [List.cons_append, errand] at asked
    exact kept.doing library asked
  case smooth =>
    intro request asked uses
    rw [List.cons_append, errand] at asked
    exact (fares.smooth request asked uses).tail
  case owns =>
    rw [List.cons_append, errand, ← critical_pauses suspended, ← fares.owns]
    cases kept.advances sound going library goes with
    | decides cells => rw [cells.owner]
    | aside working => exact absurd todo (working parking rest)
    | uses working => exact absurd todo (working parking rest)
  case share =>
    exact fares.share.imp_right fun ⟨member, count⟩ => ⟨issued_append [_] member, count⟩
  case current => exact fares.current

/-- A new thread has all its rounds before it. -/
theorem fares_beginning {entry : Job}
    (kept : Kept home mutex rounds first before newer machine counter)
    (run : Run home (newer ++ before) machine) (going : machine.outcome = none)
    (library : machine.inOwnCode = false) (goes : machine.step.outcome = none)
    (todo : machine.todo = .issue home entry :: rest)
    (made : Moment.issued? ⟨machine, .work⟩ = some thread) :
    Fares home mutex rounds before (⟨machine, .work⟩ :: newer) (machine.step.cells mutex) counter
      thread ⟨[.begin], entry⟩ := by
  have sound := run.sound going
  have errand := errand_work home thread machine (newer ++ before)
  have newborn := (sound.newborn going todo goes made).2
  have creating := sound.creating todo
  have unissued := run.newborn_unissued going todo goes made
  have entry : entry = .outside rounds := by
    have doing := kept.doing library creating
    generalize machine.code = job at doing
    cases doing with
    | asks minds => exact minds.makes _ _ rfl
  have other : thread ≠ machine.thread home := by
    rintro rfl
    rw [newborn] at creating
    cases creating
  subst entry
  constructor
  case doing =>
    rw [List.cons_append, errand, newborn]
    exact .inr (by simp)
  case smooth =>
    rw [List.cons_append, errand, newborn]
    simp
  case owns =>
    refine iff_of_false (fun owner => ?_) (by simp [Critical, pending?, Action.concerns])
    have owner := (kept.owner_other run going library goes other).mp owner
    exact unissued (kept.owner thread owner).1
  case share =>
    refine .inr ⟨?_, ?_⟩
    · rw [List.cons_append, issued, List.filterMap_cons, made]
      exact List.mem_cons_self
    · have unstored : thread ∉ storers home newer := fun member =>
        unissued (kept.stores thread member)
      change (storers home newer).count thread + rounds = rounds
      rw [List.count_eq_zero_of_not_mem unstored, Nat.zero_add]
  case current =>
    intro left value same
    cases same

theorem fares_work (kept : Kept home mutex rounds first before newer machine counter)
    (run : Run home (newer ++ before) machine) (going : machine.outcome = none)
    (library : machine.inOwnCode = false) (goes : machine.step.outcome = none)
    (alive : Alive home machine.step thread context) :
    Fares home mutex rounds before (⟨machine, .work⟩ :: newer) (machine.step.cells mutex) counter
      thread context := by
  have sound := run.sound going
  have fits : Move.Fits home machine .work := library
  cases (sound.evolves going fits goes alive : Evolves home machine .work thread context) with
  | acts stays => exact kept.fares_acting run going library goes (stays rfl)
  | pauses working todo => exact kept.fares_deciding sound going library goes todo
  | waits earlier other => exact kept.fares_waiting run going library goes earlier other
  | begins working todo made => exact kept.fares_beginning run going library goes todo made

theorem owner_working (kept : Kept home mutex rounds first before newer machine counter)
    (run : Run home (newer ++ before) machine) (going : machine.outcome = none)
    (library : machine.inOwnCode = false) (goes : machine.step.outcome = none)
    (owner : (machine.step.cells mutex).owner? = some thread) :
    thread ∈ issued (newer ++ before) ∧ exitValue? home thread (newer ++ before) = none := by
  by_cases self : thread = machine.thread home
  · subst self
    cases kept.advances (run.sound going) going library goes with
    | decides cells => exact kept.owner _ (cells.owner ▸ owner)
    | aside working unused cells => exact kept.owner _ (cells ▸ owner)
    | uses working errand uses well =>
        have doing := kept.doing library errand
        refine ⟨(kept.running.share.resolve_left ?_).1, ?_⟩
        · intro main
          have main : machine.code = .main := main
          cases uses with
          | lock =>
              obtain ⟨left, code⟩ := doing.lock
              cases main.symm.trans code
          | unlock =>
              obtain ⟨left, code⟩ := doing.unlock
              cases main.symm.trans code
        · rw [exitValue?, errand]
          cases uses <;> rfl
  · exact kept.owner thread ((kept.owner_other run going library goes self).mp owner)

theorem granted_working (kept : Kept home mutex rounds first before newer machine counter)
    (run : Run home (newer ++ before) machine) (going : machine.outcome = none)
    (goes : machine.step.outcome = none) :
    Granted home mutex before (⟨machine, .work⟩ :: newer) := by
  intro moment older request answer suffix uses answers errand
  rcases List.suffix_cons_iff.mp suffix with same | earlier
  · cases same
    obtain ⟨library, back, answered⟩ := answers
    have library : machine.inOwnCode = false := library
    have back : machine.step.inOwnCode = true := back
    cases kept.advances (run.sound going) going library goes with
    | decides cells away => exact absurd (away.symm.trans back) (by decide)
    | aside working unused => exact absurd uses (unused request errand)
    | uses working errand' uses' well => exact answered.symm.trans (well.returns back)
  · exact kept.granted moment older request answer earlier uses answers errand

theorem work (kept : Kept home mutex rounds first before newer machine counter)
    (run : Run home (newer ++ before) machine) (going : machine.outcome = none)
    (library : machine.inOwnCode = false) (goes : machine.step.outcome = none) :
    Kept home mutex rounds first before (⟨machine, .work⟩ :: newer) machine.step counter := by
  have sound := run.sound going
  have exits (thread : ThreadId) : exitValue? home thread (⟨machine, .work⟩ :: (newer ++ before)) =
      exitValue? home thread (newer ++ before) := by
    rw [exitValue?, errand_work, exitValue?]
  constructor
  case usable =>
    cases kept.advances sound going library goes with
    | decides cells => exact cells.status.trans kept.usable
    | aside working unused cells => exact cells ▸ kept.usable
    | uses working errand uses well => exact well.usable uses kept.usable
  case fares => exact fun thread context => kept.fares_work run going library goes
  case owner =>
    intro thread owner
    obtain ⟨member, exit⟩ := kept.owner_working run going library goes owner
    exact ⟨issued_append [_] member, (exits thread).trans exit⟩
  case ends =>
    intro thread member value exit
    rw [List.cons_append, exits] at exit
    rw [List.cons_append, issued, List.filterMap_cons] at member
    cases made : Moment.issued? ⟨machine, .work⟩ with
    | none =>
        rw [made] at member
        exact kept.ends thread member value exit
    | some other =>
        rw [made] at member
        rcases List.mem_cons.mp member with rfl | member
        · obtain ⟨entry, rest, todo⟩ := sound.making made
          rw [exitValue?, (sound.newborn going todo goes made).2] at exit
          cases exit
        · exact kept.ends thread member value exit
  case stores => exact fun thread member => issued_append [_] (kept.stores thread member)
  case distinct =>
    rw [List.cons_append, issued, List.filterMap_cons]
    cases made : Moment.issued? ⟨machine, .work⟩ with
    | none => exact kept.distinct
    | some other =>
        obtain ⟨entry, rest, todo⟩ := sound.making made
        exact List.nodup_cons.mpr ⟨run.newborn_unissued going todo goes made, kept.distinct⟩
  case total => exact kept.total
  case granted => exact kept.granted_working run going goes

end Kept

end UserThreads
