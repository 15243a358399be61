import UserThreads.Proofs.Deliveries
import UserThreads.Proofs.Turns

/-!
No increment is lost: once all threads of the program that counts have been joined,
the counter has grown by as much as they were to add, and the mutex is free.
-/

namespace UserThreads

variable {n k : Nat} {ν : Type} {home : Fin n} {mutex : Fin k} {rounds first counter : Nat}
  {before newer : List (Moment n k Job ν)} {start machine : Machine n k Job ν}
  {thread : ThreadId}

/-- The length of what is made up of some items, each of which occurs equally often. -/
theorem length_of_counts {items made : List ThreadId} {times : Nat} (distinct : items.Nodup)
    (among : ∀ thread ∈ made, thread ∈ items)
    (counts : ∀ thread ∈ items, made.count thread = times) :
    made.length = items.length * times := by
  induction items generalizing made with
  | nil =>
      rw [List.eq_nil_iff_forall_not_mem.mpr fun thread member => nomatch among thread member]
      simp
  | cons item items ih =>
      obtain ⟨fresh, distinct⟩ := List.nodup_cons.mp distinct
      -- The other items make up what is left without this one.
      have rest : made.countP (fun thread => ¬(thread == item)) = items.length * times := by
        rw [List.countP_eq_length_filter]
        refine ih distinct (fun thread member => ?_) fun thread member => ?_
        · obtain ⟨member, other⟩ := List.mem_filter.mp member
          exact (List.mem_cons.mp (among thread member)).resolve_left (by simpa using other)
        · have other : thread ≠ item := fun same => fresh (same ▸ member)
          rw [List.count_filter (by simpa using other)]
          exact counts thread (List.mem_cons_of_mem _ member)
      have here : made.countP (· == item) = times := counts item List.mem_cons_self
      rw [List.length_eq_countP_add_countP (· == item), here, rest, List.length_cons,
        Nat.succ_mul, Nat.add_comm]

/-- The call that `asking` makes after the moves `past` has come back with success in
the moves `recent` since, before its thread has made another one. -/
def Served (home : Fin n) (request : Call n k Job ν) (asking : Moment n k Job ν)
    (recent past : List (Moment n k Job ν)) : Prop :=
  ∃ later back between, recent = later ++ back :: between ∧
    back.thread home = asking.thread home ∧
    back.Succeeds home request (between ++ asking :: past) ∧
    ∀ moment ∈ between, moment.thread home = asking.thread home → moment.enters = false

/-- What the program that counts has come to when its threads have been joined. -/
structure Counted (home : Fin n) (mutex : Fin k) (rounds first : Nat)
    (before newer : List (Moment n k Job ν)) (machine : Machine n k Job ν) (counter : Nat) :
    Prop where
  counter : counter = first + (issued (newer ++ before)).length * rounds
  granted : Granted home mutex before newer
  served : ∀ recent asking older request, newer = recent ++ asking :: older →
    asking.move = .ask request → request.Uses home mutex →
      Served home request asking recent (older ++ before)
  unlocked : (machine.cells mutex).locked = false
  unowned : (machine.cells mutex).owner? = none
  unparked : machine.parkedOn mutex = []
  waiters : (machine.cells mutex).waiters.length = 0

/-- Only the threads made use the mutex. -/
theorem Counting.user_issued {moment : Moment n k Job ν} {request : Call n k Job ν}
    (counting : Counting home mutex rounds start first newer machine counter)
    (begun : Run home before start) (ready : Ready home mutex before start)
    (going : machine.outcome = none) (member : moment ∈ newer)
    (asks : moment.move = .ask request) (uses : request.Uses home mutex) :
    moment.thread home ∈ issued (newer ++ before) := by
  induction counting with
  | start => cases member
  | work counting before library ih =>
      rcases List.mem_cons.mp member with rfl | member
      · cases asks
      · exact issued_append [_] (ih before member)
  | @turn newer machine counter after moves counting turn allowed ih =>
      obtain ⟨before, inside⟩ := turn.begins allowed
      have share := (counting.kept begun ready before).running.share
      rw [trail_eq, List.append_assoc]
      refine issued_append _ ?_
      rw [trail_eq] at member
      rcases List.mem_append.mp member with new | earlier
      · generalize code : machine.code = job at turn
        simp only [code] at share
        cases turn with
        | asks minds =>
            obtain rfl := List.mem_singleton.mp new
            cases asks
            exact absurd uses minds.unused
        | reads | writes | leaves =>
            obtain rfl := List.mem_singleton.mp new
            cases asks
        | locks | unlocks =>
            have ours := (share.resolve_left nofun).1
            rcases List.mem_cons.mp new with rfl | thinks
            · exact ours
            · obtain rfl := List.mem_singleton.mp thinks
              exact ours
      · exact ih before earlier

/-- All threads that have been made have ended. -/
def AllEnded (home : Fin n) (past : List (Moment n k Job ν)) : Prop :=
  ∀ thread ∈ issued past, ∃ value, exitValue? home thread past = some value

namespace Kept

theorem unowned (kept : Kept home mutex rounds first before newer machine counter)
    (ended : AllEnded home (newer ++ before)) : (machine.cells mutex).owner? = none := by
  cases owner : (machine.cells mutex).owner? with
  | none => rfl
  | some thread =>
      obtain ⟨member, exit⟩ := kept.owner thread owner
      obtain ⟨value, left⟩ := ended thread member
      exact absurd (exit.symm.trans left) (by simp)

/-- Whoever is parked has called for the mutex, and so has not ended. -/
theorem unparked (kept : Kept home mutex rounds first before newer machine counter)
    (sound : Sound home (newer ++ before) machine) (ended : AllEnded home (newer ++ before)) :
    machine.parkedOn mutex = [] := by
  refine List.eq_nil_iff_forall_not_mem.mpr fun block member => ?_
  cases present : (machine.runtime home).scheduler with
  | none =>
      rw [(sound.unpopulated present).parked mutex] at member
      cases member
  | some scheduler =>
      have parked := (sound.populated scheduler present).parked mutex block member
      have fares := kept.fares _ _ (.parked member)
      obtain ⟨-, move, errand, resumes⟩ := stage_resumes parked.stage
      have doing : Doing home mutex rounds block.context.code move := by
        refine (fares.doing.resolve_left ?_) move errand
        rintro ⟨host, own⟩
        obtain ⟨first, others, left, foreign⟩ := resumes.foreign
        cases left.symm.trans own
        cases foreign
      have asked : move = .ask (.lock home mutex) := by
        generalize block.context.todo = todo at resumes
        cases resumes with
        | waking => rfl
      obtain ⟨left, inside⟩ := (asked ▸ doing).lock
      obtain ⟨member, -⟩ := fares.share.resolve_left (by simp [inside])
      obtain ⟨value, exit⟩ := ended block.id member
      rw [exitValue?, errand, asked] at exit
      cases exit

/-- The initial context has nothing to do to the mutex. -/
theorem main_idle (kept : Kept home mutex rounds first before newer machine counter)
    (sound : Sound home (newer ++ before) machine) (main : machine.code = .main) :
    pending? mutex machine.todo = none := by
  rcases kept.running.doing with ⟨host, own⟩ | doing
  · have own : machine.todo = [.own host] := own
    rw [own]
    rfl
  · refine stage_idle sound.stage fun request errand => ?_
    have doing : Doing home mutex rounds machine.code (.ask request) := doing _ errand
    rw [main] at doing
    cases doing with
    | asks minds => exact minds.elsewhere

/-- A call of a thread that has ended since has come back, and so with success. -/
theorem serves {recent older : List (Moment n k Job ν)} {asking : Moment n k Job ν}
    {request : Call n k Job ν} {value : ν}
    (kept : Kept home mutex rounds first before (recent ++ asking :: older) machine counter)
    (run : Run home (recent ++ asking :: older ++ before) machine)
    (asks : asking.move = .ask request) (uses : request.Uses home mutex)
    (exit : exitValue? home (asking.thread home) (recent ++ asking :: older ++ before) =
      some value) : Served home request asking recent (older ++ before) := by
  have enters : asking.enters = true := by simp [Moment.enters, asks]
  have errand {between : List (Moment n k Job ν)}
      (alone : ∀ moment ∈ between, moment.thread home = asking.thread home →
        moment.enters = false) :
      errand? home (asking.thread home) (between ++ asking :: (older ++ before)) =
        some (.ask request) := (errand_of_alone enters alone).trans (congrArg some asks)
  rw [List.append_assoc, List.cons_append] at run exit
  rcases run.back_between enters with alone | ⟨later, back, between, rfl, comes, alone⟩
  · rw [exitValue?, errand alone] at exit
    cases uses <;> cases exit
  · obtain ⟨same, -, answer, answers⟩ := comes
    have asked := same ▸ errand alone
    have answered : answer = .done := by
      refine kept.granted back (between ++ asking :: older) request answer ?_ uses answers ?_
      · exact ⟨later, by simp⟩
      · simpa using asked
    subst answered
    exact ⟨later, back, between, rfl, same, ⟨answers, asked⟩, alone⟩

end Kept

theorem Counting.counts (counting : Counting home mutex rounds start first newer machine counter)
    (begun : Run home before start) (ready : Ready home mutex before start)
    (going : machine.outcome = none)
    (joined : ∀ thread ∈ issued (newer ++ before),
      thread ∈ (deliveries home (newer ++ before)).map Prod.fst) :
    Counted home mutex rounds first before newer machine counter := by
  have run := counting.run begun
  have sound := run.sound going
  have kept := counting.kept begun ready going
  have ended : AllEnded home (newer ++ before) := by
    intro thread member
    obtain ⟨⟨_, value⟩, delivered, rfl⟩ := List.mem_map.mp (joined thread member)
    exact ⟨value, run.delivered_ended going delivered⟩
  -- Only the initial context is left to run.
  have main : machine.code = .main := by
    refine kept.running.share.resolve_right fun ⟨member, _⟩ => ?_
    exact sound.apart_gone ((run.delivered_sublist_gone going).subset (joined _ member)) rfl
  constructor
  case counter =>
    rw [kept.total, length_of_counts kept.distinct kept.stores fun thread member => ?_]
    obtain ⟨value, left⟩ := ended thread member
    exact kept.ends thread member value left
  case granted => exact kept.granted
  case served =>
    intro recent asking older request split asks uses
    have member : asking ∈ newer := by simp [split]
    have issued := counting.user_issued begun ready going member asks uses
    obtain ⟨value, exit⟩ := ended _ issued
    subst split
    exact kept.serves run asks uses exit
  case unlocked =>
    have marked := run.marked going mutex
    rw [kept.main_idle sound main] at marked
    rw [(marked : _ = _), kept.unowned ended]
    rfl
  case unowned => exact kept.unowned ended
  case unparked => exact kept.unparked sound ended
  case waiters =>
    rw [sound.exact mutex]
    exact congrArg List.length (kept.unparked sound ended)

/-- A turn of own code, and the number of pieces of work up to the next one. -/
def Move.turning (moves : List (Move n k Job ν)) (pieces : Nat) : List (Move n k Job ν) :=
  moves ++ List.replicate pieces .work

theorem Counting.works (counting : Counting home mutex rounds start first newer machine counter)
    (pieces : Nat) (allowed : machine.allows home (List.replicate pieces .work) = true) :
    Counting home mutex rounds start first (trail newer machine (List.replicate pieces .work))
      (machine.play (List.replicate pieces .work)) counter := by
  induction pieces generalizing newer machine with
  | zero => exact counting
  | succ pieces ih =>
      rw [List.replicate_succ, Machine.allows, Bool.and_eq_true, Bool.and_eq_true,
        Option.isNone_iff_eq_none, decide_eq_true_eq] at allowed
      exact ih (counting.work allowed.1.1 allowed.1.2) allowed.2

theorem Counting.turning {moves : List (Move n k Job ν)} {job : Job} {after : Nat}
    (counting : Counting home mutex rounds start first newer machine counter)
    (code : machine.code = job) (turn : Turn home mutex rounds job counter moves after)
    (pieces : Nat) (allowed : machine.allows home (Move.turning moves pieces) = true) :
    Counting home mutex rounds start first (trail newer machine (Move.turning moves pieces))
      (machine.play (Move.turning moves pieces)) after := by
  obtain ⟨turns, works⟩ := Machine.allows_append.mp allowed
  rw [Move.turning, trail_append, Machine.play_append]
  exact (counting.turn (code ▸ turn) turns).works pieces works

def counters : Machine 1 1 Job Nat :=
  .start #v[.new .standard (.new .scripted fun closing => closing == 6)] .main

/-- The mutex is set up. -/
def opening : List (Move 1 1 Job Nat) := Move.calling (.init sole) 2

/-- Two threads count one round each. Thread 1 gives way while it has the mutex, and
thread 2 waits for it. -/
def counted : List (Move 1 1 Job Nat) :=
  Move.turning [.ask (.create sole (.outside 1))] 5 ++
  Move.turning [.ask (.create sole (.outside 1))] 5 ++
  Move.turning [.ask (.join sole ⟨1⟩)] 6 ++
  Move.turning [.think (.inside 0), .ask (.lock sole sole)] 4 ++
  Move.turning [.think (.holding 0 0)] 0 ++
  Move.turning [.ask (.yield sole)] 5 ++
  Move.turning [.think (.inside 0), .ask (.lock sole sole)] 12 ++
  Move.turning [.think (.stored 0)] 0 ++
  Move.turning [.think (.outside 0), .ask (.unlock sole sole)] 5 ++
  Move.turning [.leave 5] 10 ++
  Move.turning [.think (.holding 0 1)] 0 ++
  Move.turning [.think (.stored 0)] 0 ++
  Move.turning [.think (.outside 0), .ask (.unlock sole sole)] 2 ++
  Move.turning [.leave 6] 9 ++
  Move.turning [.ask (.join sole ⟨2⟩)] 4

theorem counts_counted :
    deliveries sole (trail (trail [] counters opening) (counters.play opening) counted) =
        [(⟨2⟩, 6), (⟨1⟩, 5)] ∧
      Counted sole sole 1 0 (trail [] counters opening)
        (trail [] (counters.play opening) counted) ((counters.play opening).play counted) 2 := by
  have begun : Run sole (trail [] counters opening) (counters.play opening) :=
    Run.play (.start rfl .main) opening (by decide)
  have ready : Ready sole sole (trail [] counters opening) (counters.play opening) :=
    ⟨rfl, rfl, rfl, rfl, rfl⟩
  have counting : Counting sole sole 1 (counters.play opening) 0
      (trail [] (counters.play opening) counted) ((counters.play opening).play counted) 2 := by
    simp only [counted, trail_append, Machine.play_append]
    refine .turning ?_ rfl (.asks .join) _ (by decide +kernel)
    refine .turning ?_ (by decide +kernel) .leaves _ (by decide +kernel)
    refine .turning ?_ (by decide +kernel) .unlocks _ (by decide +kernel)
    refine (?_ : Counting _ _ _ _ _ _ _ 1).turning (by decide +kernel) .writes _ (by decide +kernel)
    refine .turning ?_ (by decide +kernel) .reads _ (by decide +kernel)
    refine .turning ?_ (by decide +kernel) .leaves _ (by decide +kernel)
    refine .turning ?_ (by decide +kernel) .unlocks _ (by decide +kernel)
    refine (?_ : Counting _ _ _ _ _ _ _ 0).turning (by decide +kernel) .writes _ (by decide +kernel)
    refine .turning ?_ (by decide +kernel) .locks _ (by decide +kernel)
    refine .turning ?_ rfl (.asks .yield) _ (by decide +kernel)
    refine .turning ?_ (by decide +kernel) .reads _ (by decide +kernel)
    refine .turning ?_ (by decide +kernel) .locks _ (by decide +kernel)
    refine .turning ?_ rfl (.asks .join) _ (by decide +kernel)
    refine .turning ?_ rfl (.asks .create) _ (by decide +kernel)
    refine .turning ?_ rfl (.asks .create) _ (by decide +kernel)
    exact .start
  exact ⟨by decide +kernel, counting.counts begun ready (by decide +kernel) (by decide +kernel)⟩

end UserThreads
