import UserThreads.Proofs.Lagging

/-!
The timer's entry at the head of a call comes to the same as a yield before the call. Any
entries of the timer at such closings in a run may be traded for yields: there is a run with
the yields in place of the entries in which each thread says and hears the same, the
processor changes hands in the same order, and the runtime and the mutexes are the same.
-/

namespace UserThreads

variable {n k : Nat} {C ν : Type} {home : Fin n} {chosen : Nat → Bool}
  {past past' : List (Moment n k C ν)} {machine machine' : Machine n k C ν}
  {move : Move n k C ν} {lag : ThreadId → Lag n k C ν} {plan : Nat → Bool} {seen : Nat}
  {action : Action n k C ν} {rest : List (Action n k C ν)} {guise : Guise n k C ν}

namespace Lag

/-- The yield is yet to come. -/
def early : Lag n k C ν → Bool
  | .entering .. => true
  | _ => false

/-- The machine on which the thread that lags behind runs, but for its guise: the gate is
open until the yield comes. -/
def meet (home : Fin n) (lead : Lag n k C ν) (machine : Machine n k C ν) : Machine n k C ν :=
  (if lead.early then machine.settleGate home false else machine).withTodo
    (lead.todo home machine.todo)

end Lag

theorem Lag.early_put {thread other : ThreadId} {now : Lag n k C ν} (late : now.early = false)
    (others : other ≠ thread → (lag other).early = false) :
    ((thread.put now lag) other).early = false := by
  by_cases same : other = thread
  · rw [same, put_self, late]
  · rw [put_other same, others same]

/-- How the running thread stands, from which another may lag behind. -/
inductive Phase (home : Fin n) (chosen : Nat → Bool) (past : List (Moment n k C ν))
    (machine : Machine n k C ν) : Lag n k C ν → Prop
  | abreast (untraded : past.head?.any (Moment.trades home chosen) = false) :
      Phase home chosen past machine .abreast
  | asked {request : Call n k C ν} {host : Option (Fin n)} (closes : request.closes = true)
      (keeps : request.KeepsTo home) (opened : machine.shut home = false)
      (due : (machine.runtime home).gate.close.2 = true)
      (traded : past.head?.any (Moment.trades home chosen) = true)
      (todo : machine.todo = .close home :: (request.actions.tail ++ [.own host])) :
      Phase home chosen past machine (.entering request host)
  | timer {request : Call n k C ν} {host : Option (Fin n)} (closes : request.closes = true)
      (keeps : request.KeepsTo home) (shut : machine.shut home = true)
      (todo : machine.todo = .timer :: .closed home :: (request.actions.tail ++ [.own host])) :
      Phase home chosen past machine (.entering request host)
  | timerCloses {request : Call n k C ν} {host : Option (Fin n)} (closes : request.closes = true)
      (keeps : request.KeepsTo home) (shut : machine.shut home = true)
      (todo : machine.todo = .close home :: .schedule home none :: .closed home ::
        (request.actions.tail ++ [.own host])) :
      Phase home chosen past machine (.entering request host)
  | timerSchedules {request : Call n k C ν} {host : Option (Fin n)}
      (closes : request.closes = true) (keeps : request.KeepsTo home)
      (shut : machine.shut home = true)
      (todo : machine.todo = .schedule home none :: .closed home ::
        (request.actions.tail ++ [.own host])) :
      Phase home chosen past machine (.entering request host)
  | entered {request : Call n k C ν} {host : Option (Fin n)} (closes : request.closes = true)
      (keeps : request.KeepsTo home) (shut : machine.shut home = true)
      (todo : machine.todo = .closed home :: (request.actions.tail ++ [.own host])) :
      Phase home chosen past machine (.entered request host)

theorem Phase.stands {lead : Lag n k C ν} (phase : Phase home chosen past machine lead) :
    lead.Stands home machine.todo := by
  cases phase with
  | abreast => exact .abreast
  | asked closes keeps _ _ _ todo => exact todo ▸ .entering closes keeps .close
  | timer closes keeps _ todo => exact todo ▸ .entering closes keeps .timer
  | timerCloses closes keeps _ todo => exact todo ▸ .entering closes keeps .timerCloses
  | timerSchedules closes keeps _ todo => exact todo ▸ .entering closes keeps .timerSchedules
  | entered closes keeps _ todo => exact todo ▸ .entered closes keeps

/-- How the threads of a run stand, from which others may lag behind. -/
structure Lags (home : Fin n) (chosen : Nat → Bool) (lag : ThreadId → Lag n k C ν)
    (past : List (Moment n k C ν)) (machine : Machine n k C ν) : Prop where
  running : Phase home chosen past machine (lag (machine.thread home))
  waiting : ∀ thread context, Alive home machine thread context →
    thread ≠ machine.thread home → (lag thread).Stands home context.todo
  late : ∀ thread, thread ≠ machine.thread home → (lag thread).early = false
  unborn : ∀ thread, errand? home thread past = none → lag thread = .abreast
  ordered : (machine.runtime home).gate.beforeClosing = 0

theorem Lags.stands {thread : ThreadId} {context : Context n k C ν}
    (lags : Lags home chosen lag past machine) (sound : Sound home past machine)
    (alive : Alive home machine thread context) : (lag thread).Stands home context.todo := by
  by_cases self : thread = machine.thread home
  · subst self
    rw [sound.alive_running alive]
    exact lags.running.stands
  · exact lags.waiting thread context alive self

theorem errand_before {moment : Moment n k C ν} {thread : ThreadId}
    (unsent : errand? home thread (moment :: past) = none) : errand? home thread past = none := by
  unfold errand? at unsent
  split at unsent
  · cases unsent
  · exact unsent

/-- Where the plans agree, the timer is due in every guise or in none. -/
theorem Gate.due_recast {gate : Gate} (ordered : gate.beforeClosing = 0)
    (planned : gate.closed = false → guise.plan (guise.seen + 1) = gate.close.2) :
    (gate.recast guise).close.2 = gate.close.2 := by
  cases closed : gate.closed with
  | true => simp [Gate.close, Gate.recast, closed]
  | false =>
      have due : gate.close.2 = (gate.installed && gate.plan (gate.seen + 1)) := by
        simp [Gate.close, closed, ordered]
      have due' : (gate.recast guise).close.2 =
          (gate.installed && guise.plan (guise.seen + 1)) := by
        simp [Gate.close, Gate.recast, closed, ordered]
      rw [due', planned closed, due]
      cases gate.installed <;> rfl

theorem Gate.beforeClosing_close {gate : Gate} (ordered : gate.beforeClosing = 0) :
    gate.close.1.beforeClosing = 0 := by
  unfold close
  split
  · exact ordered
  · simp [ordered]

theorem Sound.ordered {move : Move n k C ν} (sound : Sound home past machine)
    (going : machine.outcome = none) (ordered : (machine.runtime home).gate.beforeClosing = 0) :
    ((machine.make move).runtime home).gate.beforeClosing = 0 := by
  cases move with
  | think | ask => exact ordered
  | leave =>
      simp only [Machine.make, Machine.leave]
      split <;> exact ordered
  | panic =>
      simp only [Machine.make, Machine.panic]
      split <;> exact ordered
  | work =>
      cases todo : machine.todo with
      | nil => exact absurd todo (stage_ne_nil sound.stage)
      | cons action rest =>
          rw [Machine.make, Machine.step_eq going todo]
          cases gate : action.movesGate with
          | false =>
              have same := (machine.withTodo rest).perform_bearing home gate
              exact (congrArg Prod.snd same).trans ordered
          | true =>
              rcases stage_moves (todo ▸ sound.stage) gate with rfl | rfl | rfl | rfl
              · rw [Machine.perform, Machine.closeGate_eq, Machine.runtime_push, Machine.setGate,
                  Machine.runtime_setRuntime_self]
                exact Gate.beforeClosing_close ordered
              · simp [Machine.perform, Machine.settleGate, Machine.setGate, ordered]
              · simp only [Machine.perform, Machine.reopenGate, Gate.reopen]
                split <;> rename_i reopened <;> obtain ⟨rfl, -⟩ := Prod.mk.inj reopened <;>
                  simp [Machine.setGate, ordered]
              · simp only [Machine.perform, Machine.enterTimer]
                split <;> exact ordered

namespace Lags

variable {lag' : ThreadId → Lag n k C ν}

/-- Whoever does not run stands as before. -/
theorem others (lags : Lags home chosen lag past machine) (sound : Sound home past machine)
    (going : machine.outcome = none) (fits : move.Fits home machine)
    (goes : (machine.make move).outcome = none)
    (stays : move = .work → ∀ parking rest, machine.todo ≠ .schedule home parking :: rest)
    (same : ∀ thread, thread ≠ machine.thread home → lag' thread = lag thread)
    (asked : lag' (machine.thread home) = .abreast ∨
      errand? home (machine.thread home) (⟨machine, move⟩ :: past) ≠ none)
    (running : Phase home chosen (⟨machine, move⟩ :: past) (machine.make move)
      (lag' (machine.thread home))) :
    Lags home chosen lag' (⟨machine, move⟩ :: past) (machine.make move) := by
  have self := sound.keeps_thread going fits goes stays
  constructor
  case running => rwa [self]
  case waiting =>
    intro thread context alive other
    rw [self] at other
    rw [same thread other]
    cases sound.evolves going fits goes alive with
    | acts | pauses => exact absurd rfl other
    | waits earlier => exact lags.waiting _ _ earlier other
    | begins working todo issued =>
        subst working
        have unborn := sound.newborn going todo goes issued
        rw [lags.unborn _ unborn.2]
        exact .abreast
  case late =>
    intro thread other
    rw [self] at other
    rw [same thread other]
    exact lags.late thread other
  case unborn =>
    intro thread unsent
    by_cases running : thread = machine.thread home
    · subst running
      exact asked.resolve_right fun sent => sent unsent
    · rw [same thread running]
      exact lags.unborn thread (errand_before unsent)
  case ordered => exact sound.ordered going lags.ordered

/-- After a decision everybody stands as before, but for the thread that has made it. -/
theorem decides {parking : Option (Fin k)} (lags : Lags home chosen lag past machine)
    (sound : Sound home past machine) (going : machine.outcome = none)
    (todo : machine.todo = .schedule home parking :: rest) (goes : machine.step.outcome = none)
    (same : ∀ thread, thread ≠ machine.thread home → lag' thread = lag thread)
    (asked : lag' (machine.thread home) = .abreast ∨ lag (machine.thread home) ≠ .abreast)
    (late : (lag' (machine.thread home)).early = false)
    (stands : (lag' (machine.thread home)).Stands home rest) :
    Lags home chosen lag' (⟨machine, .work⟩ :: past) machine.step := by
  have stood (thread : ThreadId) (context : Context n k C ν)
      (alive : Alive home machine.step thread context) :
      (lag' thread).Stands home context.todo := by
    have evolves := sound.evolves_deciding going todo goes alive
    cases evolves with
    | acts stays => exact absurd todo (stays rfl _ _)
    | pauses working deciding =>
        cases todo.symm.trans deciding
        exact stands
    | waits earlier other =>
        rw [same thread other]
        exact lags.waiting _ _ earlier other
    | begins working issuing => cases todo.symm.trans issuing
  have later (thread : ThreadId) : (lag' thread).early = false := by
    by_cases self : thread = machine.thread home
    · exact self ▸ late
    · rw [same thread self]
      exact lags.late thread self
  have shut : machine.step.shut home = true := by
    have kept : (machine.make .work).shut home =
        (Moment.leaves? ⟨machine, .work⟩).getD (machine.shut home) := sound.moves_gate going
    simp only [Moment.leaves?, todo] at kept
    exact kept.trans (stage_resumes (todo ▸ sound.stage)).1
  constructor
  case running =>
    have here := stood _ _ .running
    have late := later (machine.step.thread home)
    generalize lag' (machine.step.thread home) = lead at here late
    generalize left : (Context.mk machine.step.todo machine.step.code).todo = todo at here
    cases here with
    | abreast => exact .abreast rfl
    | entering => cases late
    | entered closes keeps => exact .entered closes keeps shut left
  case waiting => exact fun thread context alive _ => stood thread context alive
  case late => exact fun thread _ => later thread
  case unborn =>
    intro thread unsent
    have unsent := errand_before unsent
    by_cases self : thread = machine.thread home
    · subst self
      exact asked.resolve_right fun behind => behind (lags.unborn _ unsent)
    · rw [same thread self]
      exact lags.unborn thread unsent
  case ordered =>
    have ordered : ((machine.make .work).runtime home).gate.beforeClosing = 0 :=
      sound.ordered going lags.ordered
    exact ordered

end Lags

/-- Both machines are the same, but that the threads of the second one lag behind, that its
timer has the plan `plan`, and what its gate has counted. -/
def Machine.Meets (home : Fin n) (lag : ThreadId → Lag n k C ν) (plan : Nat → Bool) (seen : Nat)
    (machine machine' : Machine n k C ν) : Prop :=
  ∃ lead tally context answer,
    (machine.outcome = none → lead = lag (machine.thread home)) ∧
      machine' = (lead.meet home machine).recast home
        ⟨Lag.cast home lag, plan, seen, tally, context, answer⟩

/-- The second run, in which the threads lag behind those of the first, under the timer's
plan `plan`, of which it has seen `seen` closings. -/
structure Tracks (home : Fin n) (chosen : Nat → Bool) (lag : ThreadId → Lag n k C ν)
    (plan : Nat → Bool) (seen : Nat) (past : List (Moment n k C ν)) (machine : Machine n k C ν)
    (past' : List (Moment n k C ν)) (machine' : Machine n k C ν) : Prop where
  run : Run home past' machine'
  start : origin past' machine' = (origin past machine).planned home plan
  tells : Tells home chosen (Lag.pendings home lag) past past'
  meets : Machine.Meets home lag plan seen machine machine'

theorem Lag.meet_thread (lead : Lag n k C ν) (machine : Machine n k C ν) :
    (lead.meet home machine).thread home = machine.thread home := by
  rw [meet]
  split
  · exact Machine.thread_settleGate false
  · rfl

theorem Moment.utterance_recast (machine : Machine n k C ν) (home : Fin n)
    (guise : Guise n k C ν) (move : Move n k C ν) :
    Moment.utterance? ⟨machine.recast home guise, move⟩ = Moment.utterance? ⟨machine, move⟩ := by
  have left : (machine.recast home guise).todo = machine.todo := rfl
  cases move with
  | work =>
      simp only [Moment.utterance?, left, Machine.current_recast]
  | think | ask | leave | panic => rfl

/-- How far the running thread lags behind does not show in the queues. -/
theorem Sound.recast_put (sound : Sound home past machine) (lag : ThreadId → Lag n k C ν)
    (now : Lag n k C ν)
    (todo : List (Action n k C ν)) (plan : Nat → Bool) (seen : Nat) (tally : GateTally)
    (context : Context n k C ν) (answer : Reply ν) :
    (machine.withTodo todo).recast home
        ⟨Lag.cast home ((machine.thread home).put now lag), plan, seen, tally, context, answer⟩ =
      (machine.withTodo todo).recast home
        ⟨Lag.cast home lag, plan, seen, tally, context, answer⟩ := by
  have same {thread : ThreadId} (apart : thread ≠ machine.thread home) :
      Lag.cast home ((machine.thread home).put now lag) thread = Lag.cast home lag thread := by
    funext context
    rw [Lag.cast, Lag.cast, put_other apart]
  let guise : Guise n k C ν := ⟨Lag.cast home lag, plan, seen, tally, context, answer⟩
  have recast : (machine.withTodo todo).recast home
      { guise with cast := Lag.cast home ((machine.thread home).put now lag) } =
        (machine.withTodo todo).recast home guise := by
    refine Machine.recast_congr (fun scheduler present block member => ?_)
      fun mutex block member => ?_
    · have populated := sound.populated scheduler present
      rcases List.mem_append.mp member with ready | completed
      · exact same (populated.current ▸ populated.apart_ready ready)
      · exact same (populated.current ▸ populated.apart_completed completed)
    · exact same (sound.apart_parked member)
  exact recast

/-- A call that begins with closing the gate, with no entry of the timer. Where it is made
the gate is open; in the other machine it is closed already. -/
theorem Machine.call_behind {request : Call n k C ν} {host : Option (Fin n)}
    {asking : Machine n k C ν} (closes : request.closes = true) (keeps : request.KeepsTo home)
    (stands : asking =
      ((machine.settleGate home false).withTodo [.own host]).recast home guise)
    (going : asking.outcome = none) (shut : machine.shut home = true)
    (ordered : (machine.runtime home).gate.beforeClosing = 0)
    (planned : guise.plan (guise.seen + 1) = false) :
    (asking.make (.ask request)).todo = .close home :: (request.actions.tail ++ [.own host]) ∧
      ((asking.make (.ask request)).runtime home).gate.close.2 = false ∧
      ∃ tally, (asking.make (.ask request)).step =
        (machine.withTodo (request.actions.tail ++ [.own host])).recast home
          { guise with seen := guise.seen + 1, tally } := by
  have todo : (asking.make (.ask request)).todo =
      .close home :: (request.actions.tail ++ [.own host]) :=
    Machine.todo_ask closes keeps (by rw [stands]; rfl)
  have quiet : (asking.runtime home).gate.close.2 = false := by
    have gate : (asking.runtime home).gate =
        ({ (machine.runtime home).gate with closed := false } : Gate).recast guise := by
      rw [stands, Machine.gate_recast]
      exact congrArg (Gate.recast · guise) (Machine.gate_settleGate false)
    simp [gate, Gate.close, Gate.recast, ordered, planned]
  obtain ⟨tally, closed⟩ :=
    (machine.withTodo (request.actions.tail ++ [.own host])).closeGate_behind shut ordered planned
  refine ⟨todo, quiet, tally, ?_⟩
  have called : (asking.make (.ask request)).outcome = none := going
  rw [Machine.step_eq called todo, ← closed, stands]
  rfl

/-- A yield opens the gate and returns; the other machine stays inside the library. -/
theorem Machine.return_behind {host : Option (Fin n)} {returning : Machine n k C ν}
    (stands : returning =
      (machine.withTodo [.reopen home, .reply .done, .own host]).recast home guise)
    (going : machine.outcome = none) (opening : (machine.runtime home).gate.afterOpening = 0) :
    ∃ tally, returning.step = ((machine.withTodo [.reply .done, .own host]).settleGate home
        false).recast home { guise with tally } ∧
      returning.step.step = ((machine.settleGate home false).withTodo [.own host]).recast home
        { guise with tally, answer := .done } := by
  obtain ⟨tally, opens, -⟩ : ∃ tally, ((machine.withTodo [.reply .done, .own host]).recast home
    guise).reopenGate home = _ ∧ _ := Machine.reopenGate_recast opening
  have going' : returning.outcome = none := stands ▸ going
  have todo : returning.todo = [.reopen home, .reply .done, .own host] := by rw [stands]; rfl
  have opened : returning.step = ((machine.withTodo [.reply .done, .own host]).settleGate home
      false).recast home { guise with tally } := by
    rw [Machine.step_eq going' todo, ← opens, stands]
    rfl
  have going' : returning.step.outcome = none := opened ▸ going
  have todo : returning.step.todo = [.reply .done, .own host] := by rw [opened]; rfl
  refine ⟨tally, opened, ?_⟩
  rw [Machine.step_eq going' todo, opened]
  rfl

namespace Tracks

/-- Both runs make the same move. -/
theorem along {seen' : Nat} (lead : Lag n k C ν)
    (tracks : Tracks home chosen lag plan seen past machine past' machine')
    (abreast : lag (machine.thread home) = .abreast) (going : machine.outcome = none)
    (fits : move.Fits home machine)
    (untraded : Moment.trades home chosen ⟨machine, move⟩ = false)
    (apart : Moment.interrupted ⟨machine, move⟩ = true →
      past.head?.any (Moment.trades home chosen) = false)
    (leads : (machine.make move).outcome = none →
      lead = lag ((machine.make move).thread home))
    (goes : ∀ tally context answer,
      let guise := ⟨Lag.cast home lag, plan, seen, tally, context, answer⟩
      Moment.interrupted ⟨machine.recast home guise, move⟩ =
          Moment.interrupted ⟨machine, move⟩ ∧
        ∃ tally context answer, (machine.recast home guise).make move =
          (lead.meet home (machine.make move)).recast home
            ⟨Lag.cast home lag, plan, seen', tally, context, answer⟩) :
    ∃ past'' machine'', Tracks home chosen lag plan seen' (⟨machine, move⟩ :: past)
      (machine.make move) past'' machine'' := by
  obtain ⟨lead, tally, context, answer, here, rfl⟩ := tracks.meets
  obtain rfl := (here going).trans abreast
  have met : Lag.meet home .abreast machine = machine := rfl
  rw [met] at tracks
  obtain ⟨same, tally', context', answer', step⟩ := goes tally context answer
  generalize shape : Guise.mk (Lag.cast home lag) plan seen tally context answer = guise
    at tracks same step
  have fits' : move.Fits home (machine.recast home guise) := by
    cases move <;> exact fits
  refine ⟨_, _, tracks.run.move going fits', ?_, ?_, _, _, _, _, leads, step⟩
  · rw [origin_cons, origin_cons, tracks.start]
  · refine tracks.tells.both (Machine.thread_recast home) untraded same apart
      (Moment.switch_eq (Machine.thread_recast home) ?_) ?_ ?_
    · change Machine.thread (Machine.make _ _) home = (machine.make move).thread home
      rw [step, Machine.thread_recast, Lag.meet_thread]
    · exact Moment.utterance_recast machine home guise move
    · exact .inr (congrArg (Lag.pending home) abreast)

theorem speaks (tracks : Tracks home chosen lag plan seen past machine past' machine')
    (sound : Sound home past machine)
    (abreast : lag (machine.thread home) = .abreast) (going : machine.outcome = none)
    (fits : move.Fits home machine) (own : move ≠ .work)
    (untraded : Moment.trades home chosen ⟨machine, move⟩ = false) :
    ∃ past'' machine'', Tracks home chosen lag plan seen (⟨machine, move⟩ :: past)
      (machine.make move) past'' machine'' := by
  have quiet (machine : Machine n k C ν) : Moment.interrupted ⟨machine, move⟩ = false := by
    cases move with
    | work => exact absurd rfl own
    | _ => rfl
  refine tracks.along .abreast abreast going fits untraded (fun comes => ?_) (fun goes => ?_)
    fun tally context answer => ⟨by rw [quiet, quiet], tally, context, answer, ?_⟩
  · rw [quiet] at comes
    cases comes
  · exact ((congrArg lag (sound.keeps_thread going fits goes fun working =>
      absurd working own)).trans abreast).symm
  · exact Machine.make_recast own

section work

variable (tracks : Tracks home chosen lag plan seen past machine past' machine')
  (lags : Lags home chosen lag past machine) (sound : Sound home past machine)
  (abreast : lag (machine.thread home) = .abreast) (going : machine.outcome = none)
  (library : machine.inOwnCode = false) (todo : machine.todo = action :: rest)

include todo in
theorem uninterrupted (open_ : ∀ index, action ≠ .close index) :
    Moment.interrupted ⟨machine, .work⟩ = false := by
  rw [Moment.interrupted, todo]
  cases action with
  | close index => exact absurd rfl (open_ index)
  | _ => rfl

include tracks sound abreast going library todo in
/-- The library does the same piece of work in both runs. -/
theorem works {seen' : Nat} (apart : ∀ parking, action ≠ .schedule home parking)
    (untraded : Moment.interrupted ⟨machine, .work⟩ = true →
      past.head?.any (Moment.trades home chosen) = false)
    (goes : ∀ tally context answer,
      let guise := ⟨Lag.cast home lag, plan, seen, tally, context, answer⟩
      Moment.interrupted ⟨machine.recast home guise, .work⟩ =
          Moment.interrupted ⟨machine, .work⟩ ∧
        ∃ tally context answer, ((machine.withTodo rest).recast home guise).perform action =
          ((machine.withTodo rest).perform action).recast home
            ⟨Lag.cast home lag, plan, seen', tally, context, answer⟩) :
    ∃ past'' machine'', Tracks home chosen lag plan seen' (⟨machine, .work⟩ :: past)
      machine.step past'' machine'' := by
  refine tracks.along .abreast abreast going library rfl untraded (fun goes => ?_)
    fun tally context answer => ?_
  · have fits : Move.Fits home machine .work := library
    have self := sound.keeps_thread going fits goes fun _ parking rest same =>
      apart parking (List.cons.inj (todo.symm.trans same)).1
    exact ((congrArg lag self).trans abreast).symm
  · obtain ⟨same, tally', context', answer', step⟩ := goes tally context answer
    refine ⟨same, tally', context', answer', ?_⟩
    have going' : (machine.recast home ⟨Lag.cast home lag, plan, seen, tally, context,
      answer⟩).outcome = none := going
    have todo' : (machine.recast home ⟨Lag.cast home lag, plan, seen, tally, context,
      answer⟩).todo = action :: rest := todo
    rw [Machine.make, Machine.step_eq going' todo', Machine.make, Machine.step_eq going todo]
    exact step

include tracks lags sound abreast going library todo in
theorem works_quietly (apart : ∀ parking, action ≠ .schedule home parking)
    (quiet : action.movesGate = false) :
    ∃ past'' machine'', Tracks home chosen lag plan seen (⟨machine, .work⟩ :: past)
      machine.step past'' machine'' := by
  have open_ (index : Fin n) : action ≠ .close index := by
    rintro rfl
    cases quiet
  have silent := uninterrupted todo open_
  refine tracks.works sound abreast going library todo apart (fun comes => ?_)
    fun tally context answer => ⟨?_, ?_⟩
  · rw [silent] at comes
    cases comes
  · rw [silent]
    exact uninterrupted todo open_
  · refine Machine.perform_recast (stage_keepsTo (todo ▸ sound.stage)) sound.driven ?_ ?_ quiet
    · intro scheduler present context
      have unborn := (sound.populated scheduler present).unborn ⟨scheduler.nextId⟩ (Nat.le_refl _)
      change Lag.cast home lag _ context = context
      rw [Lag.cast, lags.unborn _ unborn]
      rfl
    · rintro index parking rfl
      obtain rfl := stage_host (todo ▸ sound.stage)
      exact apart parking rfl

include tracks lags sound abreast going library in
/-- The gate is closed in both runs, and the timer comes in if the plan says so. -/
theorem closes (todo : machine.todo = .close home :: rest)
    (untraded : past.head?.any (Moment.trades home chosen) = false)
    (planned : machine.shut home = false →
      plan (seen + 1) = (machine.runtime home).gate.close.2) :
    ∃ past'' machine'', Tracks home chosen lag plan (if machine.shut home then seen else seen + 1)
      (⟨machine, .work⟩ :: past) machine.step past'' machine'' := by
  refine tracks.works sound abreast going library todo (by simp) (fun _ => untraded)
    fun tally context answer => ?_
  have due : ((machine.runtime home).gate.recast (n := n) (k := k) (C := C) (ν := ν)
      ⟨Lag.cast home lag, plan, seen, tally, context, answer⟩).close.2 =
        (machine.runtime home).gate.close.2 := Gate.due_recast lags.ordered planned
  refine ⟨?_, ?_⟩
  · have todo' : (machine.recast home ⟨Lag.cast home lag, plan, seen, tally, context,
      answer⟩).todo = .close home :: rest := todo
    simp only [Moment.interrupted, todo, todo', Machine.gate_recast, due]
  · obtain ⟨tally', closes⟩ : ∃ tally', ((machine.withTodo rest).recast home
        ⟨Lag.cast home lag, plan, seen, tally, context, answer⟩).closeGate home = _ :=
      Machine.closeGate_recast due
    exact ⟨tally', context, answer, closes⟩

include tracks sound abreast going library todo in
theorem moves_gate (gate : action.movesGate = true) (open_ : ∀ index, action ≠ .close index) :
    ∃ past'' machine'', Tracks home chosen lag plan seen (⟨machine, .work⟩ :: past)
      machine.step past'' machine'' := by
  have silent := uninterrupted todo open_
  refine tracks.works sound abreast going library todo (by rintro parking rfl; cases gate)
    (fun comes => ?_) fun tally context answer => ⟨?_, ?_⟩
  · rw [silent] at comes
    cases comes
  · rw [silent]
    exact uninterrupted todo open_
  · rcases stage_moves (todo ▸ sound.stage) gate with rfl | rfl | rfl | rfl
    · exact absurd rfl (open_ home)
    · exact ⟨tally, context, answer, Machine.settleGate_recast true⟩
    · obtain ⟨tally', reopens, same⟩ : ∃ tally', ((machine.withTodo rest).recast home
          ⟨Lag.cast home lag, plan, seen, tally, context, answer⟩).reopenGate home = _ ∧ _ :=
        Machine.reopenGate_recast sound.opening
      exact ⟨tally', context, answer, reopens.trans same.symm⟩
    · refine ⟨tally, context, answer, ?_⟩
      simp only [Machine.perform, Machine.enterTimer, Machine.active_recast,
        Machine.active_withTodo]
      cases machine.active <;> rfl

end work

theorem decides {parking : Option (Fin k)}
    (tracks : Tracks home chosen lag plan seen past machine past' machine')
    (lags : Lags home chosen lag past machine) (sound : Sound home past machine)
    (abreast : lag (machine.thread home) = .abreast) (going : machine.outcome = none)
    (library : machine.inOwnCode = false) (todo : machine.todo = .schedule home parking :: rest) :
    ∃ past'' machine'', Tracks home chosen lag plan seen (⟨machine, .work⟩ :: past)
      machine.step past'' machine'' := by
  have silent := uninterrupted todo (by simp)
  have late (thread : ThreadId) : (lag thread).early = false := by
    by_cases self : thread = machine.thread home
    · rw [self, abreast]
      rfl
    · exact lags.late thread self
  refine tracks.along (lag (machine.step.thread home)) abreast going library rfl (fun comes => ?_)
    (fun _ => rfl) fun tally context answer => ⟨?_, ?_⟩
  · rw [silent] at comes
    cases comes
  · rw [silent]
    exact uninterrupted todo (by simp)
  · have here : (machine.withTodo rest).echo home
        ⟨Lag.cast home lag, plan, seen, tally, context, answer⟩ =
          (machine.withTodo rest).recast home
            ⟨Lag.cast home lag, plan, seen, tally, context, answer⟩ := by
      refine Machine.echo_eq ?_
      change (lag (machine.thread home)).todo home rest = rest
      rw [abreast]
      rfl
    obtain ⟨tally', context', decided⟩ : ∃ tally' context', ((machine.withTodo rest).echo home
        ⟨Lag.cast home lag, plan, seen, tally, context, answer⟩).schedule home parking = _ :=
      Machine.schedule_echo parking
        (fun scheduler present => (sound.populated scheduler present).current) fun _ _ => rfl
    refine ⟨tally', context', answer, ?_⟩
    have going' : (machine.recast home ⟨Lag.cast home lag, plan, seen, tally, context,
      answer⟩).outcome = none := going
    have todo' : (machine.recast home ⟨Lag.cast home lag, plan, seen, tally, context,
      answer⟩).todo = .schedule home parking :: rest := todo
    rw [here] at decided
    rw [Machine.make, Machine.step_eq going' todo', Machine.make, Lag.meet, late,
      Machine.step_eq going todo]
    exact decided

/-- The first run comes to a call at whose head the timer is due, and the other waits. -/
theorem asks {request : Call n k C ν} {host : Option (Fin n)}
    (tracks : Tracks home chosen lag plan seen past machine past' machine')
    (sound : Sound home past machine) (abreast : lag (machine.thread home) = .abreast)
    (going : machine.outcome = none) (own : machine.todo = [.own host])
    (traded : Moment.trades home chosen ⟨machine, .ask request⟩ = true) :
    Tracks home chosen ((machine.thread home).put (.entering request host) lag) plan seen
      (⟨machine, .ask request⟩ :: past) (machine.make (.ask request)) past' machine' := by
  obtain ⟨lead, tally, context, answer, here, met⟩ := tracks.meets
  obtain rfl := (here going).trans abreast
  constructor
  case run => exact tracks.run
  case start => rw [origin_cons, tracks.start]
  case tells =>
    have unmoved : (machine.make (.ask request)).thread home = machine.thread home := rfl
    refine tracks.tells.ahead (fun comes => by cases comes) (if_pos unmoved) fun thread => ?_
    rw [Lag.pendings_put, Moment.telling, traded]
    by_cases self : thread = machine.thread home
    · subst self
      simp [Moment.thread, Moment.utterance?, Lag.pendings, Lag.pending, abreast]
    · simp [Moment.thread, put_other self, Ne.symm self]
  case meets =>
    refine ⟨.entering request host, tally, context, answer, fun _ => ?_, met.trans ?_⟩
    · exact (put_self ..).symm
    · have settled : (machine.make (.ask request)).settleGate home false =
          machine.make (.ask request) := by
        have opened : (machine.make (.ask request)).shut home = false := (sound.own_todo own).1
        exact Machine.settleGate_self opened
      have back : Lag.meet home (.entering request host) (machine.make (.ask request)) =
          machine := by
        rw [Lag.meet, Lag.early, if_pos rfl, settled]
        change { machine with todo := [.own host] } = machine
        rw [← own]
      rw [back]
      exact (sound.recast_put lag (.entering request host) machine.todo plan seen tally context
        answer).symm

/-- The first run is on its way to the timer's decision, and the other waits. -/
theorem waits {request : Call n k C ν} {host : Option (Fin n)}
    (tracks : Tracks home chosen lag plan seen past machine past' machine')
    (entering : lag (machine.thread home) = .entering request host)
    (going : machine.outcome = none)
    (unmoved : machine.step.thread home = machine.thread home)
    (mute : Moment.utterance? ⟨machine, .work⟩ = none)
    (traded : Moment.interrupted ⟨machine, .work⟩ = true →
      past.head?.any (Moment.trades home chosen) = true)
    (same : ∀ guise : Guise n k C ν,
      ((machine.step.settleGate home false).withTodo [.own host]).recast home guise =
        ((machine.settleGate home false).withTodo [.own host]).recast home guise) :
    Tracks home chosen lag plan seen (⟨machine, .work⟩ :: past) machine.step past' machine' := by
  obtain ⟨lead, tally, context, answer, here, met⟩ := tracks.meets
  obtain rfl := (here going).trans entering
  constructor
  case run => exact tracks.run
  case start =>
    have start : origin (⟨machine, .work⟩ :: past) machine.step = origin past machine :=
      origin_cons .work machine.step
    rw [start, tracks.start]
  case tells =>
    refine tracks.tells.ahead traded (if_pos unmoved) fun thread => ?_
    have silent : Moment.telling home (Moment.trades home chosen) ⟨machine, .work⟩ = [] := by
      rw [Moment.telling, mute]
      rfl
    simp [silent]
  case meets =>
    refine ⟨.entering request host, tally, context, answer, fun _ => ?_, met.trans (same _).symm⟩
    rw [unmoved, entering]

/-- The second run calls `request`, with no entry of the timer, where the first one is
inside the library with the gate closed. -/
theorem calls {request : Call n k C ν} {host : Option (Fin n)} {asking : Machine n k C ν}
    {pending : ThreadId → List (Utterance n k C ν)} {left : List (Utterance n k C ν)}
    (closes : request.closes = true) (keeps : request.KeepsTo home)
    (run : Run home past' asking)
    (tells : Tells home chosen
      ((machine.thread home).put (left ++ [.said (.ask request)]) pending) past past')
    (stands : asking =
      ((machine.settleGate home false).withTodo [.own host]).recast home guise)
    (going : machine.outcome = none) (shut : machine.shut home = true)
    (ordered : (machine.runtime home).gate.beforeClosing = 0)
    (planned : guise.plan (guise.seen + 1) = false) :
    ∃ past'' closed tally, Run home past'' closed ∧
      Tells home chosen ((machine.thread home).put left pending) past past'' ∧
      origin past'' closed = origin past' asking ∧
      closed = (machine.withTodo (request.actions.tail ++ [.own host])).recast home
        { guise with seen := guise.seen + 1, tally } := by
  have going : asking.outcome = none := stands ▸ going
  have self : asking.thread home = machine.thread home := by
    rw [stands, Machine.thread_recast]
    exact Machine.thread_settleGate false
  obtain ⟨todo, quiet, tally, step⟩ :=
    Machine.call_behind closes keeps stands going shut ordered planned
  have inside : asking.inOwnCode = true := by rw [stands]; rfl
  have asked : Run home (⟨asking, .ask request⟩ :: past') (asking.make (.ask request)) :=
    run.move going ⟨inside, keeps⟩
  refine ⟨_, _, tally, asked.work going todo rfl, ?_, ?_, step⟩
  · have asked : Tells home chosen ((machine.thread home).put left pending) past
        (⟨asking, .ask request⟩ :: past') := tells.utters rfl (if_pos rfl) self rfl
    refine asked.silent ?_ (if_pos ?_) ?_
    · simpa [Moment.interrupted, todo] using quiet
    · change Machine.thread (Machine.step _) home = asking.thread home
      rw [step, self, Machine.thread_recast]
      rfl
    · simp [Moment.utterance?, todo]
  · exact (origin_cons ..).trans (origin_cons ..)

/-- The timer makes its decision in the first run, and in the other the thread yields. -/
theorem enters {request : Call n k C ν} {host : Option (Fin n)}
    {behind : List (Action n k C ν)}
    (tracks : Tracks home chosen lag plan seen past machine past' machine')
    (lags : Lags home chosen lag past machine) (sound : Sound home past machine)
    (entering : lag (machine.thread home) = .entering request host)
    (going : machine.outcome = none) (shut : machine.shut home = true)
    (planned : plan (seen + 1) = false)
    (step : machine.step = (machine.withTodo behind).schedule home none)
    (mute : Moment.utterance? ⟨machine, .work⟩ = none)
    (silent : Moment.interrupted ⟨machine, .work⟩ = false) :
    ∃ past'' machine'', Tracks home chosen
      ((machine.thread home).put (.entered request host) lag) plan (seen + 1)
      (⟨machine, .work⟩ :: past) machine.step past'' machine'' := by
  obtain ⟨lead, tally, context, answer, here, met⟩ := tracks.meets
  obtain rfl := (here going).trans entering
  let lag' := (machine.thread home).put (.entered request host) lag
  let left : List (Action n k C ν) := [.reopen home, .reply .done, .own host]
  have tells := tracks.tells
  have pending : Lag.pendings home lag (machine.thread home) =
      [.said (.ask request), .heard .done] ++ [.said (.ask (.yield home))] :=
    congrArg (Lag.pending home) entering
  rw [← put_same pending] at tells
  obtain ⟨past'', closed, tally', run, tells, start, met⟩ :=
    calls (rfl : (Call.yield home).closes = true) rfl tracks.run tells met going shut lags.ordered
      planned
  let guise : Guise n k C ν := ⟨Lag.cast home lag', plan, seen + 1, tally', context, answer⟩
  have going' : closed.outcome = none := met ▸ going
  have todo' : closed.todo = .schedule home none :: left := by rw [met]; rfl
  have self : closed.thread home = machine.thread home := by
    rw [met, Machine.thread_recast]
    rfl
  have caught : (machine.withTodo behind).echo home guise = closed.withTodo left := by
    have own : (guise.cast (machine.thread home) ⟨behind, machine.code⟩).todo = left :=
      congrArg (Lag.todo home · behind) (put_self ..)
    have same := sound.recast_put lag (.entered request host) left plan (seen + 1) tally'
      context answer
    rw [met, Machine.echo]
    exact (congrArg (fun todo => (machine.withTodo todo).recast home guise) own).trans same
  obtain ⟨tally'', context', decided⟩ : ∃ tally context, ((machine.withTodo behind).echo home
      guise).schedule home none = _ := Machine.schedule_echo none
    (fun scheduler present => (sound.populated scheduler present).current) fun _ _ => rfl
  rw [caught, ← step] at decided
  have decided := (Machine.step_eq going' todo').trans decided
  have late : (lag' (machine.step.thread home)).early = false := Lag.early_put rfl (lags.late _)
  refine ⟨_, _, run.work going' todo' rfl, ?_, ?_, ?_⟩
  · rw [origin_cons, origin_cons, start, tracks.start]
  · have told : Tells home chosen (Lag.pendings home lag') (⟨machine, .work⟩ :: past)
        (⟨closed, .work⟩ :: past'') := by
      rw [Lag.pendings_put]
      refine tells.both self rfl ?_ (fun comes => ?_) (Moment.switch_eq self ?_) ?_ (.inl mute)
      · rw [silent, Moment.interrupted, todo']
      · rw [silent] at comes
        cases comes
      · change Machine.thread closed.step home = machine.step.thread home
        rw [decided, Machine.echo, Machine.thread_recast]
        rfl
      · rw [mute, Moment.utterance?, todo']
    exact told
  · refine ⟨_, tally'', context', answer, fun _ => rfl, ?_⟩
    rw [Lag.meet, late]
    exact decided

theorem answers {host : Option (Fin n)} {returning : Machine n k C ν}
    {pending : ThreadId → List (Utterance n k C ν)} {left : List (Utterance n k C ν)}
    (run : Run home past' returning)
    (tells : Tells home chosen ((machine.thread home).put (left ++ [.heard .done]) pending) past
      past')
    (stands : returning =
      (machine.withTodo [.reopen home, .reply .done, .own host]).recast home guise)
    (going : machine.outcome = none) (opening : (machine.runtime home).gate.afterOpening = 0) :
    ∃ past'' asking tally, Run home past'' asking ∧
      Tells home chosen ((machine.thread home).put left pending) past past'' ∧
      origin past'' asking = origin past' returning ∧
      asking = ((machine.settleGate home false).withTodo [.own host]).recast home
        { guise with tally, answer := .done } := by
  obtain ⟨tally, opened, returned⟩ := Machine.return_behind stands going opening
  have todo : returning.todo = [.reopen home, .reply .done, .own host] := by rw [stands]; rfl
  have self : returning.thread home = machine.thread home := by
    rw [stands, Machine.thread_recast]
    rfl
  have going' : returning.outcome = none := stands ▸ going
  have opens := run.work going' todo rfl
  have todo' : returning.step.todo = [.reply .done, .own host] := by rw [opened]; rfl
  have self' : returning.step.thread home = machine.thread home := by
    rw [opened, Machine.thread_recast]
    exact (machine.withTodo _).thread_settleGate false
  have going' : returning.step.outcome = none := opened ▸ going
  have silent : Moment.interrupted ⟨returning, .work⟩ = false := by rw [Moment.interrupted, todo]
  have mute : Moment.utterance? ⟨returning, .work⟩ = none := by rw [Moment.utterance?, todo]
  refine ⟨_, _, tally, opens.work going' todo' rfl, ?_, ?_, returned⟩
  · have stays := tells.silent silent (if_pos (self'.trans self.symm)) mute
    refine stays.utters ?_ (if_pos ?_) self' ?_
    · rw [Moment.interrupted, todo']
    · change Machine.thread returning.step.step home = returning.step.thread home
      rw [returned, self', Machine.thread_recast]
      exact machine.thread_settleGate false
    · rw [Moment.utterance?, todo']
  · exact (origin_cons ..).trans (origin_cons ..)

/-- The timer has left in the first run; in the other the yield returns, and the call is made. -/
theorem returns {request : Call n k C ν} {host : Option (Fin n)}
    (tracks : Tracks home chosen lag plan seen past machine past' machine')
    (lags : Lags home chosen lag past machine) (sound : Sound home past machine)
    (entered : lag (machine.thread home) = .entered request host)
    (closes : request.closes = true) (keeps : request.KeepsTo home)
    (going : machine.outcome = none) (shut : machine.shut home = true)
    (todo : machine.todo = .closed home :: (request.actions.tail ++ [.own host]))
    (planned : plan (seen + 1) = false) :
    ∃ past'' machine'', Tracks home chosen ((machine.thread home).put .abreast lag) plan (seen + 1)
      (⟨machine, .work⟩ :: past) machine.step past'' machine'' := by
  obtain ⟨lead, tally, context, answer, here, met⟩ := tracks.meets
  obtain rfl := (here going).trans entered
  have tells := tracks.tells
  have pending : Lag.pendings home lag (machine.thread home) =
      ([] ++ [.said (.ask request)]) ++ [.heard .done] := congrArg (Lag.pending home) entered
  rw [← put_same pending] at tells
  obtain ⟨past'', asking, tally', run, tells, returned, stands⟩ :=
    answers tracks.run tells met going sound.opening
  obtain ⟨past'', closed, tally'', run, tells, called, met⟩ :=
    calls closes keeps run tells stands going shut lags.ordered planned
  -- In the first run the gate is closed already.
  have stood : machine.step = machine.withTodo (request.actions.tail ++ [.own host]) := by
    rw [Machine.step_eq going todo]
    exact Machine.settleGate_self shut
  refine ⟨past'', closed, run, ?_, ?_, .abreast, tally'', context, .done, fun _ => ?_, ?_⟩
  · rw [called, returned, tracks.start, origin_cons]
  · rw [Lag.pendings_put]
    refine tells.ahead (fun comes => ?_) (if_pos ?_) fun thread => ?_
    · rw [Moment.interrupted, todo] at comes
      cases comes
    · change Machine.thread machine.step home = machine.thread home
      rw [stood]
      rfl
    · have silent : Moment.telling home (Moment.trades home chosen) ⟨machine, .work⟩ = [] := by
        rw [Moment.telling, Moment.utterance?, todo]
        rfl
      rw [silent, ite_self]
      rfl
  · rw [stood]
    exact (put_self ..).symm
  · have same := sound.recast_put lag .abreast (request.actions.tail ++ [.own host]) plan
      (seen + 1) tally'' context .done
    rw [met, stood]
    exact same.symm

end Tracks

end UserThreads
