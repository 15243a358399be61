import UserThreads.Proofs.Interchange

/-!
Every move of a run is followed by one in which the thread yields where the timer has come
in at the head of a chosen call, and so is the whole run.
-/

namespace UserThreads

variable {n k : Nat} {C ν : Type} {home : Fin n} {chosen : Nat → Bool}
  {past past' : List (Moment n k C ν)} {machine machine' : Machine n k C ν}
  {move : Move n k C ν} {lag : ThreadId → Lag n k C ν}

/-- After a move the second run goes on from where it was, and its threads lag behind by `lag'`.
If it closes an open gate meanwhile, `due` says whether the timer is to come in. -/
structure Follows (home : Fin n) (chosen : Nat → Bool) (past : List (Moment n k C ν))
    (machine : Machine n k C ν) (move : Move n k C ν) (lag lag' : ThreadId → Lag n k C ν)
    (due : Option Bool) : Prop where
  lags : (machine.make move).outcome = none →
    Lags home chosen lag' (⟨machine, move⟩ :: past) (machine.make move)
  tracks : ∀ plan seen past' machine',
    Tracks home chosen lag plan seen past machine past' machine' →
    (∀ comes ∈ due, plan (seen + 1) = comes) →
    ∃ past'' machine'', Tracks home chosen lag' plan (seen + due.toList.length)
      (⟨machine, move⟩ :: past) (machine.make move) past'' machine''
  /-- The timer is to come in only where it does so in the first run, too. -/
  comes : true ∈ due → Moment.interrupted ⟨machine, move⟩ = true ∧
    past.head?.any (Moment.trades home chosen) = false

namespace Lags

variable (lags : Lags home chosen lag past machine) (sound : Sound home past machine)
  (going : machine.outcome = none)

include lags sound going in
theorem follows_own (abreast : lag (machine.thread home) = .abreast)
    (fits : move.Fits home machine) (own : move ≠ .work) :
    ∃ lag' due, Follows home chosen past machine move lag lag' due := by
  obtain ⟨host, rest, todo⟩ := Machine.own_of_inOwnCode (fits.own own)
  obtain ⟨opened, rfl, -⟩ := sound.own_todo todo
  by_cases traded : Moment.trades home chosen ⟨machine, move⟩ = true
  · cases move with
    | work => exact absurd rfl own
    | think | leave | panic => cases traded
    | ask request =>
        obtain ⟨⟨closes, due⟩, -⟩ := by simpa [Moment.trades] using traded
        have left := Machine.todo_ask closes fits.2 todo
        refine ⟨(machine.thread home).put (.entering request host) lag, none, ?_, ?_, by simp⟩
        · intro goes
          refine lags.others sound going fits goes (by simp)
            (fun thread other => put_other other ..) (.inr ?_) ?_
          · have sent : errand? home (machine.thread home) (⟨machine, .ask request⟩ :: past) =
                some (.ask request) := errand_of_enters ⟨machine, .ask request⟩ rfl
            rw [sent]
            exact Option.some_ne_none _
          · rw [put_self]
            exact .asked closes fits.2 opened due traded left
        · intro plan seen past' machine' tracks _
          exact ⟨_, _, tracks.asks sound abreast going todo traded⟩
  · have untraded : Moment.trades home chosen ⟨machine, move⟩ = false := by simpa using traded
    refine ⟨lag, none, ?_, ?_, by simp⟩
    · intro goes
      refine lags.others sound going fits goes (fun working => absurd working own) (fun _ _ => rfl)
        (.inl abreast) ?_
      rw [abreast]
      exact .abreast untraded
    · intro plan seen past' machine' tracks _
      exact tracks.speaks sound abreast going fits own untraded

include lags sound going in
theorem follows_work (abreast : lag (machine.thread home) = .abreast)
    (untraded : past.head?.any (Moment.trades home chosen) = false)
    (library : machine.inOwnCode = false) :
    ∃ lag' due, Follows home chosen past machine .work lag lag' due := by
  cases todo : machine.todo with
  | nil => exact absurd todo (stage_ne_nil sound.stage)
  | cons action rest =>
      by_cases decides : ∃ parking, action = .schedule home parking
      · obtain ⟨parking, rfl⟩ := decides
        refine ⟨lag, none, ?_, ?_, by simp⟩
        · intro goes
          refine lags.decides sound going todo goes (fun _ _ => rfl) (.inl abreast) ?_ ?_
          · rw [abreast]
            rfl
          · rw [abreast]
            exact .abreast
        · intro plan seen past' machine' tracks _
          exact tracks.decides lags sound abreast going library todo
      have apart (parking : Option (Fin k)) : action ≠ .schedule home parking :=
        fun same => decides ⟨parking, same⟩
      have goes_on (goes : machine.step.outcome = none) :
          Lags home chosen lag (⟨machine, .work⟩ :: past) machine.step := by
        refine lags.others sound going library goes (fun _ parking rest same => ?_) (fun _ _ => rfl)
          (.inl abreast) ?_
        · exact apart parking (List.cons.inj (todo.symm.trans same)).1
        · rw [abreast]
          exact .abreast rfl
      by_cases gate : action.movesGate = true
      · by_cases closes : action = .close home
        · subst closes
          cases shut : machine.shut home with
          | true =>
              refine ⟨lag, none, goes_on, ?_, by simp⟩
              intro plan seen past' machine' tracks _
              have closed := tracks.closes lags sound abreast going library todo untraded
              rw [shut] at closed
              exact closed (by simp)
          | false =>
              refine ⟨lag, some (machine.runtime home).gate.close.2, goes_on, ?_, ?_⟩
              · intro plan seen past' machine' tracks planned
                have closed := tracks.closes lags sound abreast going library todo untraded
                rw [shut] at closed
                exact closed fun _ => planned _ rfl
              · intro due
                refine ⟨?_, untraded⟩
                rw [Moment.interrupted, todo]
                exact Option.some.inj due
        · refine ⟨lag, none, goes_on, ?_, by simp⟩
          intro plan seen past' machine' tracks _
          refine tracks.moves_gate sound abreast going library todo gate fun index same => ?_
          subst same
          obtain rfl := (stage_closes (todo ▸ sound.stage)).1
          exact closes rfl
      · refine ⟨lag, none, goes_on, ?_, by simp⟩
        intro plan seen past' machine' tracks _
        exact tracks.works_quietly lags sound abreast going library todo apart (by simpa using gate)

theorem sent {moment : Moment n k C ν} {thread : ThreadId}
    (lags : Lags home chosen lag past machine) (ahead : lag thread ≠ .abreast) :
    errand? home thread (moment :: past) ≠ none :=
  fun unsent => ahead (lags.unborn thread (errand_before unsent))

section lagging

variable {request : Call n k C ν} {host : Option (Fin n)}

include lags sound going in
/-- The first run is on its way to the timer's decision. -/
theorem follows_waiting (entering : lag (machine.thread home) = .entering request host)
    (library : machine.inOwnCode = false)
    (apart : ∀ parking rest, machine.todo ≠ .schedule home parking :: rest)
    (mute : Moment.utterance? ⟨machine, .work⟩ = none)
    (traded : Moment.interrupted ⟨machine, .work⟩ = true →
      past.head?.any (Moment.trades home chosen) = true)
    (same : ∀ guise : Guise n k C ν,
      ((machine.step.settleGate home false).withTodo [.own host]).recast home guise =
        ((machine.settleGate home false).withTodo [.own host]).recast home guise)
    (goes : machine.step.outcome = none)
    (running : Phase home chosen (⟨machine, .work⟩ :: past) machine.step
      (.entering request host)) :
    ∃ lag' due, Follows home chosen past machine .work lag lag' due := by
  have fits : Move.Fits home machine .work := library
  refine ⟨lag, none, fun _ => ?_, ?_, by simp⟩
  · refine lags.others sound going fits goes (fun _ => apart) (fun _ _ => rfl)
      (.inr (lags.sent ?_)) ?_
    · rw [entering]
      simp
    · rw [entering]
      exact running
  · intro plan seen past' machine' tracks _
    have unmoved : machine.step.thread home = machine.thread home :=
      sound.keeps_thread going fits goes fun _ => apart
    exact ⟨_, _, tracks.waits entering going unmoved mute traded same⟩

include lags sound going in
theorem follows_closing {rest : List (Action n k C ν)}
    (entering : lag (machine.thread home) = .entering request host)
    (todo : machine.todo = .close home :: rest)
    (traded : (machine.runtime home).gate.close.2 = true →
      past.head?.any (Moment.trades home chosen) = true)
    (running : machine.step.shut home = true →
      machine.step.todo = (if (machine.runtime home).gate.close.2 then [.timer, .closed home]
        else []) ++ rest →
      Phase home chosen (⟨machine, .work⟩ :: past) machine.step (.entering request host)) :
    ∃ lag' due, Follows home chosen past machine .work lag lag' due := by
  have library : machine.inOwnCode = false := Machine.inOwnCode_eq todo
  have step : machine.step = (machine.withTodo rest).closeGate home := Machine.step_eq going todo
  have closed := step.trans (Machine.closeGate_eq ..)
  refine lags.follows_waiting sound going entering library ?_ ?_ (fun comes => ?_) (fun guise => ?_)
    ?_ (running ?_ (congrArg Machine.todo closed))
  · intro parking rest same
    cases todo.symm.trans same
  · rw [Moment.utterance?, todo]
  · rw [Moment.interrupted, todo] at comes
    exact traded comes
  · rw [step]
    exact (machine.withTodo rest).closeGate_opened _ lags.ordered
  · rw [closed]
    exact going
  · rw [step]
    exact (Machine.closeGate_cases ..).1

include lags sound going in
theorem follows_entering
    (entering : lag (machine.thread home) = .entering request host)
    (closes : request.closes = true) (keeps : request.KeepsTo home)
    (shut : machine.shut home = true)
    (todo : machine.todo = .schedule home none :: .closed home ::
      (request.actions.tail ++ [.own host])) :
    ∃ lag' due, Follows home chosen past machine .work lag lag' due := by
  refine ⟨(machine.thread home).put (.entered request host) lag, some false, fun goes => ?_,
    fun plan seen past' machine' tracks planned => ?_, by simp⟩
  · refine lags.decides sound going todo goes (fun thread other => put_other other ..) ?_ ?_ ?_
    · rw [entering]
      exact .inr (by simp)
    · rw [put_self]
      rfl
    · rw [put_self]
      exact .entered closes keeps
  · refine tracks.enters lags sound entering going shut (planned _ rfl)
      (Machine.step_eq going todo) ?_ ?_
    · rw [Moment.utterance?, todo]
    · rw [Moment.interrupted, todo]

include lags sound going in
/-- The timer has come in while no runtime drives the OS thread, and leaves at once. -/
theorem follows_leaving (entering : lag (machine.thread home) = .entering request host)
    (closes : request.closes = true) (keeps : request.KeepsTo home)
    (shut : machine.shut home = true) (idle : machine.active = none)
    (todo : machine.todo = .timer :: .closed home :: (request.actions.tail ++ [.own host])) :
    ∃ lag' due, Follows home chosen past machine .work lag lag' due := by
  have library : Move.Fits home machine .work := Machine.inOwnCode_eq todo
  let behind : List (Action n k C ν) := .closed home :: (request.actions.tail ++ [.own host])
  have left : machine.step = machine.withTodo behind := by
    rw [Machine.step_eq going todo]
    simp only [Machine.perform, Machine.enterTimer, Machine.active_withTodo, idle]
    rfl
  have step : machine.step = (machine.withTodo behind).schedule home none :=
    left.trans ((machine.withTodo behind).schedule_of_none (sound.absent idle)).symm
  refine ⟨(machine.thread home).put (.entered request host) lag, some false, fun goes => ?_,
    fun plan seen past' machine' tracks planned => ?_, by simp⟩
  · refine lags.others sound going library goes (fun _ parking rest same => ?_)
      (fun thread other => put_other other ..) (.inr (lags.sent ?_)) ?_
    · cases todo.symm.trans same
    · rw [entering]
      simp
    · rw [put_self]
      exact .entered closes keeps ((congrArg (Machine.shut · home) left).trans shut)
        (congrArg Machine.todo left)
  · refine tracks.enters lags sound entering going shut (planned _ rfl) step ?_ ?_
    · rw [Moment.utterance?, todo]
    · rw [Moment.interrupted, todo]

include lags sound going in
theorem follows_entered (entered : lag (machine.thread home) = .entered request host)
    (closes : request.closes = true) (keeps : request.KeepsTo home)
    (shut : machine.shut home = true)
    (todo : machine.todo = .closed home :: (request.actions.tail ++ [.own host])) :
    ∃ lag' due, Follows home chosen past machine .work lag lag' due := by
  have library : Move.Fits home machine .work := Machine.inOwnCode_eq todo
  refine ⟨(machine.thread home).put .abreast lag, some false, fun goes => ?_,
    fun plan seen past' machine' tracks planned => ?_, by simp⟩
  · refine lags.others sound going library goes (fun _ parking rest same => ?_)
      (fun thread other => put_other other ..) (.inl (put_self ..)) ?_
    · cases todo.symm.trans same
    · rw [put_self]
      exact .abreast rfl
  · exact tracks.returns lags sound entered closes keeps going shut todo (planned _ rfl)

end lagging

include lags sound going in
/-- The second run can always go on. -/
theorem follows (fits : move.Fits home machine) :
    ∃ lag' due, Follows home chosen past machine move lag lag' due := by
  have running := lags.running
  generalize stood : lag (machine.thread home) = lead at running
  by_cases working : move = .work
  · subst working
    cases running with
    | abreast untraded => exact lags.follows_work sound going stood untraded fits
    | asked closes keeps opened due traded todo =>
        refine lags.follows_closing sound going stood todo (fun _ => traded) fun shut left => ?_
        rw [due] at left
        exact .timer closes keeps shut left
    | timer closes keeps shut todo =>
        cases driven : machine.active with
        | none => exact lags.follows_leaving sound going stood closes keeps shut driven todo
        | some index =>
            obtain rfl := sound.driven index driven
            rename_i request host
            have step : machine.step = (machine.withTodo (.closed index ::
                (request.actions.tail ++ [.own host]))).push
                  [.close index, .schedule index none] := by
              rw [Machine.step_eq going todo]
              simp only [Machine.perform, Machine.enterTimer, Machine.active_withTodo, driven]
            refine lags.follows_waiting sound going stood fits ?_ ?_ (fun comes => ?_)
              (fun guise => ?_) ?_ (.timerCloses closes keeps ?_ ?_)
            · intro parking rest same
              cases todo.symm.trans same
            · rw [Moment.utterance?, todo]
            · rw [Moment.interrupted, todo] at comes
              cases comes
            · rw [step]
              rfl
            · rw [step]
              exact going
            · exact (congrArg (Machine.shut · index) step).trans shut
            · exact congrArg Machine.todo step
    | timerCloses closes keeps shut todo =>
        have quiet : (machine.runtime home).gate.close.2 = false := by
          have shut : (machine.runtime home).gate.closed = true := shut
          simp [Gate.close, shut]
        refine lags.follows_closing sound going stood todo (fun due => ?_) fun shut left => ?_
        · cases quiet.symm.trans due
        · rw [quiet] at left
          exact .timerSchedules closes keeps shut left
    | timerSchedules closes keeps shut todo =>
        exact lags.follows_entering sound going stood closes keeps shut todo
    | entered closes keeps shut todo =>
        exact lags.follows_entered sound going stood closes keeps shut todo
  · cases running with
    | abreast => exact lags.follows_own sound going stood fits working
    | asked _ _ _ _ _ todo | timer _ _ _ todo | timerCloses _ _ _ todo
    | timerSchedules _ _ _ todo | entered _ _ _ todo =>
        have inside := fits.own working
        rw [Machine.inOwnCode, todo] at inside
        cases inside

end Lags

theorem Alive.recast {guise : Guise n k C ν} {thread : ThreadId} {context : Context n k C ν}
    (alive : Alive home machine thread context) (other : thread ≠ machine.thread home) :
    Alive home (machine.recast home guise) thread (guise.cast thread context) := by
  cases alive with
  | running => exact absurd rfl other
  | ready member =>
      rename_i block
      have waits : block.recast guise.cast ∈ (machine.recast home guise).readyOn home := by
        cases present : (machine.runtime home).scheduler with
        | none =>
            rw [Machine.readyOn, present] at member
            cases member
        | some scheduler =>
            rw [Machine.readyOn_eq present] at member
            rw [Machine.readyOn, Machine.scheduler_recast, present]
            exact List.mem_map_of_mem member
      exact .ready waits
  | parked member =>
      rename_i mutex block
      have waits : block.recast guise.cast ∈ (machine.recast home guise).parkedOn mutex := by
        rw [Machine.parkedOn, Machine.cells_recast]
        exact List.mem_map_of_mem member
      exact .parked waits

/-- Whoever waits is in the same place on the machine with the gate of the other run. -/
theorem Alive.meet {lead : Lag n k C ν} {thread : ThreadId} {context : Context n k C ν}
    (alive : Alive home machine thread context) (other : thread ≠ machine.thread home) :
    Alive home (lead.meet home machine) thread context := by
  have scheduler : ((lead.meet home machine).runtime home).scheduler =
      (machine.runtime home).scheduler := by
    rw [Lag.meet]
    split
    · simp [Machine.settleGate, Machine.setGate]
    · rfl
  have waiters (mutex : Fin k) :
      (lead.meet home machine).cells mutex = machine.cells mutex := by
    rw [Lag.meet]
    split
    · simp [Machine.settleGate, Machine.setGate]
    · rfl
  cases alive with
  | running => exact absurd rfl other
  | ready member =>
      rename_i block
      have waits : block ∈ (lead.meet home machine).readyOn home := by
        rw [Machine.readyOn, scheduler]
        exact member
      exact .ready waits
  | parked member =>
      rename_i mutex block
      have waits : block ∈ (lead.meet home machine).parkedOn mutex := by
        rw [Machine.parkedOn, waiters]
        exact member
      exact .parked waits

/-- The threads of the second run go on as those of the first one, but that they lag behind. -/
theorem Machine.Meets.alive {plan : Nat → Bool} {seen : Nat} {thread : ThreadId}
    {context : Context n k C ν} (meets : Machine.Meets home lag plan seen machine machine')
    (sound : Sound home past machine) (going : machine.outcome = none)
    (alive : Alive home machine thread context) :
    Alive home machine' thread (Lag.cast home lag thread context) := by
  obtain ⟨lead, tally, context', answer, here, rfl⟩ := meets
  obtain rfl := here going
  by_cases self : thread = machine.thread home
  · subst self
    generalize shape : Guise.mk (Lag.cast home lag) plan seen tally context' answer = guise
    have code : ((lag (machine.thread home)).meet home machine).code = machine.code := by
      rw [Lag.meet]
      split <;> rfl
    have runs : Alive home (((lag (machine.thread home)).meet home machine).recast home guise)
        (machine.thread home) ⟨(lag (machine.thread home)).todo home machine.todo,
          ((lag (machine.thread home)).meet home machine).code⟩ := by
      have runs : Alive home (((lag (machine.thread home)).meet home machine).recast home guise)
          (Machine.thread _ home) _ := .running
      rw [Machine.thread_recast, Lag.meet_thread] at runs
      exact runs
    rw [code] at runs
    rw [sound.alive_running alive]
    exact runs
  · have other : thread ≠ ((lag (machine.thread home)).meet home machine).thread home := by
      rw [Lag.meet_thread]
      exact self
    exact (alive.meet self).recast other

end UserThreads
