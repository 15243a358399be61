import UserThreads.Proofs.Governing
import UserThreads.Proofs.Retelling

/-!
Creations of threads that fail: all runtimes are as if nothing had been asked for, except
that a runtime which has no room for a thread is set up all the same if no other one is.
-/

namespace UserThreads

variable {n k : Nat} {C ν : Type} {machine : Machine n k C ν} {index : Fin n} {entry : C}
  {rest : List (Action n k C ν)} {past : List (Moment n k C ν)} {failure : Failure}

namespace Machine

/-- A creation of a thread on the runtime `index` sets it up, and finds it full. -/
def ActivatesFull (machine : Machine n k C ν) (index : Fin n) : Prop :=
  (machine.runtime index).scheduler = none ∧ machine.active = none ∧
    (machine.runtime index).config.maxThreads ≤ 1

/-- What has become of `machine`, on which a thread was about to be made behind the gate of the
runtime `index`, when this has failed. -/
structure CreateFailed (machine after : Machine n k C ν) (index : Fin n)
    (rest : List (Action n k C ν)) (failure : Failure) : Prop where
  cause : failure.errno = Failure.tryAgain ∨ failure.errno = Failure.busy
  spares : ¬machine.ActivatesFull index →
    ∃ event, after = { (machine.withTodo rest).opened index with
      answer := .failed failure, log := event :: machine.log }
  /-- All goes on as if the gate had been passed and nothing asked for. -/
  forgets : ¬machine.ActivatesFull index → ((machine.withTodo rest).opened index).Alike after
  launches : machine.ActivatesFull index →
    (machine.withTodo rest).Launched after index (.failed failure) []

theorem CreateFailed.of_spared {after : Machine n k C ν} {event : LogEvent}
    (cause : failure.errno = Failure.tryAgain ∨ failure.errno = Failure.busy)
    (spared : after = { (machine.withTodo rest).opened index with
      answer := .failed failure, log := event :: machine.log })
    (roomy : ¬machine.ActivatesFull index) : machine.CreateFailed after index rest failure :=
  ⟨cause, fun _ => ⟨event, spared⟩, fun _ => spared ▸ alike _ _ _,
    fun full => absurd full roomy⟩

theorem step_own {host : Option (Fin n)} (todo : machine.todo = .own host :: rest) :
    machine.step = machine := by
  cases going : machine.outcome with
  | none =>
      refine (step_eq going todo).trans ?_
      exact congrArg (fun todo => { machine with todo }) todo.symm
  | some => simp only [step, going]

theorem play_ended (ended : machine.outcome.isSome = true) (pieces : Nat) :
    machine.play (List.replicate pieces .work) = machine := by
  obtain ⟨outcome, ended⟩ := Option.isSome_iff_exists.mp ended
  have stays : machine.step = machine := by simp only [step, ended]
  induction pieces with
  | zero => rfl
  | succ pieces ih =>
      change machine.step.play (List.replicate pieces .work) = machine
      rw [stays, ih]

/-- A creation on a runtime that has its scheduler fails if there are no ids left. -/
theorem CreateFailed.of_enrolled {scheduler : Scheduler (Context n k C ν) ν}
    (going : machine.outcome = none) (todo : machine.todo = .enroll index entry :: rest)
    (quiet : (machine.runtime index).gate.afterOpening = 0)
    (present : (machine.runtime index).scheduler = some scheduler)
    (fails : (machine.play (List.replicate 4 .work)).answer = .failed failure) :
    machine.CreateFailed (machine.play (List.replicate 4 .work)) index rest failure := by
  change (machine.step.play (List.replicate 3 .work)).answer = _ at fails
  change machine.CreateFailed (machine.step.play (List.replicate 3 .work)) index rest failure
  rw [step_enrolled going todo present] at fails ⊢
  have roomy : ¬machine.ActivatesFull index := fun full => by cases present.symm.trans full.1
  by_cases full : (machine.runtime index).config.maxThreads ≤ scheduler.nextId
  · have failing : (machine.withTodo (.issue index entry :: rest)).play (List.replicate 3 .work) =
        _ := issue_fails going rfl quiet present full
    rw [failing] at fails ⊢
    cases Reply.failed.inj fails
    exact .of_spared (.inl rfl) rfl roomy
  · have making : (machine.withTodo (.issue index entry :: rest)).play (List.replicate 3 .work) =
        _ := issue_makes going rfl quiet present full
    rw [making] at fails
    cases fails

theorem CreateFailed.of_driven {host : Option (Fin n)} {later : List (Action n k C ν)}
    (going : machine.outcome = none)
    (todo : machine.todo = .enroll index entry :: .own host :: later)
    (quiet : (machine.runtime index).gate.afterOpening = 0)
    (absent : (machine.runtime index).scheduler = none) (driven : machine.active.isSome = true)
    (fails : (machine.play (List.replicate 4 .work)).answer = .failed failure) :
    machine.CreateFailed (machine.play (List.replicate 4 .work)) index (.own host :: later)
      failure := by
  have busy := create_busy going todo quiet absent driven
  have answered : machine.play (List.replicate 4 .work) =
      machine.play (List.replicate 3 .work) := by
    change (machine.play (List.replicate 3 .work)).step = _
    rw [busy]
    exact step_own (show Machine.todo _ = .own host :: later from rfl)
  rw [answered, busy] at fails ⊢
  cases Reply.failed.inj fails
  refine .of_spared (.inr rfl) rfl fun full => ?_
  rw [full.2.1] at driven
  cases driven

/-- A creation that sets the runtime up fails if the ids do not go beyond that of thread 0. -/
theorem CreateFailed.of_idle (going : machine.outcome = none)
    (todo : machine.todo = .enroll index entry :: rest)
    (quiet : (machine.runtime index).gate.afterOpening = 0)
    (absent : (machine.runtime index).scheduler = none) (idle : machine.active = none)
    (goes : (machine.play (List.replicate 4 .work)).outcome = none)
    (fails : (machine.play (List.replicate 4 .work)).answer = .failed failure) :
    machine.CreateFailed (machine.play (List.replicate 4 .work)) index rest failure := by
  change (machine.step.play (List.replicate 3 .work)).outcome = none at goes
  change (machine.step.play (List.replicate 3 .work)).answer = _ at fails
  change machine.CreateFailed (machine.step.play (List.replicate 3 .work)) index rest failure
  have activates := machine.step_activates going todo absent idle
  cases starts : (machine.runtime index).gate.start
      (machine.runtime index).config.timerInterval with
  | error fault =>
      rw [starts] at activates
      rw [play_ended (by rw [activates]; rfl), activates] at goes
      cases goes
  | ok gate =>
      rw [starts] at activates
      obtain ⟨log, activates⟩ := activates
      have seen (other : Fin n) : machine.step.runtime other = if index = other then
          { machine.runtime index with
            gate, scheduler := some (.start (.main ⟨rest, machine.code⟩)), current := .main }
          else machine.runtime other := by
        rw [activates]
        exact (machine.withTodo rest).runtime_activated index other gate
      have launched : (machine.withTodo rest).Launched
          (machine.step.play (List.replicate 3 .work)) index
          (machine.firstAnswer index) (machine.firstReady index entry) := by
        refine Launched.of_issuing gate ?went ?todo ?seen ?quiet ?others ?active ?mutexes ?code
        case seen => exact (seen index).trans (if_pos rfl)
        case others => exact fun other apart => (seen other).trans (if_neg apart.symm)
        case quiet => exact (Gate.keeps_start starts).quiet quiet
        case went =>
          rw [activates]
          exact going
        case todo | active | mutexes | code =>
          rw [activates]
          rfl
      have answered := launched.answers.symm.trans fails
      unfold firstAnswer firstReady at *
      split at answered
      · cases answered
      · rename_i full
        rw [if_neg full, if_neg full] at launched
        have full : machine.ActivatesFull index := ⟨absent, idle, UInt32.not_lt.mp full⟩
        cases Reply.failed.inj answered
        exact ⟨.inl rfl, fun roomy => absurd full roomy, fun roomy => absurd full roomy,
          fun _ => launched⟩

end Machine

/-- A creation that fails leaves no traces, wherever it comes in a course, but for those of the
activation of a runtime without room for threads. -/
theorem Course.forgets_failures (course : Course past machine) (going : machine.outcome = none)
    (todo : machine.todo = .enroll index entry :: rest)
    (goes : (machine.play (List.replicate 4 .work)).outcome = none)
    (fails : (machine.play (List.replicate 4 .work)).answer = .failed failure) :
    machine.CreateFailed (machine.play (List.replicate 4 .work)) index rest failure := by
  have driven := course.driven going
  have quiet := driven.quiet index
  obtain ⟨-, host, later, rfl, -⟩ := driven.of_enroll todo
  cases present : (machine.runtime index).scheduler with
  | some scheduler => exact .of_enrolled going todo quiet present fails
  | none =>
      cases active : machine.active with
      | some driver => exact .of_driven going todo quiet present (by rw [active]; rfl) fails
      | none => exact .of_idle going todo quiet present active goes fails

/-- The context has made a thread on its first runtime and is about to make one on the second. -/
def rivals : List (Move 2 1 Unit Nat) :=
  Move.calling (.create former ()) 5 ++ Move.calling (.create latter ()) 1

theorem forgets_rivals :
    ¬((paired .standard .cooperative ()).play rivals).ActivatesFull 1 ∧
      ((paired .standard .cooperative ()).play rivals).CreateFailed
        (((paired .standard .cooperative ()).play rivals).play (List.replicate 4 .work)) 1
        [.own none] ⟨Failure.busy, .otherRuntimeActive⟩ := by
  have course := (Course.paired .standard .cooperative ()).play rivals (by decide)
  exact ⟨(nomatch ·.2.1), course.forgets_failures rfl rfl rfl rfl⟩

/-- A runtime that has no room for threads stays active after its only creation has failed. -/
theorem failure_activates :
    ¬∀ (past : List (Moment 2 1 Unit Nat)) (machine : Machine 2 1 Unit Nat),
      Course past machine → machine.outcome = none →
        (∀ index, (machine.runtime index).config.defect? = none) →
          ∀ index entry rest failure, machine.todo = .enroll index entry :: rest →
            (machine.play (List.replicate 4 .work)).outcome = none →
              (machine.play (List.replicate 4 .work)).answer = .failed failure →
                (machine.play (List.replicate 4 .work)).active = machine.active := by
  intro always
  let cramped := paired { Config.standard with maxThreads := 1 } .cooperative ()
  have course := (Course.paired { Config.standard with maxThreads := 1 } .cooperative ()).play
    (Move.calling (.create 0 ()) 1) (by decide)
  have valid : ∀ index, ((cramped.play (Move.calling (.create 0 ()) 1)).runtime
      index).config.defect? = none := by decide
  exact nomatch always _ _ course rfl valid 0 () [.own none] _ rfl rfl rfl

end UserThreads
