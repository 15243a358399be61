import UserThreads.Proofs.Shift

/-!
What stays of a runtime whatever is done: its settings, the kind of its gate, and that no
entry of the timer is ordered for an opening. Only an activation installs its gate, and
only giving it up ends its life.
-/

namespace UserThreads

variable {n k : Nat} {C ν : Type}

/-- The gate, however it stands now, is of the same kind and has no more entries ordered. -/
structure Gate.Keeps (before after : Gate) : Prop where
  kind : after.kind = before.kind
  quiet : before.afterOpening = 0 → after.afterOpening = 0

namespace Gate

variable {gate after : Gate}

theorem Keeps.refl (gate : Gate) : gate.Keeps gate := ⟨rfl, id⟩

theorem Keeps.trans {later : Gate} (first : gate.Keeps after) (second : after.Keeps later) :
    gate.Keeps later := ⟨second.kind.trans first.kind, second.quiet ∘ first.quiet⟩

theorem keeps_close (gate : Gate) : gate.Keeps gate.close.1 := by
  unfold close
  split <;> exact ⟨rfl, id⟩

theorem keeps_reopen (gate : Gate) : gate.Keeps gate.reopen.1 := by
  refine ⟨rfl, fun quiet => ?_⟩
  change gate.afterOpening - 1 = 0
  omega

theorem keeps_install (installed : gate.install = .ok after) :
    gate.Keeps after ∧ after.installed = true := by
  unfold install at installed
  split at installed
  · contradiction
  · cases installed
    exact ⟨⟨rfl, id⟩, rfl⟩

theorem keeps_arm {interval : Duration} (armed : gate.arm interval = .ok after) :
    gate.Keeps after ∧ after.installed = gate.installed := by
  unfold arm at armed
  split at armed
  · contradiction
  · cases armed
    exact ⟨⟨rfl, id⟩, rfl⟩

theorem installed_close (gate : Gate) : gate.close.1.installed = gate.installed := by
  unfold close
  split <;> rfl

/-- Whether a gate can be armed depends on its kind alone. -/
theorem arm_of_kind {other : Gate} {interval : Duration} (armed : gate.arm interval = .ok after)
    (kind : other.kind = gate.kind) : ∃ started, other.arm interval = .ok started := by
  unfold arm at armed ⊢
  rw [kind]
  split at armed
  · contradiction
  · rename_i able
    exact ⟨_, if_neg able⟩

end Gate

/-- The runtime, whatever its threads have done, is the same runtime. -/
structure Runtime.Keeps (before after : Runtime n k C ν) : Prop where
  config : after.config = before.config
  gate : before.gate.Keeps after.gate

/-- It has not been given up either, and its gate is installed or not as before. -/
structure Runtime.Lasts (before after : Runtime n k C ν) : Prop where
  keeps : before.Keeps after
  installed : after.gate.installed = before.gate.installed
  live : after.live = before.live

/-- All is as it was but the scheduler, and how often the timer was stopped. -/
def Runtime.Reseats (before after : Runtime n k C ν) : Prop :=
  ∃ disarms scheduler, after = { before with
    gate := { before.gate with tally := { before.gate.tally with disarms } }, scheduler }

/-- The work that moves a gate, starts a timer or gives a runtime up. -/
def Action.tends : Action n k C ν → Bool
  | .close _ | .closed _ | .reopen _ | .reopened _ | .enroll .. | .schedule .. | .discard _ => true
  | _ => false

/-- The runtime that the piece of work may activate or give up. -/
def Action.renews? : Action n k C ν → Option (Fin n)
  | .enroll index _ | .discard index => some index
  | _ => none

namespace Runtime

variable {runtime after : Runtime n k C ν}

theorem Lasts.refl (runtime : Runtime n k C ν) : runtime.Lasts runtime :=
  ⟨⟨rfl, .refl _⟩, rfl, rfl⟩

theorem Keeps.trans {later : Runtime n k C ν} (first : runtime.Keeps after)
    (second : after.Keeps later) : runtime.Keeps later :=
  ⟨second.config.trans first.config, first.gate.trans second.gate⟩

theorem Lasts.trans {later : Runtime n k C ν} (first : runtime.Lasts after)
    (second : after.Lasts later) : runtime.Lasts later :=
  ⟨first.keeps.trans second.keeps, second.installed.trans first.installed,
    second.live.trans first.live⟩

theorem Reseats.refl (runtime : Runtime n k C ν) : runtime.Reseats runtime := ⟨_, _, rfl⟩

theorem Reseats.trans {later : Runtime n k C ν} (first : runtime.Reseats after)
    (second : after.Reseats later) : runtime.Reseats later := by
  obtain ⟨_, _, rfl⟩ := first
  obtain ⟨_, _, rfl⟩ := second
  exact ⟨_, _, rfl⟩

theorem Reseats.lasts (reseats : runtime.Reseats after) : runtime.Lasts after := by
  obtain ⟨_, _, rfl⟩ := reseats
  exact ⟨⟨rfl, ⟨rfl, id⟩⟩, rfl, rfl⟩

theorem lasts_gate {gate : Gate} (kept : runtime.gate.Keeps gate)
    (installed : gate.installed = runtime.gate.installed) :
    runtime.Lasts { runtime with gate } := ⟨⟨rfl, kept⟩, installed, rfl⟩

end Runtime

variable {home : Fin n} {action : Action n k C ν}

namespace Machine

section reseats

variable {before : Machine n k C ν}

theorem reseats_setRuntime (after : Machine n k C ν)
    (same : (before.runtime home).Reseats (after.runtime home)) {index : Fin n}
    {runtime : Runtime n k C ν} (reseats : (after.runtime index).Reseats runtime) :
    (before.runtime home).Reseats ((after.setRuntime index runtime).runtime home) := by
  rw [runtime_setRuntime]
  split
  · rename_i here
    exact same.trans (here ▸ reseats)
  · exact same

theorem reseats_setScheduler (after : Machine n k C ν)
    (same : (before.runtime home).Reseats (after.runtime home)) (index : Fin n)
    (scheduler : Scheduler (Context n k C ν) ν) :
    (before.runtime home).Reseats ((after.setScheduler index scheduler).runtime home) :=
  reseats_setRuntime _ same ⟨_, _, rfl⟩

theorem reseats_wake (after : Machine n k C ν)
    (same : (before.runtime home).Reseats (after.runtime home)) (index : Fin n)
    (block : Block (Context n k C ν) ν) :
    (before.runtime home).Reseats ((after.wake index block).runtime home) := by
  simp only [wake]
  split
  · exact same
  · exact reseats_setScheduler (after.report _) same index _

theorem reseats_exitProcess (after : Machine n k C ν)
    (same : (before.runtime home).Reseats (after.runtime home)) (index : Fin n) :
    (before.runtime home).Reseats ((after.exitProcess index).runtime home) :=
  reseats_setRuntime (after.report _) same ⟨_, _, rfl⟩

/-- Of a runtime that is not tended nothing changes but its scheduler, and its timer may be
stopped. -/
theorem perform_reseats (machine : Machine n k C ν) (home : Fin n)
    (untended : action.tends = false) :
    (machine.runtime home).Reseats ((machine.perform action).runtime home) := by
  have same : (machine.runtime home).Reseats (machine.runtime home) := .refl _
  cases action with
  | close | closed | reopen | reopened | enroll | schedule | discard => cases untended
  | timer =>
      simp only [perform, enterTimer]
      split <;> exact same
  | begin =>
      simp only [perform, begin]
      split
      · exact same
      · split
        · exact same
        · exact reseats_setScheduler _ same _ _
  | issue index entry =>
      simp only [perform, issue]
      split
      · exact same
      · split
        · exact same
        · exact reseats_setScheduler _ same index _
  | reap index thread =>
      simp only [perform, tryReaping]
      split
      · exact same
      · rename_i found
        obtain ⟨_, _, _, rfl, _, _⟩ := reap_eq found
        split <;> exact reseats_setScheduler _ same index _
  | tryReap index thread =>
      simp only [perform, reapOnce]
      split
      · exact same
      · rename_i found
        obtain ⟨_, _, _, rfl, _, _⟩ := reap_eq found
        split <;> exact reseats_setScheduler _ same index _
  | finish index value =>
      simp only [perform, finish]
      split
      · exact reseats_exitProcess _ same index
      · split
        · exact same
        · split
          · exact reseats_setScheduler _ same index _
          · exact reseats_exitProcess _ (reseats_setScheduler _ same index _) index
  | deactivate => exact reseats_setRuntime _ same ⟨_, _, rfl⟩
  | claimAgain index mutex me =>
      simp only [perform, claimAgain, blockCurrent]
      split
      · exact same
      · split
        · exact same
        · exact reseats_setScheduler ((machine.setMutex _ _).report _) same index _
  | handOn index mutex | wakeAll index mutex =>
      simp only [perform, handOn, wakeAll, popWaiter]
      split <;> rename_i popped <;> obtain ⟨-, rfl⟩ := Prod.mk.inj popped
      all_goals first
        | exact same
        | exact reseats_wake (machine.setMutex _ _) same index _
  | dropRuntime | initMutex | lock | claim | woken | unlock | destroy | drain | dropMutex
  | enter =>
      simp only [perform, dropRuntime, initMutex, lock, claim, woken, unlock, destroy, drain,
        dropMutex, enter, refuseUse]
      repeat' split
      all_goals exact same
  | own | reply | readCurrent | countReady | countCompleted | resumed | acquire | refuseUnlock
  | releaseDestroyed | refuse => exact same

end reseats

section lasts

variable {before : Machine n k C ν}

theorem lasts_setRuntime (after : Machine n k C ν) {index : Fin n} {runtime : Runtime n k C ν}
    (same : (before.runtime home).Lasts (after.runtime home))
    (lasts : (after.runtime index).Lasts runtime) :
    (before.runtime home).Lasts ((after.setRuntime index runtime).runtime home) := by
  rw [runtime_setRuntime]
  split
  · rename_i here
    exact same.trans (here ▸ lasts)
  · exact same

theorem lasts_setScheduler (after : Machine n k C ν)
    (same : (before.runtime home).Lasts (after.runtime home))
    (index : Fin n) (scheduler : Scheduler (Context n k C ν) ν) :
    (before.runtime home).Lasts ((after.setScheduler index scheduler).runtime home) :=
  lasts_setRuntime _ same ⟨⟨rfl, .refl _⟩, rfl, rfl⟩

theorem lasts_setGate (after : Machine n k C ν) {index : Fin n} {gate : Gate}
    (same : (before.runtime home).Lasts (after.runtime home))
    (kept : (after.runtime index).gate.Keeps gate)
    (installed : gate.installed = (after.runtime index).gate.installed) :
    (before.runtime home).Lasts ((after.setGate index gate).runtime home) :=
  lasts_setRuntime _ same (Runtime.lasts_gate kept installed)

theorem lasts_schedule (before : Machine n k C ν) (home index : Fin n)
    (parking : Option (Fin k)) :
    (before.runtime home).Lasts ((before.schedule index parking).runtime home) := by
  have parked (waiting : Option (WaitQueue (Context n k C ν) ν)) :
      (before.setWaiters parking waiting).runtime = before.runtime :=
    (before.setWaiters_frame parking waiting).1
  have same (waiting : Option (WaitQueue (Context n k C ν) ν)) (host : Fin n) :
      (before.runtime host).Lasts ((before.setWaiters parking waiting).runtime host) := by
    rw [parked]
    exact .refl _
  simp only [schedule]
  split
  · exact .refl _
  · split
    · exact .refl _
    · rename_i rotation rotated
      split
      · exact lasts_setScheduler ((before.setWaiters _ _).reportAll _)
          (same rotation.waiting home) index _
      · split
        · exact same rotation.waiting home
        · rename_i gate armed
          obtain ⟨kept, installed⟩ := Gate.keeps_arm armed
          have lasts : ((before.setWaiters parking rotation.waiting).runtime index).Lasts
              { before.runtime index with
                gate, scheduler := some rotation.scheduler, current := ‹Switch›.incoming } := by
            rw [parked]
            exact ⟨⟨rfl, kept⟩, installed, rfl⟩
          split <;> exact lasts_setRuntime ((before.setWaiters _ _).reportAll _)
            (same rotation.waiting home) lasts

end lasts

/-- No work but an activation and giving a runtime up makes a runtime another one. -/
theorem perform_lasts (machine : Machine n k C ν) (apart : action.renews? ≠ some home) :
    (machine.runtime home).Lasts ((machine.perform action).runtime home) := by
  have same : (machine.runtime home).Lasts (machine.runtime home) := .refl _
  cases action with
  | schedule index parking => exact machine.lasts_schedule home index parking
  | close index =>
      have kept := (machine.runtime index).gate.keeps_close
      have installed := (machine.runtime index).gate.installed_close
      simp only [perform, closeGate]
      split <;> rename_i closing <;> rw [closing] at kept installed <;>
        exact lasts_setGate _ same kept installed
  | reopen index =>
      have kept := (machine.runtime index).gate.keeps_reopen
      simp only [perform, reopenGate]
      split <;> rename_i reopening <;> rw [reopening] at kept <;>
        exact lasts_setGate _ same kept (congrArg (·.1.installed) reopening).symm
  | closed | reopened => exact lasts_setGate _ same ⟨rfl, id⟩ rfl
  | enroll index entry =>
      have other : index ≠ home := fun equal => apart (congrArg some equal)
      simp only [perform, enroll, activate]
      split
      · exact same
      · split
        · exact same
        · split
          · exact same
          · split
            · exact same
            · change (machine.runtime home).Lasts ((setRuntime _ index _).runtime home)
              rw [runtime_setRuntime, if_neg other]
              exact same
  | discard index =>
      have other : index ≠ home := fun equal => apart (congrArg some equal)
      simp only [perform, discard]
      change (machine.runtime home).Lasts ((setRuntime _ index _).runtime home)
      rw [runtime_setRuntime, if_neg other]
      split <;> exact same
  | _ => exact (machine.perform_reseats home rfl).lasts

theorem keeps_activate (machine : Machine n k C ν) (index : Fin n) :
    (machine.runtime index).Keeps ((machine.activate index).runtime index) := by
  have same : (machine.runtime index).Keeps (machine.runtime index) := ⟨rfl, .refl _⟩
  simp only [activate]
  split
  · exact same
  · rename_i gate installed
    split
    · exact same
    · rename_i started armed
      have kept := (Gate.keeps_install installed).1.trans (Gate.keeps_arm armed).1
      change (machine.runtime index).Keeps ((setRuntime _ index _).runtime index)
      rw [runtime_setRuntime_self]
      exact ⟨rfl, kept⟩

theorem perform_keeps (machine : Machine n k C ν) (home : Fin n) (action : Action n k C ν) :
    (machine.runtime home).Keeps ((machine.perform action).runtime home) := by
  by_cases renews : action.renews? = some home
  · cases action with
    | enroll index entry =>
        cases renews
        simp only [perform, enroll]
        split
        · exact ⟨rfl, .refl _⟩
        · split
          · exact ⟨rfl, .refl _⟩
          · exact machine.keeps_activate home
    | discard index =>
        cases renews
        simp only [perform, discard]
        change (machine.runtime home).Keeps ((setRuntime _ home _).runtime home)
        rw [runtime_setRuntime_self]
        exact ⟨rfl, .refl _⟩
    | _ => cases renews
  · exact (machine.perform_lasts renews).keeps

theorem make_keeps (machine : Machine n k C ν) (home : Fin n) (move : Move n k C ν) :
    (machine.runtime home).Keeps ((machine.make move).runtime home) := by
  by_cases library : move = .work
  · subst library
    simp only [make, step]
    split
    · rename_i action rest _ _
      exact (machine.withTodo rest).perform_keeps home action
    · exact ⟨rfl, .refl _⟩
  · rw [(machine.make_own library).1]
    exact ⟨rfl, .refl _⟩

end Machine

end UserThreads
