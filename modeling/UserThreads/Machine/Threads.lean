import UserThreads.Machine.Basic

/-!
The life of threads on the machine: creation, start, end and join.
-/

namespace UserThreads.Machine

variable {n k : Nat} {C ν : Type}

/-- Turns the running context into thread 0 of a runtime: makes the scheduler,
makes the runtime the active one and starts its timer. -/
def activate (machine : Machine n k C ν) (index : Fin n) : Machine n k C ν :=
  let runtime := machine.runtime index
  match runtime.gate.install with
  | .error failure => machine.abort (.gate failure)
  | .ok gate =>
      let machine := machine.reportAll gate.installationLog
      match gate.arm runtime.config.timerInterval with
      | .error failure => machine.abort (.gate failure)
      | .ok gate =>
          let scheduler := Scheduler.start (.main ⟨machine.todo, machine.code⟩)
          let machine := machine.setRuntime index
            { runtime with gate, scheduler := some scheduler, current := .main }
          { machine with active := some index }.report
            (.runtimeStarted runtime.config.preemption runtime.config.timerInterval)

/-- Makes sure that the runtime has a scheduler, which only the active one may. -/
def enroll (machine : Machine n k C ν) (index : Fin n) (entry : C) : Machine n k C ν :=
  if (machine.runtime index).scheduler.isSome then machine.push [.issue index entry]
  else if machine.active.isSome then
    (machine.report .otherRuntimeActive).finishWith index
      (.failed ⟨Failure.busy, .otherRuntimeActive⟩)
  else (machine.activate index).push [.issue index entry]

def issue (machine : Machine n k C ν) (index : Fin n) (entry : C) : Machine n k C ν :=
  let runtime := machine.runtime index
  match runtime.scheduler with
  | none => machine.abort .notInitialized
  | some scheduler =>
      let block := Block.new runtime.config.stackSize ⟨[.begin], entry⟩
      match scheduler.issueId block runtime.config.maxThreads with
      | .error cause =>
          (machine.report (.idsExhausted runtime.config.maxThreads)).finishWith index
            (.failed ⟨Failure.tryAgain, cause⟩)
      | .ok (block, scheduler) =>
          ((machine.setScheduler index (scheduler.makeReady block)).report
            (.threadCreated block.id)).finishWith index (.id block.id)

/-- A new thread finds the active runtime and takes its entry. -/
def begin (machine : Machine n k C ν) : Machine n k C ν :=
  match machine.active with
  | none => machine.abort .noActiveRuntime
  | some index =>
      match (machine.runtime index).scheduler with
      | none => machine.abort .notInitialized
      | some scheduler =>
          let (unstarted, block) := scheduler.current.takeEntry
          (machine.setScheduler index { scheduler with current := block }).push
            [.reopen index, .enter index unstarted]

def enter (machine : Machine n k C ν) (host : Fin n) (unstarted : Bool) : Machine n k C ν :=
  if unstarted then machine.push [.own (some host)] else machine.abort .startedTwice

def exitProcess (machine : Machine n k C ν) (index : Fin n) : Machine n k C ν :=
  let runtime := machine.runtime index
  let machine := (machine.report (.lastRunnable runtime.current)).setGate index runtime.gate.disarm
  { machine with outcome := some .exited }

/-- Completes the running thread with `value` and hands the processor on; if
nobody is ready to take it, ends the process. -/
def finish (machine : Machine n k C ν) (index : Fin n) (value : ν) : Machine n k C ν :=
  let runtime := machine.runtime index
  match runtime.scheduler with
  | none => machine.exitProcess index
  | some scheduler =>
      match scheduler.current.complete? value with
      | none => machine.abort .completedTwice
      | some block =>
          let machine := machine.setScheduler index { scheduler with current := block }
          if scheduler.hasReady then
            (machine.report (.threadCompleted runtime.current)).push
              [.schedule index none, .resumed]
          else machine.exitProcess index

def reap? (machine : Machine n k C ν) (index : Fin n) (thread : ThreadId) :
    Option (Block (Context n k C ν) ν × Machine n k C ν) :=
  match (machine.runtime index).scheduler with
  | none => none
  | some scheduler =>
      (scheduler.reap? thread).map fun (block, scheduler) =>
        (block, machine.setScheduler index scheduler)

/-- One attempt to join: takes the thread's value if it has completed, else
gives the processor away and tries again. -/
def tryReaping (machine : Machine n k C ν) (index : Fin n) (thread : ThreadId) :
    Machine n k C ν :=
  match machine.reap? index thread with
  | none => machine.push
      [.schedule index none, .reopen index, .close index, .reap index thread]
  | some (block, machine) =>
      match block.value with
      | none => machine.abort .noReturnValue
      | some value =>
          (machine.report (.threadJoined thread)).finishWith index (.value value)

/-- The only attempt of a join that does not wait. -/
def reapOnce (machine : Machine n k C ν) (index : Fin n) (thread : ThreadId) :
    Machine n k C ν :=
  match machine.reap? index thread with
  | none => machine.finishWith index (.failed ⟨Failure.tryAgain, .notCompleted⟩)
  | some (block, machine) =>
      let machine := machine.report (.threadTaken thread)
      match block.value with
      | none => machine.abort .noReturnValue
      | some value => machine.finishWith index (.value value)

/-- Starts giving a runtime up. The active one is detached with its gate closed. -/
def dropRuntime (machine : Machine n k C ν) (index : Fin n) : Machine n k C ν :=
  if machine.active = some index then
    machine.push [.close index, .deactivate index, .reopen index, .discard index]
  else machine.push [.discard index]

def deactivate (machine : Machine n k C ν) (index : Fin n) : Machine n k C ν :=
  { machine.setGate index (machine.runtime index).gate.disarm with active := none }

/-- Frees a runtime's scheduler. A thread that runs on it leaks it instead, for
its control block holds the stack in use. -/
def discard (machine : Machine n k C ν) (index : Fin n) : Machine n k C ν :=
  let runtime := machine.runtime index
  let machine :=
    if runtime.current = .main then machine else machine.report (.runtimeLeaked runtime.current)
  (machine.setRuntime index { runtime with scheduler := none, live := false }).push [.reply .done]

end UserThreads.Machine
