import UserThreads.Machine.Basic

/-!
Gates, the timer and scheduling decisions on the machine.
-/

namespace UserThreads.Machine

variable {n k : Nat} {C ν : Type}

/-- Closes a gate. If the timer is due it comes in first. -/
def closeGate (machine : Machine n k C ν) (index : Fin n) : Machine n k C ν :=
  match (machine.runtime index).gate.close with
  | (gate, true) => (machine.setGate index gate).push [.timer, .closed index]
  | (gate, false) => machine.setGate index gate

/-- Opens a gate. If an entry of the timer was ordered for now, it comes in. -/
def reopenGate (machine : Machine n k C ν) (index : Fin n) : Machine n k C ν :=
  match (machine.runtime index).gate.reopen with
  | (gate, true) => (machine.setGate index gate).push [.timer, .reopened index]
  | (gate, false) => machine.setGate index gate

/-- Leaves a gate closed or open once the timer that came in is gone. -/
def settleGate (machine : Machine n k C ν) (index : Fin n) (closed : Bool) : Machine n k C ν :=
  machine.setGate index { (machine.runtime index).gate with closed }

/-- The timer's entry. It closes the active runtime's gate and leaves opening it
to the thread that it came in on. -/
def enterTimer (machine : Machine n k C ν) : Machine n k C ν :=
  match machine.active with
  | none => machine
  | some index => machine.push [.close index, .schedule index none]

def save (machine : Machine n k C ν) (scheduler : Scheduler (Context n k C ν) ν) :
    Scheduler (Context n k C ν) ν :=
  { scheduler with
    current := { scheduler.current with context := ⟨machine.todo, machine.code⟩ } }

/-- The waiters of the mutex on which a blocked thread is to be parked. -/
def waiters? (machine : Machine n k C ν) (parking : Option (Fin k)) :
    Option (WaitQueue (Context n k C ν) ν) :=
  parking.map fun mutex => (machine.cells mutex).waiters

def setWaiters (machine : Machine n k C ν) (parking : Option (Fin k))
    (waiters : Option (WaitQueue (Context n k C ν) ν)) : Machine n k C ν :=
  match parking, waiters with
  | some index, some waiters =>
      machine.setMutex index { machine.cells index with waiters }
  | _, _ => machine

def resume (machine : Machine n k C ν) (scheduler : Scheduler (Context n k C ν) ν) :
    Machine n k C ν :=
  { machine with
    todo := scheduler.current.context.todo
    code := scheduler.current.context.code }

/-- Makes a scheduling decision and carries it out; a blocked thread is parked
on the mutex `parking`. The running thread's context is saved in its block, the
timer is started afresh, and the incoming thread goes on where its context
says. Nothing happens on a runtime without a scheduler. -/
def schedule (machine : Machine n k C ν) (index : Fin n) (parking : Option (Fin k)) :
    Machine n k C ν :=
  let runtime := machine.runtime index
  match runtime.scheduler with
  | none => machine
  | some scheduler =>
      match (machine.save scheduler).rotate (machine.waiters? parking) with
      | .error fault => machine.abort fault
      | .ok rotation =>
          let machine :=
            (machine.setWaiters parking rotation.waiting).reportAll rotation.event.toList
          match rotation.switch with
          | none => machine.setScheduler index rotation.scheduler
          | some switch =>
              match runtime.gate.arm runtime.config.timerInterval with
              | .error failure => machine.abort (.gate failure)
              | .ok gate =>
                  let machine := machine.setRuntime index { runtime with
                    gate, scheduler := some rotation.scheduler, current := switch.incoming }
                  if switch.outgoing = switch.incoming then machine
                  else machine.resume rotation.scheduler

end UserThreads.Machine
