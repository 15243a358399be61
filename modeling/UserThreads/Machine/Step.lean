import UserThreads.Machine.Locking
import UserThreads.Machine.Scheduling
import UserThreads.Machine.Threads

/-!
Steps of the machine, and what a thread's own code can do to it.
-/

namespace UserThreads

def Action.isOwn {n k : Nat} {C ν : Type} : Action n k C ν → Bool
  | .own _ => true
  | _ => false

namespace Machine

variable {n k : Nat} {C ν : Type}

/-- Does one piece of the library's code for the running thread. -/
def perform (machine : Machine n k C ν) : Action n k C ν → Machine n k C ν
  | .own host => machine.push [.own host]
  | .reply answer => { machine with answer }
  | .close index => machine.closeGate index
  | .closed index => machine.settleGate index true
  | .reopen index => machine.reopenGate index
  | .reopened index => machine.settleGate index false
  | .timer => machine.enterTimer
  | .schedule index mutex => machine.schedule index mutex
  | .begin => machine.begin
  | .enter host unstarted => machine.enter host unstarted
  | .enroll index entry => machine.enroll index entry
  | .issue index entry => machine.issue index entry
  | .reap index thread => machine.tryReaping index thread
  | .tryReap index thread => machine.reapOnce index thread
  | .readCurrent index => { machine with answer := .id (machine.runtime index).current }
  | .countReady index => machine.finishWith index (.count (machine.runtime index).numReady)
  | .countCompleted index =>
      machine.finishWith index (.count (machine.runtime index).numCompleted)
  | .finish index value => machine.finish index value
  | .resumed => machine.abort .resumedAfterExit
  | .dropRuntime index => machine.dropRuntime index
  | .deactivate index => machine.deactivate index
  | .discard index => machine.discard index
  | .initMutex mutex => machine.initMutex mutex
  | .lock index mutex => machine.lock index mutex
  | .claim index mutex me => machine.claim index mutex me
  | .claimAgain index mutex me => machine.claimAgain index mutex me
  | .woken index mutex me => machine.woken index mutex me
  | .acquire mutex me => machine.acquire mutex me
  | .unlock index mutex => machine.unlock index mutex
  | .refuseUnlock index me => machine.refuseUnlock index me
  | .handOn index mutex => machine.handOn index mutex
  | .destroy index mutex => machine.destroy index mutex
  | .drain index mutex => machine.drain index mutex
  | .releaseDestroyed index mutex => machine.releaseDestroyed index mutex
  | .wakeAll index mutex => machine.wakeAll index mutex
  | .refuse index operation status => machine.refuse index operation status
  | .dropMutex mutex => machine.dropMutex mutex

/-- Does the next piece that is left to do. Nothing happens in a thread's own
code or after the end of the process. -/
def step (machine : Machine n k C ν) : Machine n k C ν :=
  match machine.outcome, machine.todo with
  | none, action :: rest => { machine with todo := rest }.perform action
  | _, _ => machine

def inOwnCode (machine : Machine n k C ν) : Bool :=
  match machine.todo with
  | [] => false
  | action :: _ => action.isOwn

def call (machine : Machine n k C ν) (request : Call n k C ν) : Machine n k C ν :=
  machine.push request.actions

/-- Own code ends with `value`. A thread takes it to its host, passing the gate
once on the way, and exits with it; the initial context ends the process. -/
def leave (machine : Machine n k C ν) (value : ν) : Machine n k C ν :=
  match machine.todo with
  | .own (some host) :: rest =>
      { machine with todo := rest }.push
        [.close host, .reopen host, .close host, .finish host value]
  | .own none :: _ => { machine with outcome := some (.returned value) }
  | _ => machine

def panic (machine : Machine n k C ν) : Machine n k C ν :=
  match machine.todo with
  | .own (some host) :: _ => machine.abort (.panicked (machine.runtime host).current)
  | .own none :: _ => machine.abort .uncaught
  | _ => machine

end Machine

end UserThreads
