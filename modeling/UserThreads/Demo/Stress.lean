import UserThreads.Demo.Scenario

/-!
Scenarios that need a timer to end, for any number of threads. They show only
what does not depend on when the timer comes.
-/

namespace UserThreads.Demo

inductive Stress
  /-- Each thread increments the counter a number of times under the mutex. -/
  | counter (increments : Nat)
  /-- Each thread increments the counter once and spins until the thread that was
  created last has seen all of them do so. -/
  | spin
  /-- Each thread increments the counter once while the initial context spins. -/
  | main
  deriving DecidableEq, Repr

namespace Stress

/-- What the threads do, in the order of creation. -/
def entries (threads : Nat) : Stress → List Task
  | counter increments => List.replicate threads (counting increments)
  | spin =>
      let raise : Task :=
        .spin (fun shared => decide (threads ≤ shared.counter))
          (.act (fun shared => { shared with flag := true }) (.leave (.truth true)))
      let wait : Task := .spin Shared.flag (.leave (.truth true))
      List.replicate (threads - 1) (.act Shared.increment wait) ++
        if threads = 0 then [] else [.act Shared.increment raise]
  | main => List.replicate threads (.act Shared.increment (.leave (.truth true)))

def joinAll : List ThreadId → Task
  | [] => .leave .unit
  | thread :: rest => .join thread fun _ => joinAll rest

def start (stress : Stress) (threads : Nat) : Task :=
  .require (.init sole) (.createAll (stress.entries threads) fun created =>
    match stress with
    | main => .spin (fun shared => decide (threads ≤ shared.counter)) (joinAll created)
    | _ => joinAll created)

/-- More than the number of steps that the threads take together. -/
def enoughSteps (stress : Stress) (threads : Nat) : Nat :=
  let increments :=
    match stress with
    | counter increments => increments
    | _ => 1
  64 * (threads + 1) * (increments + threads + 16)

/-- Small stacks, a timer, and ids for all threads. -/
def config (threads : Nat) (interval : Duration) : Config :=
  { Config.standard with
    timerInterval := interval
    stackSize := 262144
    maxThreads := .ofNat (threads + 1) }

def run (stress : Stress) (threads : Nat) (interval : Duration) : Run :=
  (Run.start (config threads interval) (stress.start threads)).toEnd
    (stress.enoughSteps threads)

end Stress

end UserThreads.Demo
