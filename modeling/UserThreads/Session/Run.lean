import UserThreads.Machine.Step
import UserThreads.Session.Note

/-!
The run of little programs on a machine. Whatever a thread does is noted down
once it is done.
-/

namespace UserThreads.Session

/-- What a thread waits for before it goes on with its program. -/
inductive Pending (δ : Type)
  | nothing
  /-- It has not noted down its start. -/
  | start
  /-- The operation on a runtime is under way. -/
  | answer (operation : Operation δ) (runtime : Nat)
  /-- A flag is not raised; the thread has yielded some times. -/
  | flag (flag : String) (runtime yields : Nat)

structure Code (δ : Type) where
  /-- The program's name; none for the initial context. -/
  program : Option String
  /-- The runtime that the thread was created on. -/
  home : Nat
  rest : List (Operation δ)
  pending : Pending δ
  localVariable : Int

structure Run (n k : Nat) (δ : Type) where
  machine : Machine n k (Code δ) (Value δ)
  programs : List (String × List (Operation δ))
  /-- Which runtimes were built and have not been given up. -/
  present : Vector Bool n
  /-- Which mutexes have not been given up. -/
  kept : Vector Bool k
  counter : Int
  flags : List String
  /-- The least severe level of log events that are noted down. -/
  logLevel : Option LogLevel
  /-- How many closings of gates the run may take. -/
  budget : Nat
  /-- The newest note first. -/
  notes : List (Note δ)
  ending : Option Ending

namespace Run

variable {n k : Nat} {δ : Type}

def runtime? (run : Run n k δ) (index : Nat) : Option (Fin n) :=
  if h : index < n then
    if run.present[index] then some ⟨index, h⟩ else none
  else none

def mutex? (run : Run n k δ) (index : Nat) : Option (Fin k) :=
  if h : index < k then
    if run.kept[index] then some ⟨index, h⟩ else none
  else none

def sight (run : Run n k δ) (runtime : Fin n) (mutex : Option (Fin k)) : Sight :=
  let seen := run.machine.runtime runtime
  { thread := seen.current
    ready := seen.numReady
    completed := seen.numCompleted
    mutex := mutex.map fun index => .of (run.machine.cells index) }

def note (run : Run n k δ) (name : String) (result : Result δ) (sight : Option Sight) :
    Run n k δ :=
  { run with notes := .operation name result sight :: run.notes }

/-- Notes an operation down with what can be seen of its runtime and mutex. -/
def noteSeen (run : Run n k δ) (operation : Operation δ) (runtime : Nat) (result : Result δ) :
    Run n k δ :=
  match run.runtime? runtime with
  | none => run.note operation.name result none
  | some index =>
      run.note operation.name result (some (run.sight index (operation.mutex?.bind run.mutex?)))

def setCode (run : Run n k δ) (code : Code δ) : Run n k δ :=
  { run with machine := { run.machine with code } }

def setPending (run : Run n k δ) (pending : Pending δ) : Run n k δ :=
  run.setCode { run.machine.code with pending }

def setLocal (run : Run n k δ) (localVariable : Int) : Run n k δ :=
  run.setCode { run.machine.code with localVariable }

/-- Puts operations before the rest of the running thread's program. -/
def prepend (run : Run n k δ) (operations : List (Operation δ)) : Run n k δ :=
  run.setCode { run.machine.code with rest := operations ++ run.machine.code.rest }

/-- Asks the library for an operation and waits for its answer. -/
def ask (run : Run n k δ) (operation : Operation δ) (runtime : Nat)
    (request : Call n k (Code δ) (Value δ)) : Run n k δ :=
  let run := run.setPending (.answer operation runtime)
  { run with machine := run.machine.call request }

def valueOf (run : Run n k δ) (runtime : Fin n) : ValueSource δ → Value δ
  | .given value => value
  | .me =>
      .number (run.machine.runtime runtime).current.number.toNat
  | .localVariable => .number run.machine.code.localVariable

/-- Gives a mutex or an operation on it up if the mutex is gone. -/
def withMutex (run : Run n k δ) (operation : Operation δ) (runtime : Fin n) (mutex : Nat)
    (act : Fin k → Run n k δ) : Run n k δ :=
  match run.mutex? mutex with
  | none => run.note operation.name (.text "no mutex") (some (run.sight runtime none))
  | some index => act index

/-- Looks at a flag: goes on if it is raised, else yields. -/
def lookAtFlag (run : Run n k δ) (flag : String) (runtime : Fin n) (yields : Nat) : Run n k δ :=
  if run.flags.contains flag then
    ((run.setLocal yields).setPending .nothing).note "wait" (.number yields)
      (some (run.sight runtime none))
  else
    let run := run.setPending (.flag flag runtime (yields + 1))
    { run with machine := run.machine.call (.yield runtime) }

/-- Orders an entry of a timer that goes by its plan; no other can be ordered. -/
def orderTimer (run : Run n k δ) (index : Fin n) (number : Nat) (atOpening : Bool) : Run n k δ :=
  let gate := (run.machine.runtime index).gate
  let gate := match gate.kind with
    | .cooperative | .signal => gate
    | .scripted | .refusing =>
        if atOpening then { gate with afterOpening := number }
        else { gate with beforeClosing := number }
  { run with machine := run.machine.setGate index gate }

def performOn (run : Run n k δ) (operation : Operation δ) (runtime : Fin n) : Run n k δ :=
  match operation with
  | .on .. | .repeat .. => run
  | .create program =>
      run.ask operation runtime (.create runtime {
        program := some program
        home := runtime
        rest := (run.programs.lookup program).getD []
        pending := .start
        localVariable := 0 })
  | .yield => run.ask operation runtime (.yield runtime)
  | .join thread => run.ask operation runtime (.join runtime thread)
  | .tryJoin thread => run.ask operation runtime (.tryJoin runtime thread)
  | .current => run.ask operation runtime (.current runtime)
  | .exit source =>
      let value := run.valueOf runtime source
      (run.noteSeen operation runtime (.value value)).ask operation runtime (.exit runtime value)
  | .return source =>
      let value := run.valueOf runtime source
      let run := run.noteSeen operation runtime (.value value)
      { run with machine := run.machine.leave value }
  | .panic =>
      let run := run.noteSeen operation runtime .nothing
      { run with machine := run.machine.panic }
  | .init mutex => run.withMutex operation runtime mutex fun index =>
      run.ask operation runtime (.init index)
  | .lock mutex => run.withMutex operation runtime mutex fun index =>
      run.ask operation runtime (.lock runtime index)
  | .unlock mutex => run.withMutex operation runtime mutex fun index =>
      run.ask operation runtime (.unlock runtime index)
  | .destroy mutex => run.withMutex operation runtime mutex fun index =>
      run.ask operation runtime (.destroy runtime index)
  | .look mutex => run.withMutex operation runtime mutex fun _ =>
      run.noteSeen operation runtime .nothing
  | .dropMutex mutex => run.withMutex operation runtime mutex fun index =>
      { run with kept := run.kept.set index false index.isLt }.ask operation runtime
        (.dropMutex index)
  | .load => (run.setLocal run.counter).noteSeen operation runtime (.number run.counter)
  | .store add =>
      let counter := run.machine.code.localVariable + add
      { run with counter }.noteSeen operation runtime (.number counter)
  | .raise flag =>
      let isNew := !run.flags.contains flag
      { run with flags := if isNew then flag :: run.flags else run.flags }.noteSeen
        operation runtime (.truth isNew)
  | .await flag => run.lookAtFlag flag runtime 0
  | .ifBusy mutex busy free => run.withMutex operation runtime mutex fun index =>
      if (run.machine.cells index).isBusy then run.prepend busy
      else run.prepend free
  | .order number atOpening =>
      (run.orderTimer runtime number atOpening).noteSeen operation runtime .nothing
  | .passGate => run.ask operation runtime (.passGate runtime)
  | .settings =>
      run.noteSeen operation runtime (.settings (run.machine.runtime runtime).config)
  | .dropRuntime =>
      { run with present := run.present.set runtime false runtime.isLt }.ask operation runtime
        (.dropRuntime runtime)

/-- Does an operation, by default on the runtime numbered `runtime`. -/
def perform (run : Run n k δ) (runtime : Nat) : Operation δ → Run n k δ
  | .on other operation => run.perform other operation
  | .repeat 0 _ => run
  | .repeat (times + 1) body => run.prepend (body ++ [.repeat times body])
  | operation =>
      match run.runtime? runtime with
      | none => run.note operation.name (.text "no runtime") none
      | some index => run.performOn operation index

/-- Notes the answer to an operation down. A runtime that was given up by one of
its own threads takes the run with it. -/
def noteAnswer (run : Run n k δ) (operation : Operation δ) (runtime : Nat) : Run n k δ :=
  let run := run.setPending .nothing
  match operation with
  | .dropRuntime =>
      let run := run.note operation.name .nothing none
      if h : runtime < n then
        if (run.machine.runtime ⟨runtime, h⟩).current = .main then run
        else { run with ending := some .dropped }
      else run
  | _ => run.noteSeen operation runtime (.ofReply run.machine.answer)

/-- What a thread does whose program has run out: it leaves nothing behind, and
notes that down unless it is the initial context. -/
def runOut (run : Run n k δ) : Run n k δ :=
  let code := run.machine.code
  let run :=
    if code.program.isSome then run.noteSeen (.return (.given .null)) code.home .nothing else run
  { run with machine := run.machine.leave .null }

def advance (run : Run n k δ) : Run n k δ :=
  let code := run.machine.code
  match code.pending with
  | .start =>
      let name := code.program.getD ""
      let run := run.setPending .nothing
      run.note "start" (.text name)
        ((run.runtime? code.home).map fun index => run.sight index none)
  | .answer operation runtime => run.noteAnswer operation runtime
  | .flag flag runtime yields =>
      match run.runtime? runtime with
      | none => run.setPending .nothing
      | some index => run.lookAtFlag flag index yields
  | .nothing =>
      match code.rest with
      | [] => run.runOut
      | operation :: rest => (run.setCode { code with rest }).perform code.home operation

/-- Notes down what the machine has logged since the last look. -/
def collectLog (run : Run n k δ) : Run n k δ :=
  match run.machine.log with
  | [] => run
  | events =>
      let wanted := match run.logLevel with
        | none => []
        | some kept => events.filter fun (event : LogEvent) => kept.admits event.level
      { run with
        notes := wanted.map .event ++ run.notes
        machine := { run.machine with log := [] } }

def closings (run : Run n k δ) : Nat :=
  run.machine.runtimes.foldl (fun sum runtime => sum + runtime.gate.tally.closings) 0

/-- Ends the run if the process has ended or the budget is used up. -/
def checkEnd (run : Run n k δ) : Run n k δ :=
  match run.ending, run.machine.outcome with
  | some _, _ => run
  | none, some (.returned _) => { run with ending := some .done }
  | none, some .exited => { run with ending := some .exited }
  | none, some (.aborted _) => { run with ending := some .aborted }
  | none, none =>
      if run.budget < run.closings then { run with ending := some .stuck } else run

/-- One step of the run: of the library, or of the running thread's own code. -/
def step (run : Run n k δ) : Run n k δ :=
  if run.machine.inOwnCode then run.advance.collectLog.checkEnd
  else { run with machine := run.machine.step }.collectLog.checkEnd

def toEnd (run : Run n k δ) : Nat → Run n k δ
  | 0 => run
  | fuel + 1 => if run.ending.isSome then run else run.step.toEnd fuel

/-- Enough steps to use the budget up. Between two closings of gates one thread
does at most what is left of its program, a few steps for each operation. -/
def enoughSteps (run : Run n k δ) : Nat :=
  let heaviest := (run.machine.code.rest :: run.programs.map Prod.snd).foldl
    (fun heaviest program => max heaviest (Operation.weights program)) 0
  (run.budget + 2) * (16 * heaviest + 64)

def finish (run : Run n k δ) : Run n k δ := run.toEnd run.enoughSteps

end Run

end UserThreads.Session
