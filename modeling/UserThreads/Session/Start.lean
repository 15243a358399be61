import UserThreads.Session.Report

/-!
How runs of little programs begin: on runtimes that are built one after the
other, or on the default runtime.
-/

namespace UserThreads.Session

/-- How a runtime is to be built: its gate, the period of a timer that goes by a
plan, and changes to the settings it starts from. -/
structure RuntimePlan where
  gate : GateKind
  period : Nat
  changes : List Config.Setting

namespace RuntimePlan

/-- Small stacks and few threads; a signal-driven timer that never elapses. -/
def base (gate : GateKind) : Config :=
  let small := { Config.standard with stackSize := 262144, maxThreads := 64, preemption := false }
  match gate with
  | .signal => { small with preemption := true, timerInterval := .ofParts 1000000 0 }
  | _ => small

def config (plan : RuntimePlan) : Config := plan.changes.foldl Config.set (base plan.gate)

end RuntimePlan

def RuntimePlan.gateOf (plan : RuntimePlan) : Gate :=
  match plan.gate with
  | .cooperative | .signal => Runtime.gateFor plan.config
  | .scripted => .new .scripted (Gate.every plan.period)
  | .refusing => .new .refusing (Gate.every plan.period)

def RuntimePlan.build {n k : Nat} {C ν : Type} (plan : RuntimePlan) : Runtime n k C ν :=
  .new plan.config plan.gateOf

/-- What goes into a run beside its runtimes. -/
structure Script (δ : Type) where
  programs : List (String × List (Operation δ))
  main : List (Operation δ)
  logLevel : Option LogLevel
  budget : Nat

namespace Script

variable {δ : Type}

def mainCode (script : Script δ) : Code δ where
  program := none
  home := 0
  rest := script.main
  pending := .nothing
  localVariable := 0

def admits (script : Script δ) (event : LogEvent) : Bool :=
  match script.logLevel with
  | none => false
  | some kept => kept.admits event.level

/-- What building a runtime notes down, the newest note first. -/
def buildNotes (script : Script δ) (config : Config) : List (Note δ) :=
  match config.validate with
  | .ok () => []
  | .error failure =>
      .operation "new" (.failed failure) none ::
        (config.validationLog.filter script.admits).reverse.map .event

/-- A run on runtimes built in order. One that cannot be built is absent. -/
def start (script : Script δ) (plans : Array RuntimePlan) (k : Nat) : Run plans.size k δ where
  machine := .start (plans.toVector.map RuntimePlan.build) script.mainCode
  programs := script.programs
  present := plans.toVector.map fun plan => plan.config.defect?.isNone
  kept := Vector.replicate k true
  counter := 0
  flags := []
  logLevel := script.logLevel
  budget := script.budget
  notes := (plans.toList.flatMap fun plan => (script.buildNotes plan.config).reverse).reverse
  ending := none

/-- A run on the default runtime, if its settings could be read and can drive
one; what reading them logged comes first. Otherwise the process is stopped
before anything is run. -/
def startDefault (script : Script δ) (path : String) (settings : Except Failure Config)
    (reading : List LogEvent) (k : Nat) : Run 1 k δ :=
  let begun (config : Config) (events : List LogEvent) (ending : Option Ending) : Run 1 k δ :=
    { machine := .start #v[.ofConfig config] script.mainCode
      programs := script.programs
      present := #v[true]
      kept := Vector.replicate k true
      counter := 0
      flags := []
      logLevel := script.logLevel
      budget := script.budget
      notes := (events.filter script.admits).reverse.map .event
      ending }
  match settings with
  | .error failure =>
      begun .standard (reading ++ (Fault.cannotLoad path failure).event?.toList) (some .aborted)
  | .ok config =>
      match config.validate with
      | .error failure =>
          begun config
            (reading ++ config.validationLog ++ (Fault.cannotCreate failure).event?.toList)
            (some .aborted)
      | .ok () => begun config reading none

end Script

end UserThreads.Session
