import UserThreads.Config.File
import UserThreads.Demo.Arguments
import UserThreads.Log.Filter

/-!
The demonstration program: from a command line and an environment to what is
printed and logged.
-/

namespace UserThreads.Demo

structure Report where
  /-- The exit status; none if the process was aborted or would never end. -/
  code : Option UInt8
  printed : String
  /-- Why the program failed, if it says so. -/
  failure : Option String
  log : List String
  deriving Repr

namespace Report

def failed (reason printed : String) (log : List String) : Report :=
  ⟨some 1, printed, some reason, log⟩

def failureLine (report : Report) : Option String := report.failure.map ("Error: " ++ ·)

end Report

def Arguments.settings (arguments : Arguments) (environment : Environment)
    (files : String → File) : Except Failure Config :=
  match arguments.config with
  | none => .ok .standard
  | some path => Config.ofFile environment (files path)

/-- Runs a scenario. Its settings are checked once more, as the arguments may
have changed them. -/
def Arguments.run (arguments : Arguments) (environment : Environment) (files : String → File) :
    Report :=
  let filter := LogFilter.ofEnvironment environment
  let lines (events : List LogEvent) : List String :=
    (events.filter filter.keeps).map LogEvent.line
  let settings := arguments.settings environment files
  let reading := Config.readingLog settings
  match settings with
  | .error failure => .failed failure.describe "" (lines reading)
  | .ok config =>
      let config :=
        match arguments.interval with
        | none => config
        | some micros => { config with timerInterval := .ofMicros micros }
      let config := arguments.scenario.settle config
      match config.validate with
      | .error failure => .failed failure.describe "" (lines (reading ++ config.validationLog))
      | .ok () =>
          let run := arguments.scenario.run config
          let log := lines (reading ++ run.log)
          match run.ending? with
          | some .returned | some .exited => ⟨some 0, run.shared.printed, none, log⟩
          | some (.failed reason) => .failed reason run.shared.printed log
          | some .aborted | some .stuck | none => ⟨none, run.shared.printed, none, log⟩

def call (words : List String) (environment : Environment) (files : String → File) : Report :=
  match CommandLine.read words with
  | .run arguments => arguments.run environment files
  | .help => ⟨some 0, helpText, none, []⟩
  | .misused => ⟨some 2, "", none, []⟩

end UserThreads.Demo
