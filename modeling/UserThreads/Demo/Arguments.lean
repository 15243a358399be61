import UserThreads.Demo.Scenario
import UserThreads.Yaml.Number

/-!
The command line of the demonstration program: a scenario, and options before or
after it.
-/

namespace UserThreads.Demo

structure Arguments where
  scenario : Scenario
  config : Option String
  /-- The timer's interval in microseconds, which goes before the file's. -/
  interval : Option UInt64
  deriving DecidableEq, Repr

inductive CommandLine
  | run (arguments : Arguments)
  | help
  | misused
  deriving DecidableEq, Repr

inductive ValueOption
  | config
  | interval
  deriving DecidableEq, Repr

/-- The parts of a command line that were met so far. -/
structure FoundArguments where
  scenario : Option Scenario
  config : Option String
  interval : Option UInt64

namespace FoundArguments

def empty : FoundArguments := ⟨none, none, none⟩

/-- Takes the scenario; there is only one. -/
def addScenario? (found : FoundArguments) (word : String) : Option FoundArguments :=
  match found.scenario, Scenario.ofName? word with
  | none, some scenario => some { found with scenario }
  | _, _ => none

/-- A number of 64 bits, which may have a plus sign. -/
def word64? (text : String) : Option UInt64 :=
  let digits :=
    match text.toList with
    | '+' :: rest => rest
    | rest => rest
  match Yaml.Number.natural? 10 digits with
  | some number => if number < UInt64.size then some (.ofNat number) else none
  | none => none

/-- Takes the value of an option; each may be given once. -/
def addValue? (found : FoundArguments) (option : ValueOption) (value : String) :
    Option FoundArguments :=
  match option with
  | .config => if found.config.isSome then none else some { found with config := value }
  | .interval =>
      if found.interval.isSome then none
      else (word64? value).map fun interval => { found with interval }

def finish (found : FoundArguments) : CommandLine :=
  match found.scenario with
  | some scenario => .run ⟨scenario, found.config, found.interval⟩
  | none => .misused

end FoundArguments

/-- A word that is no option: anything but what begins with a dash, which may
stand alone. -/
def isValue (word : String) : Bool := !word.startsWith "-" || word == "-"

def valueOption? : String → Option ValueOption
  | "--config" => some .config
  | "--interval-us" => some .interval
  | _ => none

/-- The name of a long option, and the value after an equals sign. -/
def splitOption (word : String) : String × Option String :=
  let name := String.ofList (word.toList.takeWhile (· != '='))
  match word.toList.dropWhile (· != '=') with
  | [] => (name, none)
  | _ :: value => (name, some (String.ofList value))

/-- Reads on in a command line. `pending` is an option whose value comes next;
once the options are `closed` by a double dash, all words are values. -/
def CommandLine.readFrom (found : FoundArguments) (pending : Option ValueOption) (closed : Bool)
    (words : List String) : CommandLine :=
  match words with
  | [] => if pending.isSome then .misused else found.finish
  | word :: rest =>
      match pending with
      | some option =>
          if isValue word then
            match found.addValue? option word with
            | some found => readFrom found none closed rest
            | none => .misused
          else .misused
      | none =>
          if closed || isValue word then
            match found.addScenario? word with
            | some found => readFrom found none closed rest
            | none => .misused
          else if word == "--" then readFrom found none true rest
          else if word.startsWith "--" then
            match splitOption word with
            | ("--help", none) => .help
            | (name, value) =>
                match valueOption? name, value with
                | some option, some value =>
                    match found.addValue? option value with
                    | some found => readFrom found none closed rest
                    | none => .misused
                | some option, none => readFrom found (some option) closed rest
                | none, _ => .misused
          else if word.startsWith "-h" then .help
          else .misused

def CommandLine.read (words : List String) : CommandLine :=
  readFrom .empty none false words

def helpText : String :=
  "Runs a user-level thread scenario.\n\n" ++
    "Usage: uthread-demo [OPTIONS] <SCENARIO>\n\n" ++
    "Arguments:\n" ++
    "  <SCENARIO>  Sets the scenario to run [possible values: " ++
    ", ".intercalate (Scenario.all.map Scenario.name) ++ "]\n\n" ++
    "Options:\n" ++
    "      --config <PATH>               Sets the configuration file\n" ++
    "      --interval-us <MICROSECONDS>  Sets the preemption quantum\n" ++
    "  -h, --help                        Print help\n"

end UserThreads.Demo
