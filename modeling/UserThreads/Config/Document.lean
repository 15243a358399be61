import UserThreads.Config
import UserThreads.Yaml.Document

/-!
Settings from a YAML document and from environment variables.

Each option may be given by an environment variable, else by the document's
section for this library; else it keeps its standard value.
-/

namespace UserThreads

/-- The texts of environment variables; one that is unset, or is no text, has
none. -/
abbrev Environment := String → Option String

namespace Config

def sectionName : String := "uthread"

/-- The options, in the order in which they are looked up. -/
inductive Key
  | timerInterval
  | stackSize
  | maxThreads
  | preemption
  deriving DecidableEq, Repr

namespace Key

/-- The key of an option in its section. -/
def text : Key → String
  | timerInterval => "timer_interval_us"
  | stackSize => "stack_size"
  | maxThreads => "max_threads"
  | preemption => "preemption"

/-- The environment variable of an option: its key in upper case. -/
def environmentName : Key → String
  | timerInterval => "TIMER_INTERVAL_US"
  | stackSize => "STACK_SIZE"
  | maxThreads => "MAX_THREADS"
  | preemption => "PREEMPTION"

end Key

/-- The value of an option of one type, if it is given anywhere. What an
environment variable says is read by `ofText`; only if it is unset the section
is looked at, by `ofNode`. A bad node counts as none. -/
def find {α : Type} (environment : Environment) (options : Yaml.Node) (key : Key)
    (ofText : String → Option α) (ofNode : Yaml.Node → Option α) :
    Except Failure (Option α) :=
  match environment key.environmentName with
  | some text =>
      match ofText text with
      | some value => .ok (some value)
      | none => .error ⟨Failure.invalid, .variableType key.environmentName⟩
  | none =>
      match options.get key.text with
      | .bad => .ok none
      | node =>
          match ofNode node with
          | some value => .ok (some value)
          | none => .error ⟨Failure.invalid, .optionType key.text⟩

def integerOfText (text : String) : Option Int64 := Yaml.Number.int64? 10 text.toList

def integerOfNode : Yaml.Node → Option Int64
  | .integer value => some value
  | _ => none

def booleanOfText : String → Option Bool
  | "true" => some true
  | "false" => some false
  | _ => none

def booleanOfNode : Yaml.Node → Option Bool
  | .boolean value => some value
  | _ => none

/-- The value of an integer option, which must not be negative and must be below
`bound`. -/
def findNatural (environment : Environment) (options : Yaml.Node) (key : Key) (bound : Nat) :
    Except Failure (Option Nat) :=
  match find environment options key integerOfText integerOfNode with
  | .error failure => .error failure
  | .ok none => .ok none
  | .ok (some value) =>
      if 0 ≤ value.toInt ∧ value.toInt < bound then .ok (some value.toInt.toNat)
      else .error ⟨Failure.outOfRange, .optionRange key.text value.toInt⟩

def ofSection (environment : Environment) (options : Yaml.Node) : Except Failure Config := do
  let micros ← findNatural environment options .timerInterval UInt64.size
  let stackSize ← findNatural environment options .stackSize UInt64.size
  let maxThreads ← findNatural environment options .maxThreads UInt32.size
  let preemption ← find environment options .preemption booleanOfText booleanOfNode
  let config : Config := {
    timerInterval :=
      (micros.map fun micros => Duration.ofMicros (.ofNat micros)).getD standard.timerInterval
    stackSize := (stackSize.map UInt64.ofNat).getD standard.stackSize
    maxThreads := (maxThreads.map UInt32.ofNat).getD standard.maxThreads
    preemption := preemption.getD standard.preemption }
  config.validate
  return config

/-- The settings that the documents of a stream give, if it has any: there must
be one, with a section for this library. -/
def ofDocuments (environment : Environment) (documents : Option (List Yaml.Node)) :
    Except Failure Config :=
  match documents with
  | none => .error ⟨Failure.invalid, .malformedDocument⟩
  | some [document] =>
      match document.get sectionName with
      | .mapping entries => ofSection environment (.mapping entries)
      | .bad => .error ⟨Failure.invalid, .missingSection sectionName⟩
      | _ => .error ⟨Failure.invalid, .sectionType sectionName⟩
  | some documents => .error ⟨Failure.invalid, .documentCount documents.length⟩

def ofText (environment : Environment) (text : String) : Except Failure Config :=
  ofDocuments environment (Yaml.documents text)

/-- What reading settings logs: a failure of the final check as that check does,
any other as one of the document, and nothing for a value that is out of range
or a document that cannot be read at all. -/
def readingLog (result : Except Failure Config) : List LogEvent :=
  match result with
  | .ok _ => []
  | .error failure =>
      match failure.cause with
      | .zeroInterval | .stackTooSmall .. | .zeroMaxThreads => [.configRefused failure.cause]
      | .optionRange .. | .system _ | .input _ => []
      | _ => [.documentRefused failure.cause]

end Config

end UserThreads
