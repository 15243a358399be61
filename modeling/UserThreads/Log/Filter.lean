import UserThreads.Config.Document
import UserThreads.Text.Space

/-!
Which records a log keeps, as an environment variable says.

The variable's text is a list of rules between commas. A rule is a level, or the
name of a component, or both with an equals sign between them. A slash after the
rules is followed by a text that a kept record's message must contain.
-/

namespace UserThreads

/-- Keeps the records of the components whose names begin with `component`, down
to a level; without a level, none of them. -/
structure LogRule where
  component : String
  level : Option LogLevel
  deriving DecidableEq, Repr

namespace LogRule

/-- A level by its name in any case; `off` is none. -/
def level? (name : String) : Option (Option LogLevel) :=
  match name.toLower with
  | "off" => some none
  | "error" => some (some .error)
  | "warn" => some (some .warn)
  | "info" => some (some .info)
  | "debug" => some (some .debug)
  | "trace" => some (some .trace)
  | _ => none

def parse? (item : String) : Option LogRule :=
  match (item.splitOn "=").map Text.trim with
  | [single] =>
      if Text.hasSpace single then none
      else
        match level? single with
        | some level => some ⟨"", level⟩
        | none => some ⟨single, some .trace⟩
  | [component, name] =>
      if Text.hasSpace component then none
      else if name.isEmpty then some ⟨component, some .trace⟩
      else (level? name).map fun level => ⟨component, level⟩
  | _ => none

def concerns (rule : LogRule) (event : LogEvent) : Bool :=
  event.component.startsWith rule.component

def keeps (rule : LogRule) (event : LogEvent) : Bool :=
  match rule.level with
  | none => false
  | some kept => kept.admits event.level

end LogRule

/-- The rules of a log, those of the longest names first, and the text that a
message must contain. -/
structure LogFilter where
  rules : List LogRule
  wanted : String
  deriving DecidableEq, Repr

namespace LogFilter

/-- Warnings and errors of all components. -/
def standard : LogFilter := ⟨[⟨"", some .warn⟩], ""⟩

/-- Reads a list of rules. A single rule that cannot be read spoils them all. -/
def parse? (text : String) : Option LogFilter := do
  let (items, wanted) ←
    match text.splitOn "/" with
    | [items] => some (items, "")
    | [items, wanted] => some (items, wanted)
    | _ => none
  let items := ((items.splitOn ",").map Text.trim).filter fun item => !item.isEmpty
  let rules ← items.mapM LogRule.parse?
  return {
    rules := rules.mergeSort fun first second =>
      decide (second.component.utf8ByteSize ≤ first.component.utf8ByteSize)
    wanted }

def variableName : String := "RUST_LOG"

/-- The rules that the environment gives, if they can be read. -/
def ofEnvironment (environment : Environment) : LogFilter :=
  ((environment variableName).bind parse?).getD standard

/-- Whether a record is kept: the first rule about it decides. -/
def keeps (filter : LogFilter) (event : LogEvent) : Bool :=
  match filter.rules.find? fun rule => rule.concerns event with
  | none => false
  | some rule =>
      rule.keeps event &&
        (filter.wanted.isEmpty || 1 < (event.message.splitOn filter.wanted).length)

end LogFilter

def LogEvent.line (event : LogEvent) : String :=
  event.level.name ++ " [" ++ event.component ++ "] " ++ event.message

end UserThreads
