import UserThreads.Demo.CommandLine

/-!
The demonstration program as a command: it reads the environment and the file of
settings, and prints what the run leaves behind.
-/

namespace UserThreads.Demo

def variableNames : List String :=
  LogFilter.variableName ::
    [Config.Key.timerInterval, .stackSize, .maxThreads, .preemption].map Config.Key.environmentName

def readEnvironment : IO Environment := do
  let values ← variableNames.mapM fun name => do return (name, ← IO.getEnv name)
  return fun name => (values.lookup name).join

/-- The number under which the operating system reports an error. It may come
with either sign. -/
def errorNumber : IO.Error → Int
  | .noFileOrDirectory _ number _ | .permissionDenied _ number _ | .inappropriateType _ number _
  | .invalidArgument _ number _ | .noSuchThing _ number _ | .otherError number _ =>
      number.toInt32.toInt.natAbs
  | _ => Failure.ioError

def readFile (path : String) : IO File := do
  if path.toList.contains '\x00' then return .nulInPath
  try
    return .content (← IO.FS.readBinFile path)
  catch error =>
    return .refused (errorNumber error)

def readSettings : CommandLine → IO File
  | .run arguments =>
      match arguments.config with
      | some path => readFile path
      | none => return .missing
  | _ => return .missing

def abortedStatus : UInt32 := 134

end UserThreads.Demo

open UserThreads.Demo in
def main (words : List String) : IO UInt32 := do
  let file ← readSettings (CommandLine.read words)
  let report := call words (← readEnvironment) fun _ => file
  IO.print report.printed
  for line in report.log do IO.eprintln line
  for line in report.failureLine do IO.eprintln line
  if report.code == some 2 then IO.eprintln helpText
  return (report.code.map UInt8.toUInt32).getD abortedStatus
