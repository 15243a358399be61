import UserThreads.Config.Document

/-!
Settings from files.
-/

namespace UserThreads

inductive File
  | content (bytes : ByteArray)
  /-- The operating system refuses to read it, with an error number. -/
  | refused (number : Int)
  /-- The path holds a NUL and can be none. -/
  | nulInPath

namespace File

def missing : File := .refused 2

def directory : File := .refused 21

def read : File → Except Failure String
  | refused number => .error (.ofSystem number)
  | nulInPath => .error (.ofInput "file name contained an unexpected NUL byte")
  | content bytes =>
      match String.fromUTF8? bytes with
      | some text => .ok text
      | none => .error (.ofInput "stream did not contain valid UTF-8")

end File

namespace Config

def ofFile (environment : Environment) (file : File) : Except Failure Config := do
  ofText environment (← file.read)

def pathVariable : String := "UTHREAD_CONFIG_PATH"

/-- The settings of the default runtime: those of its file, if one is named. -/
def ofEnvironment (environment : Environment) (files : String → File) :
    Except Failure Config :=
  match environment pathVariable with
  | some path => ofFile environment (files path)
  | none => .ok .standard

end Config

end UserThreads
