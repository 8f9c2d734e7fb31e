import SqlTidy.Process.Find
import SqlTidy.Process.Result
import SqlTidy.Text.Lines

/-!
# Running the formatter

The formatter is started with a text as its input. Its output is read as text, octets that are none
replaced, and with one kind of line boundary.
-/

namespace SqlTidy

inductive SpawnReason where
  | notOnPath
  | refused (cause : Cause)
deriving DecidableEq, Repr

def SpawnReason.text : SpawnReason → String
  | .notOnPath => "executable was not found on PATH"
  | .refused cause => cause.text

/-- A program that could not be started. -/
structure SpawnError where
  executable : String
  reason : SpawnReason
deriving DecidableEq, Repr

def SpawnError.message (e : SpawnError) : String :=
  "Unable to start '" ++ e.executable ++ "': " ++ e.reason.text

/-- Why a run of a program yields no result. -/
inductive InvokeError where
  | spawn (error : SpawnError)
  | crash (crash : Crash)
deriving DecidableEq, Repr

/-- The text that a program has written. -/
def outputText (bs : Octets) : String :=
  String.ofList (unifyNewlines (utf8DecodeLenient bs).toList)

/-- How the formatter is run: where, and in which environment if not in the current one. -/
structure Invoker where
  programs : Programs
  current : Entries String
  directory : Option Path := none
  environment : Option (Entries String) := none

/-- The file that is started for an executable: an absolute path is taken as it is, anything else is
looked for along the search path of the current environment. -/
def Invoker.resolve (i : Invoker) (t : FileTree) (executable : String) : Option String :=
  let path := Path.ofText executable
  if path.isAbsolute then some path.text else findProgram t i.current executable

/-- Runs an executable on a text. -/
def Invoker.invoke (i : Invoker) (executable : String) (arguments : List String) (input : String)
    (t : FileTree) : Except InvokeError RunResult × FileTree :=
  let refused (cause : Cause) : InvokeError := .spawn ⟨executable, .refused cause⟩
  match i.resolve t executable with
  | none => (.error (.spawn ⟨executable, .notOnPath⟩), t)
  | some file =>
    let launch : Launch := ⟨i.programs, i.directory, i.environment.getD i.current⟩
    match launch.run file arguments (utf8Encode input) t with
    | .error (.directory cause) => (.error (refused cause), t)
    | .error (.program cause) => (.error (refused cause), t)
    | .error (.crash crash) => (.error (.crash crash), t)
    | .ok ended =>
      (.ok ⟨ended.exitCode, outputText ended.stdout, outputText ended.stderr⟩, ended.tree)

end SqlTidy
