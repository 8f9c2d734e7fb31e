import SqlTidy.Process.Invoke

/-!
# Building the formatter

The formatter is built from its sources by cargo, run in the project's directory.
-/

namespace SqlTidy

/-- Why a build fails: cargo could not be started, or it ended with an exit code other than 0. -/
inductive BuildError where
  | notStarted (cargo : String) (error : IoError)
  | failed (stderr : String) (exitCode : Int)
  | reported (text : String)
deriving DecidableEq, Repr

namespace BuildError

def message : BuildError → String
  | .notStarted cargo error => "Unable to start " ++ cargo ++ ": " ++ error.message
  | .failed stderr exitCode => orElse stderr ("cargo build exited with code " ++ toString exitCode)
  | .reported text => text

def exitCode : BuildError → Option Int
  | .failed _ exitCode => some exitCode
  | _ => none

end BuildError

/-- Why a build ends without success. -/
inductive BuildFailure where
  | failed (error : BuildError)
  | crash (crash : Crash)
deriving DecidableEq, Repr

/-- The name of cargo on a platform, unless another is given. -/
def cargoName (onWindows : Bool) (given : Option String) : String :=
  (given.filter (· ≠ "")).getD (if onWindows then "cargo.exe" else "cargo")

/-- The arguments of a build. -/
def buildArguments : List String := ["build", "--release"]

/-- What is needed for a build. -/
structure Builder where
  programs : Programs
  environment : Entries String
  cargo : String := "cargo"

/-- Builds a project in its directory; only what cargo writes as errors is kept. -/
def Builder.build (b : Builder) (project : Path) (t : FileTree) :
    Except BuildFailure Unit × FileTree :=
  let launch : Launch := ⟨b.programs, some project, b.environment⟩
  match launch.run b.cargo buildArguments [] t with
  | .error (.directory cause) => (.error (.failed (.notStarted b.cargo ⟨cause, some project.text⟩)), t)
  | .error (.program cause) => (.error (.failed (.notStarted b.cargo ⟨cause, some b.cargo⟩)), t)
  | .error (.crash crash) => (.error (.crash crash), t)
  | .ok ended =>
    if ended.exitCode = 0 then (.ok (), ended.tree)
    else (.error (.failed (.failed (outputText ended.stderr) ended.exitCode)), ended.tree)

end SqlTidy
