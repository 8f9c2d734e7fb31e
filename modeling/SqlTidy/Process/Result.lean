import SqlTidy.Field.Readers

/-!
# Results of a run

A run of the formatter ends with an exit code and leaves two texts. What the code means depends on the
mode: formatting has to end with 0, checking may also end with 1, which says that there are findings.
-/

namespace SqlTidy

structure RunResult where
  exitCode : Int
  stdout : String
  stderr : String
deriving DecidableEq, Repr

def RunResult.ofTable (t : Table) : Checked RunResult :=
  Checked.app (Checked.app (Checked.app (.ok RunResult.mk)
    (requiredField t "exit_code" (.ofFault readInt)))
    (field t "stdout" (.ofFault readText) ""))
    (field t "stderr" (.ofFault readText) "")

inductive Mode where
  | format
  | check
deriving DecidableEq, Repr

/-- A run that did not keep to its mode. -/
structure ProtocolError where
  detail : String
  exitCode : Int
deriving DecidableEq, Repr

/-- The first text if it says something, else the second. -/
def orElse (s t : String) : String := if s = "" then t else s

namespace RunResult

/-- What a failed run says about itself. -/
def failureDetail (tool : String) (r : RunResult) : String :=
  orElse (orElse r.stderr r.stdout) (tool ++ " exited with code " ++ toString r.exitCode)

/-- The text that a run was made for. -/
def interpret (tool : String) (mode : Mode) (r : RunResult) : Except ProtocolError String :=
  match mode with
  | .format =>
    if r.exitCode = 0 then .ok r.stdout else .error ⟨r.failureDetail tool, r.exitCode⟩
  | .check =>
    if r.exitCode = 0 ∨ r.exitCode = 1 then .ok (orElse r.stderr r.stdout)
    else .error ⟨r.failureDetail tool, r.exitCode⟩

end RunResult

end SqlTidy
