import SqlTidy.Field.Readers
import SqlTidy.Report.Basic

/-!
# Findings and filters from tables
-/

namespace SqlTidy

/-- The span of a finding has to be in order, which is looked at once all its fields are there. -/
def Finding.ofTable (t : Table) : Checked Finding := do
  let parts ←
    Checked.app (Checked.app (Checked.app (Checked.app (Checked.app (Checked.app
      (.ok fun line start stop severity message code => (line, start, stop, severity, message, code))
      (requiredField t "line_index" (.ofFault readNat)))
      (requiredField t "start_column" (.ofFault readNat)))
      (requiredField t "end_column" (.ofFault readNat)))
      (requiredField t "severity" (.ofFault readSeverity)))
      (requiredField t "message" (.ofFault readText)))
      (requiredField t "code" (.ofFault readText))
  let (line, start, stop, severity, message, code) := parts
  if h : start ≤ stop then .ok ⟨line, start, stop, severity, message, code, h⟩
  else .error [⟨[], .refused "start_column must not exceed end_column"⟩]

def FilterPolicy.ofTable (t : Table) : Checked FilterPolicy :=
  Checked.app (.ok FilterPolicy.mk) (field t "categories" readSwitches [])

end SqlTidy
