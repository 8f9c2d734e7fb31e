import SqlTidy.Number.Limit

/-!
# Findings

A finding is one remark of the formatter's checking mode: a span of columns on one line, how serious
it is, what it says, and the code of its category. Positions count from zero here and from one in
the report. `Finding.render` writes the report's line of a finding.
-/

namespace SqlTidy

inductive Severity where
  | error
  | warning
  | info
deriving DecidableEq, Repr

namespace Severity

def name : Severity → String
  | .error => "error"
  | .warning => "warning"
  | .info => "info"

def all : List Severity := [.error, .warning, .info]

def ofName? (s : String) : Option Severity := all.find? (·.name == s)

end Severity

structure Finding where
  line : Nat
  start : Nat
  stop : Nat
  severity : Severity
  message : String
  code : String
  start_le_stop : start ≤ stop
deriving DecidableEq, Repr

/-- The report's line of a finding, positions counted from one. -/
def Finding.render (f : Finding) : Except DigitLimitExceeded String := do
  let line ← decimalText (f.line + 1)
  let start ← decimalText (f.start + 1)
  let stop ← decimalText (f.stop + 1)
  return line ++ ":" ++ start ++ ":" ++ stop ++ ": " ++ f.severity.name ++ ": " ++ f.message ++
    " [" ++ f.code ++ "]"

end SqlTidy
