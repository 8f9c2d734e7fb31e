import SqlTidy.Report.Line
import SqlTidy.Text.Lines

/-!
# Reports

A report is the text that the formatter's checking mode prints. `parseReport` collects the findings
of its lines and passes over every other line. A `FilterPolicy` switches categories of findings on
and off by their code; a code that it does not mention is on.
-/

namespace SqlTidy

/-- The findings of a report, in its order. -/
def parseReport (text : String) : List Finding :=
  (lines text.toList).filterMap fun line => Finding.ofLine? (stripChars line)

/-- Which categories are reported, by code. -/
structure FilterPolicy where
  categories : List (String × Bool)
deriving DecidableEq, Repr

namespace FilterPolicy

/-- A code is reported unless it is switched off. -/
def isEnabled (p : FilterPolicy) (code : String) : Bool := (p.categories.lookup code).getD true

/-- The findings whose category is reported. -/
def apply (p : FilterPolicy) (findings : List Finding) : List Finding :=
  findings.filter fun f => p.isEnabled f.code

end FilterPolicy

end SqlTidy
