import SqlTidy.Field.Readers

/-!
# Layout

The layout switches of the formatter and the arguments that carry them.
-/

namespace SqlTidy

structure Layout where
  lineWidth : Nat
  indent : Nat
  uppercaseKeywords : Bool
deriving DecidableEq, Repr

namespace Layout

/-- Reads a layout from a table; here a switch does not count as a number. -/
def ofTable (t : Table) : Checked Layout :=
  Checked.app (Checked.app (Checked.app (.ok Layout.mk)
    (field t "line_width" (.ofFault (readPositive readPlainInt)) 88))
    (field t "indent" (.ofFault (readBetween 2 4 readPlainInt)) 2))
    (field t "uppercase_keywords" (.ofFault readBool) true)

/-- The formatter's arguments for a layout. -/
def arguments (l : Layout) : Except DigitLimitExceeded (List String) := do
  let lineWidth ← decimalText l.lineWidth
  let indent ← decimalText l.indent
  return ["--line-width", lineWidth, "--indent", indent, "--uppercase-keywords",
    if l.uppercaseKeywords then "true" else "false"]

end Layout

end SqlTidy
