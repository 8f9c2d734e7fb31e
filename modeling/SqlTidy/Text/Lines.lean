import SqlTidy.Text.Blank

/-!
# Lines

A text falls into lines at every line boundary: line feed, carriage return, the two together, the
tabulation and page marks, the information separators and the line marks of other scripts. A
boundary closes a line and opens none, so a text that ends in one has no empty last line.

Output that comes from another program is first brought to one kind of boundary (`unifyNewlines`).
-/

namespace SqlTidy

/-- The characters that end a line. -/
def isLineBoundary (c : Char) : Bool :=
  c == '\n' || c == '\r' || c == '\x0b' || c == '\x0c' || c == '\x1c' || c == '\x1d' ||
    c == '\x1e' || c == '\u0085' || c == '\u2028' || c == '\u2029'

/-- The lines of a text, the current one given by the characters read so far, last first. -/
def linesFrom : List Char → List Char → List (List Char)
  | [], [] => []
  | line, [] => [line.reverse]
  | line, '\r' :: '\n' :: rest => line.reverse :: linesFrom [] rest
  | line, c :: rest =>
    if isLineBoundary c then line.reverse :: linesFrom [] rest else linesFrom (c :: line) rest

/-- The lines of a text, without their boundaries. -/
def lines (cs : List Char) : List (List Char) := linesFrom [] cs

/-- Carriage returns, alone or before a line feed, become line feeds. -/
def unifyNewlines : List Char → List Char
  | [] => []
  | '\r' :: '\n' :: rest => '\n' :: unifyNewlines rest
  | '\r' :: rest => '\n' :: unifyNewlines rest
  | c :: rest => c :: unifyNewlines rest

end SqlTidy
