import SqlTidy.Report.Finding
import SqlTidy.Text.Blank
import SqlTidy.Text.Digit

/-!
# The line of a finding

`line:column:end: severity: message [code]`, where the positions are decimal numbers from one, any
blank may stand for a space, and the code is in the last pair of brackets that can hold it: the
message is the shortest one that leaves only a bracketed code behind it.
-/

namespace SqlTidy

/-- What follows a given text. -/
def dropText? (text cs : List Char) : Option (List Char) :=
  if text.isPrefixOf cs then some (cs.drop text.length) else none

/-- What follows one blank. -/
def dropBlank? : List Char → Option (List Char)
  | c :: rest => if isBlank c then some rest else none
  | [] => none

/-- A position from one and the colon after it. -/
def position? : List Char → Option (Nat × List Char)
  | c :: rest =>
    if '1' ≤ c ∧ c ≤ '9' then
      let digits := c :: rest.takeWhile isDigit
      match rest.dropWhile isDigit with
      | ':' :: after => if digits.length ≤ digitLimit then some (decimalValue digits, after) else none
      | _ => none
    else none
  | [] => none

/-- A severity and the colon after it. -/
def severity? (cs : List Char) : Option (Severity × List Char) :=
  Severity.all.findSome? fun s => (dropText? (s.name.toList ++ [':']) cs).map (s, ·)

/-- The code of a text that is nothing but a code in brackets. -/
def bracketed? : List Char → Option (List Char)
  | '[' :: rest =>
    match rest.reverse with
    | ']' :: code => if code ≠ [] ∧ ']' ∉ code then some code.reverse else none
    | _ => none
  | _ => none

/-- Splits off the bracketed code at the first place where one can start, given the message so far,
last character first. -/
def messageAndCode? : List Char → List Char → Option (List Char × List Char)
  | _, [] => none
  | message, c :: rest =>
    match if isBlank c && !message.isEmpty then bracketed? rest else none with
    | some code => some (message.reverse, code)
    | none => messageAndCode? (c :: message) rest

/-- The finding that a line writes. -/
def Finding.ofLine? (cs : List Char) : Option Finding := do
  let (line, cs) ← position? cs
  let (column, cs) ← position? cs
  let (last, cs) ← position? cs
  let cs ← dropBlank? cs
  let (severity, cs) ← severity? cs
  let cs ← dropBlank? cs
  let (message, code) ← messageAndCode? [] cs
  if h : column - 1 ≤ last - 1 then
    some ⟨line - 1, column - 1, last - 1, severity, String.ofList message, String.ofList code, h⟩
  else none

end SqlTidy
