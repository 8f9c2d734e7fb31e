import SqlTidy.Tools.Work

/-!
# Copying files to the output

Files are copied one after the other as if they were one. On the way lines can be numbered, their ends
marked, repeated empty lines dropped, and characters that cannot be shown written out.
-/

namespace SqlTidy.Tools

open Shell

/-- What is to be done to the text. -/
structure Layout where
  numbersAll : Bool
  numbersFilled : Bool
  squeezes : Bool
  showsEnds : Bool
  showsTabs : Bool
  showsHidden : Bool

def Layout.isPlain (l : Layout) : Bool :=
  !(l.numbersAll || l.numbersFilled || l.squeezes || l.showsEnds || l.showsTabs || l.showsHidden)

/-- Where the copying stands. -/
structure Cursor where
  /-- The number of the last line that got one. -/
  line : Nat := 0
  /-- The number of ends of lines just before; none inside a line. -/
  ends : Option Nat := some 0
  /-- Whether the last character was a carriage return that is still to be written. -/
  isReturnDue : Bool := false

/-- The number of a line as it is written before it. -/
def lineLabel (n : Nat) : List Char :=
  let digits := Nat.toDigits 10 n
  List.replicate (6 - digits.length) ' ' ++ digits ++ ['\t']

/-- A character that might not be shown, written out. -/
def spelled (c : Char) : List Char :=
  let below (n : Nat) : List Char :=
    if n < 32 then ['^', Char.ofNat (n + 64)] else if n = 127 then ['^', '?'] else [Char.ofNat n]
  if c.toNat < 128 then below c.toNat else ['M', '-'] ++ below (c.toNat - 128)

namespace Layout

/-- What is written for the end of a line. -/
def newline (l : Layout) (cursor : Cursor) : List Char × Cursor :=
  let ending : List Char :=
    (if cursor.isReturnDue then "^M".toList else []) ++ (if l.showsEnds then ['$'] else []) ++ ['\n']
  match cursor.ends with
  | none => (ending, { cursor with ends := some 0, isReturnDue := false })
  | some before =>
    let before := min (before + 1) 2
    if before = 2 ∧ l.squeezes then ([], { cursor with ends := some before })
    else if l.numbersAll && !l.numbersFilled then
      (lineLabel (cursor.line + 1) ++ ending, ⟨cursor.line + 1, some before, false⟩)
    else (ending, ⟨cursor.line, some before, false⟩)

/-- What is written for a character inside a line. -/
def character (l : Layout) (cursor : Cursor) (c : Char) : List Char × Cursor :=
  let due : List Char := if cursor.isReturnDue then ['\r'] else []
  let isLabelled := cursor.ends.isSome && (l.numbersAll || l.numbersFilled)
  let line := if isLabelled then cursor.line + 1 else cursor.line
  let label := if isLabelled then lineLabel line else []
  if c = '\r' ∧ l.showsEnds ∧ !l.showsHidden then (due ++ label, ⟨line, none, true⟩)
  else
    let text :=
      if c = '\t' then (if l.showsTabs then "^I".toList else [c])
      else if l.showsHidden then spelled c
      else [c]
    (due ++ label ++ text, ⟨line, none, false⟩)

/-- Writes text, from a cursor on. -/
def apply (l : Layout) (cursor : Cursor) (text : List Char) : List Char × Cursor :=
  let (written, cursor) := text.foldl
    (fun (written, cursor) c =>
      let (more, cursor) := if c = '\n' then l.newline cursor else l.character cursor c
      (more.reverse ++ written, cursor))
    (([] : List Char), cursor)
  (written.reverse, cursor)

end Layout

def catTable : OptionTable where
  letters := "benstuvAET".toList.map fun c => (c, .never)
  words := [("number-nonblank", .never, 'b'), ("number", .never, 'n'), ("squeeze-blank", .never, 's'),
    ("show-nonprinting", .never, 'v'), ("show-ends", .never, 'E'), ("show-tabs", .never, 'T'),
    ("show-all", .never, 'A'), ("help", .never, 'h'),
    ("version", .never, 'V')]

/-- The layout that options ask for. -/
def Layout.ofGiven (g : Given) : Layout where
  numbersAll := g.has 'n'
  numbersFilled := g.has 'b'
  squeezes := g.has 's'
  showsEnds := g.has 'E' || g.has 'e' || g.has 'A'
  showsTabs := g.has 'T' || g.has 't' || g.has 'A'
  showsHidden := g.has 'v' || g.has 'e' || g.has 't' || g.has 'A'

/-- Whether one open file is written to while the other is read, with something left to read. -/
def feedsItself (s : System) (reading writing : Nat) : Bool :=
  match s.file? reading, s.file? writing with
  | some ⟨.file p, place, _, _, _⟩, some ⟨.file q, _, _, _, _⟩ => p == q && place < (s.contentAt p).length
  | _, _ => false

/-- Copies from an open file. -/
def copyFrom (l : Layout) (name : List Char) (number : Nat) (w : Work) (cursor : Cursor) : Work × Cursor :=
  if feedsItself w.task.system number (w.task.fileOf 1) then
    (w.complain (shown name ++ ": input file is output file".toList), cursor)
  else
    match w.task.system.readable number with
    | .error cause => (w.refuse [] (shown name) cause, cursor)
    | .ok bs =>
      let w := { w with task := { w.task with system := w.task.system.consume number bs.length } }
      if l.isPlain then (w.put bs, cursor)
      else
        let (text, cursor) := l.apply cursor (ofOctets bs)
        (w.put (toOctets text), cursor)

/-- Copies one operand. -/
def copyOperand (l : Layout) (w : Work × Cursor) (operand : List Char) : Work × Cursor :=
  let (w, cursor) := w
  if operand = ['-'] then copyFrom l operand (w.task.fileOf 0) w cursor
  else
    match w.task.system.openPath w.task.descriptors (toText operand) .reading with
    | .error cause => (w.refuse [] (shown operand) cause, cursor)
    | .ok (system, number) => copyFrom l operand number { w with task := { w.task with system } } cursor

/-- Copies the operands, or the input if there are none. -/
def cat : Tool := toolWith catTable false fun g w =>
  if (w.task.system.file? (w.task.fileOf 1)).isNone then
    w.refuse [] "standard output".toList .badDescriptor
  else
    let operands := if g.operands.isEmpty then [['-']] else g.operands
    let (w, cursor) := operands.foldl (copyOperand (Layout.ofGiven g)) (w, {})
    let w := if cursor.isReturnDue then w.put [13] else w
    if operands.contains ['-'] && (w.task.system.file? (w.task.fileOf 0)).isNone then
      w.refuse [] "closing standard input".toList .badDescriptor
    else w

end SqlTidy.Tools
