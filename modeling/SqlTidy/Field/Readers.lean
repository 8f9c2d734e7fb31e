import SqlTidy.Field
import SqlTidy.Path
import SqlTidy.Report.Finding

/-!
# Readers

How whole numbers, switches, texts, paths and switches by name are read from values.
-/

namespace SqlTidy

/-- White space proper, without the information separators. -/
def isSpace (c : Char) : Bool := isBlank c && !('\x1c' ≤ c && c ≤ '\x1f')

def trimSpace (cs : List Char) : List Char :=
  ((cs.dropWhile isSpace).reverse.dropWhile isSpace).reverse

/-- Drops zeros and underscores behind a zero, up to another digit, a minus sign or a point; a zero in
front of a point or of nothing stays. `before` holds the character before. -/
def dropZeros (before : Char) : List Char → Option (List Char)
  | [] => some [before]
  | '0' :: rest => dropZeros '0' rest
  | '_' :: rest => dropZeros '_' rest
  | '.' :: rest => some (before :: '.' :: rest)
  | c :: rest => if c = '-' ∨ ('1' ≤ c ∧ c ≤ '9') then some (c :: rest) else none

/-- Drops the zeros in front of a number. -/
def dropLeadingZeros : List Char → Option (List Char)
  | '0' :: rest => dropZeros '0' rest
  | c :: rest => if c = '-' ∨ ('1' ≤ c ∧ c ≤ '9') then some (c :: rest) else none
  | [] => none

/-- Drops a fraction that is all zeros. -/
def dropZeroFraction (cs : List Char) : List Char :=
  match cs.dropWhile (· != '.') with
  | '.' :: zeros => if zeros ≠ [] ∧ zeros.all (· == '0') then cs.takeWhile (· != '.') else cs
  | _ => cs

/-- Drops the underscores of a number, each of which has to stand between two other characters. -/
def dropUnderscores (before : Char) : List Char → Option (List Char)
  | [] => if before = '_' then none else some []
  | '_' :: rest => if before = '_' then none else dropUnderscores '_' rest
  | c :: rest => (dropUnderscores c rest).map (c :: ·)

/-- The characters of a whole number without what does not count: spaces around it, a plus sign,
zeros in front, a fraction of zeros, underscores between digits. -/
def bareInteger? (s : String) : Option (List Char) := do
  let digits ←
    match trimSpace s.toList with
    | '+' :: '-' :: _ => none
    | '+' :: rest => dropLeadingZeros rest
    | '-' :: rest => ('-' :: ·) <$> dropLeadingZeros rest
    | cs => dropLeadingZeros cs
  let whole := dropZeroFraction digits
  return (dropUnderscores '_' whole).getD whole

def isDecimal (cs : List Char) : Bool := cs.all fun c => '0' ≤ c && c ≤ '9'

def asciiDecimal (cs : List Char) : Nat := cs.foldl (fun n c => 10 * n + (c.toNat - 48)) 0

/-- A natural number without zeros in front. -/
def plainDecimal? : List Char → Option Nat
  | [] => none
  | ['0'] => some 0
  | '0' :: _ => none
  | cs => if isDecimal cs then some (asciiDecimal cs) else none

/-- The number of digits at the start of a text, none if the first one is a zero. -/
def leadingDigits : List Char → Nat
  | '0' :: _ => 0
  | cs => (cs.takeWhile fun c => '0' ≤ c && c ≤ '9').length

/-- How long the number at the start of a text is, with its sign. -/
def numberLength : List Char → Nat
  | '-' :: rest => leadingDigits rest + 1
  | cs => leadingDigits cs

/-- A whole number that is written plainly. A text that starts with too long a number is refused for
its size, whatever follows. -/
def plainInteger (cs : List Char) : Except Fault Int :=
  if digitLimit < numberLength cs then .error .intSize
  else
    match cs with
    | '-' :: digits => ((plainDecimal? digits).map fun n => -(n : Int)).elim (.error .intParsing) .ok
    | digits => ((plainDecimal? digits).map Int.ofNat).elim (.error .intParsing) .ok

/-- The whole number that a text writes, plainly or with parts that do not count. -/
def readIntText (s : String) : Except Fault Int :=
  match plainInteger s.toList, bareInteger? s with
  | .error .intParsing, some bare => plainInteger bare
  | result, _ => result

/-- The whole number that a double is, if it is one of 64 bits. -/
def readIntDouble (x : Double) : Except Fault Int :=
  if !x.isFinite then .error .notFinite
  else
    match x.toInt? with
    | none => .error .intFraction
    | some n => if -2 ^ 63 < n ∧ n < 2 ^ 63 then .ok n else .error .intSize

def readInt : Value → Except Fault Int
  | .int n => .ok n
  | .bool b => .ok (if b then 1 else 0)
  | .float x => readIntDouble x
  | .text s => readIntText s
  | _ => .error .intType

/-- As `readInt`, but a switch is no number. -/
def readPlainInt : Value → Except Fault Int
  | .bool _ => .error (.refused "expected an integer, not a boolean")
  | v => readInt v

def trueWords : List String := ["1", "on", "t", "true", "y", "yes"]

def falseWords : List String := ["0", "off", "f", "false", "n", "no"]

def boolOfInt (n : Int) : Except Fault Bool :=
  if n = 0 then .ok false else if n = 1 then .ok true else .error .boolParsing

def readBool : Value → Except Fault Bool
  | .bool b => .ok b
  | .int n => if -2 ^ 63 ≤ n ∧ n < 2 ^ 63 then boolOfInt n else .error .boolType
  | .float x =>
    match readIntDouble x with
    | .ok n => boolOfInt n
    | .error _ => .error .boolType
  | .text s =>
    let word := String.ofList (s.toList.map Char.toLower)
    if word ∈ trueWords then .ok true
    else if word ∈ falseWords then .ok false
    else .error .boolParsing
  | _ => .error .boolType

def readText : Value → Except Fault String
  | .text s => .ok s
  | _ => .error .textType

def readOptionalText : Value → Except Fault (Option String)
  | .null => .ok none
  | v => (readText v).map some

def readPath : Value → Except Fault Path
  | .text s => .ok (Path.ofText s)
  | _ => .error .pathType

def readOptionalPath : Value → Except Fault (Option Path)
  | .null => .ok none
  | v => (readPath v).map some

def readSeverity : Value → Except Fault Severity
  | .text s => (Severity.ofName? s).elim (.error .severityName) .ok
  | _ => .error .severityName

/-- A natural number. -/
def readNat (v : Value) : Except Fault Nat := do
  let n ← readInt v
  if 0 ≤ n then return n.toNat else .error (.below 0)

/-- A number above zero, taken by `read`. -/
def readPositive (read : Value → Except Fault Int) (v : Value) : Except Fault Nat := do
  let n ← read v
  if 0 < n then return n.toNat else .error (.notAbove 0)

/-- A number from `lo` to `hi`, taken by `read`. -/
def readBetween (lo hi : Nat) (read : Value → Except Fault Int) (v : Value) : Except Fault Nat := do
  let n ← read v
  if hi < n then .error (.above hi)
  else if n < lo then .error (.below lo)
  else return n.toNat

/-- Switches by name; each value that is no switch is reported under its name. -/
def readSwitches : Reader (Entries Bool)
  | .table entries =>
    entries.foldr
      (fun (name, v) rest =>
        ((Except.ok fun b bs => (name, b) :: bs : Checked (Bool → Entries Bool → Entries Bool)) |>
          fun f => Checked.app (Checked.app f (((readBool v).mapError fun e => [⟨[name], e⟩]))) rest))
      (.ok [])
  | _ => .error [⟨[], .tableType⟩]

end SqlTidy
