import SqlTidy.Toml.Error
import SqlTidy.Value

/-!
# TOML numbers, dates and times

Each scanner here recognises the longest text of its kind at the front, or nothing at all, so that
the kinds can be tried one after the other.
-/

namespace SqlTidy.Toml

def isDecDigit (c : Char) : Bool := '0' ≤ c && c ≤ '9'

def isOctDigit (c : Char) : Bool := '0' ≤ c && c ≤ '7'

def isBinDigit (c : Char) : Bool := c == '0' || c == '1'

def isHex (c : Char) : Bool := isDecDigit c || ('a' ≤ c && c ≤ 'f') || ('A' ≤ c && c ≤ 'F')

def digitOf (c : Char) : Nat :=
  if c ≤ '9' then c.toNat - 48 else if c ≤ 'F' then c.toNat - 55 else c.toNat - 87

def inBase (base : Nat) (digits : List Char) : Nat :=
  digits.foldl (fun n c => base * n + digitOf c) 0

/-- Digits with single underscores between them, after a first digit. -/
def moreDigits (digit : Char → Bool) : List Char → List Char × List Char
  | '_' :: c :: rest =>
    if digit c then
      let (digits, after) := moreDigits digit rest
      (c :: digits, after)
    else ([], '_' :: c :: rest)
  | c :: rest =>
    if digit c then
      let (digits, after) := moreDigits digit rest
      (c :: digits, after)
    else ([], c :: rest)
  | [] => ([], [])

/-- A run of digits with single underscores between them. -/
def digits? (digit : Char → Bool) : List Char → Option (List Char × List Char)
  | c :: rest =>
    if digit c then
      let (digits, after) := moreDigits digit rest
      some (c :: digits, after)
    else none
  | [] => none

/-- A number in base 16, 8 or 2. -/
def radixInt? : List Char → Option (Int × List Char)
  | '0' :: 'x' :: rest => (digits? isHex rest).map fun (ds, after) => (inBase 16 ds, after)
  | '0' :: 'o' :: rest => (digits? isOctDigit rest).map fun (ds, after) => (inBase 8 ds, after)
  | '0' :: 'b' :: rest => (digits? isBinDigit rest).map fun (ds, after) => (inBase 2 ds, after)
  | _ => none

/-- The whole part of a decimal number: a single zero, or digits that do not start with one. -/
def wholePart? : List Char → Option (List Char × List Char)
  | '0' :: rest => some (['0'], rest)
  | cs => digits? isDecDigit cs

/-- The digits after a point, if there are any. -/
def fractionPart : List Char → List Char × List Char
  | '.' :: rest => (digits? isDecDigit rest).getD ([], '.' :: rest)
  | cs => ([], cs)

def signOf : List Char → Bool × List Char
  | '+' :: rest => (false, rest)
  | '-' :: rest => (true, rest)
  | cs => (false, cs)

/-- An exponent, if there is one. -/
def exponentPart? : List Char → Option (Int × List Char)
  | c :: rest =>
    if c = 'e' ∨ c = 'E' then
      let (negative, rest) := signOf rest
      (digits? isDecDigit rest).map fun (ds, after) =>
        (if negative then -(inBase 10 ds : Int) else inBase 10 ds, after)
    else none
  | [] => none

/-- A decimal number: whole, or with a fraction or an exponent. -/
def decimal? (cs : List Char) : Option (Except DigitLimitExceeded Value × List Char) := do
  let (negative, cs) := signOf cs
  let (whole, cs) ← wholePart? cs
  let (fraction, cs) := fractionPart cs
  match exponentPart? cs, fraction with
  | none, [] =>
    let value : Except DigitLimitExceeded Value :=
      if digitLimit < whole.length then .error (.reading whole.length)
      else .ok (.int (if negative then -(inBase 10 whole : Int) else inBase 10 whole))
    return (value, cs)
  | none, fraction =>
    return (.ok (.float (.ofDecimal negative (inBase 10 (whole ++ fraction)) (-(fraction.length : Int)))), cs)
  | some (exponent, after), fraction =>
    return (.ok (.float (.ofDecimal negative (inBase 10 (whole ++ fraction)) (exponent - fraction.length))),
      after)

def number? (cs : List Char) : Option (Except DigitLimitExceeded Value × List Char) :=
  match radixInt? cs with
  | some (n, after) => some (.ok (.int n), after)
  | none => decimal? cs

/-- The words for numbers that are not finite. -/
def specialFloat? : List Char → Option (Double × List Char)
  | 'i' :: 'n' :: 'f' :: rest => some (.infinity false, rest)
  | '+' :: 'i' :: 'n' :: 'f' :: rest => some (.infinity false, rest)
  | '-' :: 'i' :: 'n' :: 'f' :: rest => some (.infinity true, rest)
  | 'n' :: 'a' :: 'n' :: rest => some (.nan false, rest)
  | '+' :: 'n' :: 'a' :: 'n' :: rest => some (.nan false, rest)
  | '-' :: 'n' :: 'a' :: 'n' :: rest => some (.nan true, rest)
  | _ => none

/-- A number of exactly two digits from `lo` to `hi`. -/
def twoDigits? (lo hi : Nat) : List Char → Option (Nat × List Char)
  | a :: b :: rest =>
    if isDecDigit a && isDecDigit b then
      let n := 10 * digitOf a + digitOf b
      if lo ≤ n ∧ n ≤ hi then some (n, rest) else none
    else none
  | _ => none

def expect? (c : Char) : List Char → Option (List Char)
  | d :: rest => if c = d then some rest else none
  | [] => none

/-- The first six digits of a fraction of a second as microseconds. -/
def microseconds (digits : List Char) : Nat :=
  let six := digits.take 6
  inBase 10 six * 10 ^ (6 - six.length)

def timeOfDay? (cs : List Char) : Option (TimeOfDay × List Char) := do
  let (hour, cs) ← twoDigits? 0 23 cs
  let cs ← expect? ':' cs
  let (minute, cs) ← twoDigits? 0 59 cs
  let cs ← expect? ':' cs
  let (second, cs) ← twoDigits? 0 59 cs
  match cs with
  | '.' :: rest =>
    let fraction := rest.takeWhile isDecDigit
    if fraction.isEmpty then return (⟨hour, minute, second, 0⟩, cs)
    else return (⟨hour, minute, second, microseconds fraction⟩, rest.dropWhile isDecDigit)
  | _ => return (⟨hour, minute, second, 0⟩, cs)

/-- An offset from universal time in minutes. -/
def offset? : List Char → Option (Int × List Char)
  | 'Z' :: rest => some (0, rest)
  | 'z' :: rest => some (0, rest)
  | sign :: rest =>
    if sign = '+' ∨ sign = '-' then do
      let (hours, rest) ← twoDigits? 0 23 rest
      let rest ← expect? ':' rest
      let (minutes, rest) ← twoDigits? 0 59 rest
      let total : Int := 60 * hours + minutes
      return (if sign = '-' then -total else total, rest)
    else none
  | [] => none

def date? (cs : List Char) : Option (Date × List Char) := do
  let (century, cs) ← twoDigits? 0 99 cs
  let (year, cs) ← twoDigits? 0 99 cs
  let cs ← expect? '-' cs
  let (month, cs) ← twoDigits? 1 12 cs
  let cs ← expect? '-' cs
  let (day, cs) ← twoDigits? 1 31 cs
  return (⟨100 * century + year, month, day⟩, cs)

/-- A date, with a time and an offset behind it if they are there. -/
def dateOrMoment? (cs : List Char) : Option (Date × Value × List Char) := do
  let (date, cs) ← date? cs
  let time? :=
    match cs with
    | c :: rest => if c = 'T' ∨ c = 't' ∨ c = ' ' then timeOfDay? rest else none
    | [] => none
  match time? with
  | none => return (date, .date date, cs)
  | some (time, cs) =>
    match offset? cs with
    | some (minutes, cs) => return (date, .moment ⟨date, time, some minutes⟩, cs)
    | none => return (date, .moment ⟨date, time, none⟩, cs)

/-- A date, a time or a number. -/
def scalar (cs : List Char) : Except Stop (Value × List Char) :=
  match dateOrMoment? cs with
  | some (date, v, after) => if date.IsValid then .ok (v, after) else .error (.flaw .badDate cs)
  | none =>
    match timeOfDay? cs with
    | some (time, after) => .ok (.time time, after)
    | none =>
      match number? cs with
      | some (.ok v, after) => .ok (v, after)
      | some (.error limit, _) => .error (.tooLong limit)
      | none =>
        match specialFloat? cs with
        | some (x, after) => .ok (.float x, after)
        | none => .error (.flaw .invalidValue cs)

end SqlTidy.Toml
