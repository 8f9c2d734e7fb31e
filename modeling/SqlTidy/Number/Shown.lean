import SqlTidy.Number.Double

/-!
# Doubles in print

A finite double is a quotient of whole numbers, so each digit of it is known. It is shown with a fixed
number of decimal places, with one digit before the point and an exponent, by whichever of these is
shorter, or in hexadecimal. What has to be left out is rounded to the nearest, a tie to the even one.
-/

namespace SqlTidy.Double

/-- The magnitude of a finite double as a quotient. -/
def ratio (x : Double) : Nat × Nat :=
  if 0 ≤ x.exponent then (x.mantissa * 2 ^ x.exponent.toNat, 1) else (x.mantissa, 2 ^ (-x.exponent).toNat)

/-- A digit string with a point before the last `places` digits; a point without places stays if asked. -/
def withPoint (places : Nat) (keepsPoint : Bool) (digits : List Char) : List Char :=
  let digits := List.replicate (places + 1 - digits.length) '0' ++ digits
  let whole := digits.take (digits.length - places)
  if places = 0 then whole ++ (if keepsPoint then ['.'] else [])
  else whole ++ '.' :: digits.drop (digits.length - places)

/-- A magnitude with a fixed number of places. -/
def fixedText (places : Nat) (keepsPoint : Bool) (x : Double) : List Char :=
  let (num, den) := x.ratio
  withPoint places keepsPoint (Nat.toDigits 10 (roundDiv (num * 10 ^ places) den))

/-- The quotient scaled by a power of ten, rounded. -/
def scaledRound (num den : Nat) (power : Int) : Nat :=
  if 0 ≤ power then roundDiv (num * 10 ^ power.toNat) den else roundDiv num (den * 10 ^ (-power).toNat)

/-- The power of ten that a positive quotient starts with, looked for from an estimate downwards. The
first argument bounds the steps. -/
def leadingPower (num den : Nat) : Nat → Int → Int
  | 0, e => e
  | steps + 1, e =>
    let isEnough := if 0 ≤ e then den * 10 ^ e.toNat ≤ num else den ≤ num * 10 ^ (-e).toNat
    if isEnough then e else leadingPower num den steps (e - 1)

/-- The digits of a magnitude, so many of them, and the power of ten of the first. -/
def leadingDigits (count : Nat) (x : Double) : List Char × Int :=
  let (num, den) := x.ratio
  if num = 0 then (List.replicate count '0', 0)
  else
    let estimate : Int := ((Nat.toDigits 10 num).length : Int) - (Nat.toDigits 10 den).length + 1
    let e := leadingPower num den 4 estimate
    let n := scaledRound num den (count - 1 - e)
    if 10 ^ count ≤ n then (Nat.toDigits 10 (n / 10), e + 1) else (Nat.toDigits 10 n, e)

/-- An exponent of at least two digits. -/
def exponentText (mark : Char) (width : Nat) (e : Int) : List Char :=
  let digits := Nat.toDigits 10 e.natAbs
  mark :: (if e < 0 then '-' else '+') :: (List.replicate (width - digits.length) '0' ++ digits)

/-- Digits with a point behind the first one. -/
def firstPoint (keepsPoint : Bool) : List Char → List Char
  | [] => []
  | [d] => if keepsPoint then [d, '.'] else [d]
  | d :: rest => d :: '.' :: rest

/-- A magnitude with one digit before the point. -/
def scientificText (places : Nat) (keepsPoint : Bool) (x : Double) : List Char :=
  let (digits, e) := x.leadingDigits (places + 1)
  firstPoint keepsPoint digits ++ exponentText 'e' 2 e

/-- Leaves out zeros at the end of digits. -/
def dropZeros (digits : List Char) : List Char := (digits.reverse.dropWhile (· == '0')).reverse

/-- A magnitude with so many digits that count, with an exponent only if it is far from one. -/
def shorterText (count : Nat) (keepsZeros : Bool) (x : Double) : List Char :=
  let count := max count 1
  let (digits, e) := x.leadingDigits count
  if -4 ≤ e ∧ e < count then
    let text := x.fixedText ((count : Int) - 1 - e).toNat keepsZeros
    if keepsZeros ∨ !text.contains '.' then text
    else (dropZeros text).reverse.dropWhile (· == '.') |>.reverse
  else
    let digits := if keepsZeros then digits else (digits.take 1 ++ dropZeros (digits.drop 1))
    firstPoint keepsZeros digits ++ exponentText 'e' 2 e

/-- A magnitude in hexadecimal, with the fewest places unless their number is given. -/
def hexadecimalText (places : Option Nat) (keepsPoint : Bool) (x : Double) : List Char :=
  let (lead, e) : Nat × Int :=
    if x.mantissa = 0 then (0, 0)
    else if x.storedExponent = 0 then (0, -1022)
    else (1, (x.storedExponent : Int) - 1023)
  let shown (lead : Nat) (digits : List Char) : List Char :=
    "0x".toList ++ firstPoint keepsPoint (Nat.toDigits 16 lead ++ digits) ++ exponentText 'p' 1 e
  let hex (width n : Nat) : List Char :=
    let digits := Nat.toDigits 16 n
    List.replicate (width - digits.length) '0' ++ digits
  match places with
  | none => shown lead (dropZeros (hex 13 x.fraction))
  | some p =>
    if 13 ≤ p then shown lead (hex 13 x.fraction ++ List.replicate (p - 13) '0')
    else
      let n := roundDiv (lead * 2 ^ 52 + x.fraction) (2 ^ (52 - 4 * p))
      shown (n / 16 ^ p) (if p = 0 then [] else hex p (n % 16 ^ p))

end SqlTidy.Double
