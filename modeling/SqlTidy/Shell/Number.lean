import SqlTidy.Number.Written
import SqlTidy.Shell.Script

/-!
# Whole numbers in scripts

Numbers have 64 bits. They are read from the start of a text, in decimal or as their first signs say:
`0x` for hexadecimal, `0` for octal.
-/

namespace SqlTidy.Shell

def isSpaceChar (c : Char) : Bool := c == ' ' || ('\t' ≤ c && c ≤ '\r')

/-- The value of a digit in the largest base. -/
def digitOf? (c : Char) : Option Nat :=
  if isNumeral c then some (c.toNat - 48)
  else if 'a' ≤ c ∧ c ≤ 'z' then some (c.toNat - 87)
  else if 'A' ≤ c ∧ c ≤ 'Z' then some (c.toNat - 55)
  else none

/-- Whether a character is a digit in a base. -/
def isDigitIn (base : Nat) (c : Char) : Bool :=
  match digitOf? c with
  | some d => d < base
  | none => false

def greatest : Int := 2 ^ 63 - 1

def least : Int := -2 ^ 63

/-- A number taken from the start of a text. -/
structure Taken where
  value : Int
  rest : List Char
  /-- Whether there was a digit at all. -/
  isNumber : Bool

/-- The base that digits are in, and the digits without the sign for it. -/
def baseOf (cs : List Char) : Nat × List Char :=
  match cs with
  | '0' :: x :: d :: rest =>
    if (x = 'x' ∨ x = 'X') ∧ isDigitIn 16 d then (16, d :: rest) else (8, cs)
  | '0' :: _ => (8, cs)
  | _ => (10, cs)

/-- Takes a number from the start of a text, in decimal or in any base. -/
def takeInteger (anyBase : Bool) (text : List Char) : Taken :=
  let (isNegative, cs) := splitSign (text.dropWhile isSpaceChar)
  let (base, cs) := if anyBase then baseOf cs else (10, cs)
  let digits := cs.takeWhile (isDigitIn base)
  if digits.isEmpty then ⟨0, text, false⟩
  else
    let n := digitsValue base (digits.map fun c => (digitOf? c).getD 0)
    ⟨signed isNegative n, cs.drop digits.length, true⟩

/-- The number nearest to `n` that has 64 bits. -/
def clamped (n : Int) : Int := max least (min greatest n)

/-- A number modulo 2 to the 64, between the least and the greatest number. -/
def wrapped (n : Int) : Int := Int.bmod n (2 ^ 64)

/-- The number that all of a text is, blanks around it apart. A text in any base may be blank. -/
def wholeNumber? (anyBase : Bool) (text : List Char) : Option Int :=
  let t := takeInteger anyBase text
  if t.value < least ∨ greatest < t.value ∨ (!anyBase ∧ !t.isNumber) then none
  else if t.rest.all isSpaceChar then some t.value
  else none

/-- The greatest argument of a command of the shell. -/
def greatestCount : Int := 2 ^ 31 - 1

/-- A count that a command of the shell is given. -/
def count? (text : List Char) : Option Nat := do
  let n ← wholeNumber? false text
  if n < 0 ∨ greatestCount < n then none else return n.toNat

def decimalText (n : Int) : List Char := (toString n).toList

end SqlTidy.Shell
