import SqlTidy.Number.Limit
import SqlTidy.Text.Blank
import SqlTidy.Text.Digit

/-!
# Numbers as they are written

A whole number may have a sign in front, blanks around it and single underscores between its digits.
Digits of any script count in decimal numbers.
-/

namespace SqlTidy

/-- The digits of a number, between which single underscores may stand. -/
def groupedDigits? (value : Char → Option Nat) : List Char → Option (List Nat)
  | [] => none
  | [c] => (value c).map fun d => [d]
  | c :: '_' :: rest => do return (← value c) :: (← groupedDigits? value rest)
  | c :: rest => do return (← value c) :: (← groupedDigits? value rest)

/-- A number without its sign, and whether it is negative. -/
def splitSign : List Char → Bool × List Char
  | '-' :: rest => (true, rest)
  | '+' :: rest => (false, rest)
  | cs => (false, cs)

/-- The number that digits write in a base. -/
def digitsValue (base : Nat) (digits : List Nat) : Nat := digits.foldl (fun n d => base * n + d) 0

def signed (isNegative : Bool) (n : Nat) : Int := if isNegative then -(n : Int) else n

/-- Digits up to 7. -/
def octalDigit? (c : Char) : Option Nat :=
  if '0' ≤ c ∧ c ≤ '7' then some (c.toNat - 48) else none

/-- An octal number, perhaps with the mark of octal numbers in front. -/
def octalNumber? (cs : List Char) : Option Int := do
  let (isNegative, cs) := splitSign cs
  let digits :=
    match cs with
    | '0' :: mark :: rest =>
      if mark = 'o' ∨ mark = 'O' then
        match rest with
        | '_' :: rest => rest
        | rest => rest
      else cs
    | cs => cs
  return signed isNegative (digitsValue 8 (← groupedDigits? octalDigit? digits))

/-- Why a text is no decimal number. -/
inductive NumberFlaw where
  | malformed
  | tooLong (limit : DigitLimitExceeded)
deriving DecidableEq, Repr

/-- Blanks around a number: a text of ASCII characters only has fewer of them. -/
def isNumberBlank (cs : List Char) (c : Char) : Bool :=
  if cs.all fun c => c.toNat < 128 then c == ' ' || ('\t' ≤ c && c ≤ '\r') else isBlank c

/-- A decimal number. -/
def decimalNumber (text : List Char) : Except NumberFlaw Int :=
  let blank := isNumberBlank text
  let (isNegative, cs) := splitSign ((text.dropWhile blank).reverse.dropWhile blank).reverse
  match groupedDigits? digitValue? cs with
  | none => .error .malformed
  | some digits =>
    if digitLimit < digits.length then .error (.tooLong (.reading digits.length))
    else .ok (signed isNegative (digitsValue 10 digits))

end SqlTidy
