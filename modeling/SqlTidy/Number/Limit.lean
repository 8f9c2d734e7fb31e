import SqlTidy.Number.Power

/-!
# Numbers as decimal text

Whole numbers are written and read in at most 4300 decimal digits. Beyond that a conversion fails,
so that no text can cost more than its length suggests.
-/

namespace SqlTidy

/-- The longest decimal text of a number. -/
def digitLimit : Nat := 4300

/-- A number too long for a conversion; reading says how long its text was. -/
inductive DigitLimitExceeded where
  | reading (digits : Nat)
  | writing
deriving DecidableEq, Repr

def DigitLimitExceeded.message : DigitLimitExceeded → String
  | .reading digits =>
    "Exceeds the limit (4300 digits) for integer string conversion: value has " ++ toString digits ++
      " digits; use sys.set_int_max_str_digits() to increase the limit"
  | .writing =>
    "Exceeds the limit (4300 digits) for integer string conversion; " ++
      "use sys.set_int_max_str_digits() to increase the limit"

/-- The decimal text of a number that is not too long. -/
def decimalText (n : Nat) : Except DigitLimitExceeded String :=
  if n < 10 ^ digitLimit then .ok (toString n) else .error .writing

end SqlTidy
