/-!
# Numbers of a fixed width
-/

namespace SqlTidy

/-- Digits with zeros in front, at least `width` of them. -/
def zeroPadded (width : Nat) (digits : List Char) : String :=
  String.ofList (List.replicate (width - digits.length) '0' ++ digits)

/-- A number in decimal, at least `width` digits wide. -/
def padded (width n : Nat) : String := zeroPadded width (Nat.toDigits 10 n)

/-- A number in lower-case hexadecimal, at least `width` digits wide. -/
def hexText (width n : Nat) : String := zeroPadded width (Nat.toDigits 16 n)

end SqlTidy
