/-!
# Sets of characters

A set of characters is given by closed intervals of code points, the form in which character
properties are published. Membership is decided by looking through the intervals.
-/

namespace SqlTidy

/-- A set of characters, as closed intervals of code points. -/
structure CharSet where
  intervals : List (Nat × Nat)

namespace CharSet

def contains (s : CharSet) (c : Char) : Bool :=
  s.intervals.any fun r => r.1 ≤ c.toNat && c.toNat ≤ r.2

end CharSet

end SqlTidy
