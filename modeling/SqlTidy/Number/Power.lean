/-!
# Powers

A power of a natural number or of an integer is the one of the core library, also where an algebraic
library offers another definition of it.
-/

namespace SqlTidy

@[default_instance 20000]
instance (priority := 2000) corePower {α : Type} [NatPow α] : Pow α Nat := instPowNat

end SqlTidy
