import SqlTidy.Number.Power

/-!
# Double-precision numbers

A double is kept as its 64 bits: a sign, eleven bits of exponent, 52 bits of fraction. `ofRatio`
rounds a quotient of whole numbers to the nearest double, a tie to the even one, and `ofDecimal`
does so for a decimal number with an exponent.
-/

namespace SqlTidy

structure Double where
  bits : UInt64
deriving DecidableEq, Repr

namespace Double

def isNegative (x : Double) : Bool := x.bits.toNat / 2 ^ 63 == 1

/-- The exponent as it is stored. -/
def storedExponent (x : Double) : Nat := x.bits.toNat / 2 ^ 52 % 2 ^ 11

def fraction (x : Double) : Nat := x.bits.toNat % 2 ^ 52

def isNaN (x : Double) : Bool := x.storedExponent == 2047 && x.fraction != 0

def isFinite (x : Double) : Bool := x.storedExponent != 2047

/-- The magnitude of a finite double is `mantissa * 2 ^ exponent`. -/
def mantissa (x : Double) : Nat :=
  if x.storedExponent = 0 then x.fraction else 2 ^ 52 + x.fraction

def exponent (x : Double) : Int :=
  if x.storedExponent = 0 then -1074 else (x.storedExponent : Int) - 1075

/-- The whole number that a finite double is equal to. -/
def toInt? (x : Double) : Option Int :=
  let magnitude? : Option Nat :=
    if 0 ≤ x.exponent then some (x.mantissa * 2 ^ x.exponent.toNat)
    else
      let unit := 2 ^ (-x.exponent).toNat
      if x.mantissa % unit = 0 then some (x.mantissa / unit) else none
  if x.isFinite then magnitude?.map fun n => if x.isNegative then -(n : Int) else n else none

def ofParts (negative : Bool) (magnitude : Nat) : Double :=
  ⟨UInt64.ofNat ((if negative then 2 ^ 63 else 0) + magnitude)⟩

def infinity (negative : Bool) : Double := ofParts negative (2047 * 2 ^ 52)

def nan (negative : Bool) : Double := ofParts negative (2047 * 2 ^ 52 + 2 ^ 51)

/-- The quotient rounded to the nearest whole number, a tie to the even one. -/
def roundDiv (num den : Nat) : Nat :=
  let q := num / den
  let r := num % den
  if 2 * r < den then q else if den < 2 * r then q + 1 else q + q % 2

/-- The double nearest to `num / den`. -/
def ofRatio (negative : Bool) (num den : Nat) : Double :=
  if num = 0 then ofParts negative 0
  else
    let estimate : Int := (Nat.log2 num : Int) - Nat.log2 den
    let top : Int :=
      if (if 0 ≤ estimate then den * 2 ^ estimate.toNat ≤ num else den ≤ num * 2 ^ (-estimate).toNat)
      then estimate else estimate - 1
    let e : Int := max (top - 52) (-1074)
    let m := if 0 ≤ e then roundDiv num (den * 2 ^ e.toNat) else roundDiv (num * 2 ^ (-e).toNat) den
    let magnitude := (e + 1074).toNat * 2 ^ 52 + m
    if 2047 * 2 ^ 52 ≤ magnitude then infinity negative else ofParts negative magnitude

/-- The double nearest to `digits * 10 ^ exponent`. Exponents that leave no doubt are not expanded. -/
def ofDecimal (negative : Bool) (digits : Nat) (exponent : Int) : Double :=
  let length : Int := (Nat.log2 digits : Int)
  if digits = 0 then ofParts negative 0
  else if 400 < exponent then infinity negative
  else if exponent + length < -1200 then ofParts negative 0
  else if 0 ≤ exponent then ofRatio negative (digits * 10 ^ exponent.toNat) 1
  else ofRatio negative digits (10 ^ (-exponent).toNat)

end Double

end SqlTidy
