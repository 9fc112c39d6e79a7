import BlockWeave.Text.Decimal

/-! # Real numbers as data

A real number of a document is kept as the 64 bits of its binary form, so that two
numbers can be told apart and compared without rounding. A number that is written in
decimal digits is the nearest one, ties to the even fraction. -/

namespace BlockWeave

/-- A real number, as the bits of its binary form. -/
structure Double where
  bits : UInt64
  deriving Repr, DecidableEq, Inhabited

namespace Double

open Decimal (twoTo tenTo)

/-- The bits of the exponent. -/
def power (x : Double) : Nat :=
  x.bits.toNat / twoTo 52 % twoTo 11

/-- The number is neither infinite nor the one that stands for no number. -/
def isFinite (x : Double) : Bool :=
  x.power ≠ 2047

/-- What stands for no number; there are many of its kind, and all count as this one. -/
def nan : Double := ⟨0x7ff8000000000000⟩

/-- The infinite numbers. -/
def infinity (negative : Bool) : Double :=
  ⟨if negative then 0xfff0000000000000 else 0x7ff0000000000000⟩

/-- The integer that a number is equal to. -/
def integer? (x : Double) : Option Int :=
  let exact := Decimal.Fraction.ofBits x.bits
  if x.isFinite ∧ exact.numerator % exact.denominator = 0 then
    let size : Int := exact.numerator / exact.denominator
    some (if exact.negative then -size else size)
  else none

/-- The number that stands for all those that are equal to one that is no integer. -/
def canonical (x : Double) : Double :=
  if x.isFinite ∨ x.bits.toNat % twoTo 52 = 0 then x else nan

/-- The number nearest to a fraction. -/
def ofFraction (negative : Bool) (n d : Nat) : Double :=
  let sign := if negative then twoTo 63 else 0
  if n = 0 then ⟨UInt64.ofNat sign⟩
  else
    let guess : Int := (Nat.log2 n : Int) - Nat.log2 d
    let place := if d * twoTo guess.toNat ≤ n * twoTo (-guess).toNat then guess else guess - 1
    let power := max (place + 1023) 1
    let mantissa :=
      Decimal.roundDiv (n * twoTo (1075 - power).toNat) (d * twoTo (power - 1075).toNat)
    -- A mantissa that has been rounded up to the next power of two raises the exponent.
    let size := (power.toNat - 1) * twoTo 52 + mantissa
    ⟨UInt64.ofNat (sign + min size (2047 * twoTo 52))⟩

/-- The number nearest to `n * 10 ^ power`. -/
def ofScaled (negative : Bool) (n : Nat) (power : Int) : Double :=
  let place := ((Decimal.digits n).length : Int) + power
  if n = 0 ∨ place < -400 then ofFraction negative 0 1
  else if 400 < place then infinity negative
  else ofFraction negative (n * tenTo power.toNat) (tenTo (-power).toNat)

/-- The number for calculations. -/
def toFloat (x : Double) : Float :=
  Float.ofBits x.bits

/-- A number with the fewest digits that read back to it. -/
def shown (x : Double) : String :=
  String.ofList (Decimal.shown x.toFloat)

example : ofScaled true 15 (-1) = ⟨0xbff8000000000000⟩ := by
  decide +kernel

example : (ofScaled false 3 2).integer? = some 300 := by
  decide +kernel

end Double
end BlockWeave
