import BlockWeave.Text.Basic

/-! # Decimal forms of real numbers

A finite real number in binary form is a fraction, so its decimal digits are found by
exact division. A number is written with the fewest digits that read back to it:
positionally while its first digit stands between the ten-thousandths and the
quadrillions, otherwise with an exponent. The forms with a given number of places or
digits round the exact value, ties to the even digit. -/

namespace BlockWeave.Decimal

/-- A power of two. -/
def twoTo (n : Nat) : Nat := Nat.pow 2 n

/-- A power of ten. -/
def tenTo (n : Nat) : Nat := Nat.pow 10 n

/-- A fraction with a sign. -/
structure Fraction where
  negative : Bool
  numerator : Nat
  denominator : Nat
  deriving Repr, DecidableEq

/-- The exact value of a finite number with the given bits. -/
def Fraction.ofBits (form : UInt64) : Fraction :=
  let bits := form.toNat
  let power : Nat := bits / twoTo 52 % twoTo 11
  let fraction := bits % twoTo 52
  let mantissa := if power = 0 then fraction else fraction + twoTo 52
  let exponent : Int := (if power = 0 then 1 else (power : Int)) - 1075
  ⟨bits / twoTo 63 = 1, mantissa * twoTo exponent.toNat, twoTo (-exponent).toNat⟩

/-- The exact value of a finite number. -/
def Fraction.ofFloat (x : Float) : Fraction :=
  .ofBits x.toBits

/-- A quotient rounded to the nearest integer, ties to the even one. -/
def roundDiv (n d : Nat) : Nat :=
  let q := n / d
  let twice := 2 * (n % d)
  if twice < d ∨ (twice = d ∧ q % 2 = 0) then q else q + 1

/-- The decimal digits of a number. -/
def digits (n : Nat) : Text :=
  Nat.toDigits 10 n

/-- The place of the first decimal digit of a fraction that is not zero: zero for the
ones, one for the tens, minus one for the tenths. -/
def firstPlace (n d : Nat) : Int :=
  let place : Int := (digits n).length - (digits d).length
  if d * tenTo place.toNat ≤ n * tenTo (-place).toNat then place else place - 1

/-- A fraction times a power of ten, rounded. -/
def scaled (n d : Nat) (power : Int) : Nat :=
  roundDiv (n * tenTo power.toNat) (d * tenTo (-power).toNat)

/-- The first `count` decimal digits of a fraction that is not zero, rounded, and the
place of the first one. -/
def leading (count : Nat) (n d : Nat) : Nat × Int :=
  let place := firstPlace n d
  let found := scaled n d (count - 1 - place)
  if found = tenTo count then (tenTo (count - 1), place + 1) else (found, place)

/-- The number `n * 10 ^ power`, as near as it can be. -/
def ofScaled (n : Nat) (power : Int) : Float :=
  if n = 0 then 0.0
  else if 400 < ((digits n).length : Int) + power then 1.0 / 0.0
  else if ((digits n).length : Int) + power < -400 then 0.0
  else Float.ofScientific n (power < 0) power.natAbs

/-- The fewest digits that read back to a positive number, and the place of the first
one; seventeen always do. -/
def shortest (x : Float) : Nat × Int :=
  let exact := Fraction.ofFloat x
  let found (count : Nat) := leading count exact.numerator exact.denominator
  ((List.range 17).map (· + 1)).findSome? (fun count =>
      let (ds, place) := found count
      if ofScaled ds (place - (count - 1)) == x then some (ds, place) else none)
    |>.getD (found 17)

/-- An exponent with its sign and at least two digits. -/
def exponentText (place : Int) : Text :=
  let ds := digits place.natAbs
  (if place < 0 then '-' else '+') :: (if ds.length < 2 then '0' :: ds else ds)

/-- A text without the zeros at its end. -/
def dropZeros (s : Text) : Text :=
  Text.trimRight (· == '0') s

/-- Digits with a point after the first `whole` ones, zeros filled in on either side; a
point that nothing follows is left out. -/
def positional (ds : Text) (whole : Int) : Text :=
  if whole ≤ 0 then '0' :: '.' :: List.replicate whole.natAbs '0' ++ ds
  else
    let before := ds.take whole.toNat
    let after := ds.drop whole.toNat
    before ++ List.replicate (whole.toNat - before.length) '0' ++
      (if after.isEmpty then [] else '.' :: after)

/-- Digits with a point after the first one; a point that nothing follows is left
out. -/
def pointed : Text → Text
  | [] => []
  | [d] => [d]
  | d :: ds => d :: '.' :: ds

/-- What stands for a number that is not finite. -/
def special? (x : Float) : Option Text :=
  if x.isNaN then some ['n', 'a', 'n']
  else if x.isInf then some (if x < 0.0 then ['-', 'i', 'n', 'f'] else ['i', 'n', 'f'])
  else none

/-- A number with the fewest digits that read back to it. -/
def shown (x : Float) : Text :=
  match special? x with
  | some text => text
  | none =>
      let sign := if (Fraction.ofFloat x).negative then ['-'] else []
      if x == 0.0 then sign ++ ['0', '.', '0']
      else
        let (ds, place) := shortest x.abs
        let ds := dropZeros (digits ds)
        if -4 ≤ place ∧ place < 16 then
          let text := positional ds (place + 1)
          sign ++ (if List.elem '.' text then text else text ++ ['.', '0'])
        else sign ++ pointed ds ++ 'e' :: exponentText place

/-- A fraction with a number of places behind the point. -/
def fixedText (alternate : Bool) (places : Nat) (n d : Nat) : Text :=
  let ds := digits (scaled n d places)
  let ds := List.replicate (places + 1 - ds.length) '0' ++ ds
  let whole := ds.length - places
  ds.take whole ++
    (if places = 0 then (if alternate then ['.'] else []) else '.' :: ds.drop whole)

/-- The first digits of a fraction, padded with zeros, and the place of the first one;
zero has its first digit at the ones. -/
def significant (count : Nat) (n d : Nat) : Text × Int :=
  if n = 0 then (List.replicate count '0', 0)
  else
    let (ds, place) := leading count n d
    (digits ds, place)

/-- A fraction with a number of places behind the point of its first digit, and an
exponent. -/
def exponentForm (alternate : Bool) (places : Nat) (n d : Nat) : Text :=
  let (ds, place) := significant (places + 1) n d
  pointed ds ++ (if alternate && places = 0 then ['.'] else []) ++ 'e' :: exponentText place

/-- A fraction with a number of digits, positionally if its first digit stands among
them or close behind the point, and otherwise with an exponent. Zeros at the end are
left out unless the alternate form is asked for. -/
def generalForm (alternate : Bool) (count : Nat) (n d : Nat) : Text :=
  let count := if count = 0 then 1 else count
  let (ds, place) := significant count n d
  if -4 ≤ place ∧ place < count then
    if alternate then
      let text := positional ds (place + 1)
      if List.elem '.' text then text else text ++ ['.']
    else if n = 0 then ['0']
    else
      let short := dropZeros ds
      positional short (place + 1)
  else
    let short := if alternate then ds else dropZeros ds
    pointed short ++ (if alternate && short.length = 1 then ['.'] else []) ++
      'e' :: exponentText place

/-- A quotient of integers, as near as a real number can be. -/
def ratio (a b : Nat) : Float :=
  let shift : Int := ((Nat.log2 b : Int) - Nat.log2 a) + 70
  let n := a * twoTo shift.toNat
  let d := b * twoTo (-shift).toNat
  let q := n / d * 2 + (if n % d = 0 then 0 else 1)
  (Float.ofNat q).scaleB (-shift - 1)

end BlockWeave.Decimal
