import BlockWeave.Template.Format

/-! # Operators

Operators work on numbers, texts and lists. An operand that is undefined is reported
before anything else; only a text before a percent sign is a format, whatever stands
behind it. Integers stay integers except under division and negative powers. -/

namespace BlockWeave.Template

/-- An operator with two operands. -/
inductive Operator where
  | add
  | subtract
  | multiply
  | divide
  | floorDivide
  | modulo
  | power
  deriving Repr, DecidableEq

/-- A comparison. -/
inductive Comparison where
  | equal
  | notEqual
  | less
  | lessEqual
  | greater
  | greaterEqual
  | member
  | notMember
  deriving Repr, DecidableEq

/-! ## Numbers -/

/-- A quotient of integers as a real number. -/
def divideIntegers (a b : Int) : Except Error Datum :=
  if b = 0 then .error .divisionByZero
  else if a = 0 then .ok (.real (if b < 0 then -0.0 else 0.0))
  else
    let x := Decimal.ratio a.natAbs b.natAbs
    if x.isInf then .error .outOfRange
    else .ok (.real (if (a < 0) = (b < 0) then x else -x))

/-- A real number that is not too large, given that none of the operands was. -/
def bounded (x : Float) (operands : List Float) : Except Error Datum :=
  if x.isInf && operands.all Float.isFinite then .error .outOfRange else .ok (.real x)

/-- A power of real numbers. -/
def powerReals (x y : Float) : Except Error Datum :=
  if x == 0.0 && y < 0.0 then .error .divisionByZero
  else if x < 0.0 && y.isFinite && y.floor != y then .error .wrongType
  else bounded (x.pow y) [x, y]

/-- The rest of a division of real numbers, with the sign of the divisor, and the
quotient rounded down. -/
def floorDivideReals (x y : Float) : Float × Float :=
  if x.isFinite && y.isFinite then
    let a := Decimal.Fraction.ofFloat x
    let b := Decimal.Fraction.ofFloat y
    let signed (negative : Bool) (n : Nat) : Int := if negative then -n else n
    let n := signed a.negative (a.numerator * b.denominator)
    let d := signed b.negative (b.numerator * a.denominator)
    let rest := Int.fmod n d
    let size := Decimal.ratio rest.natAbs (a.denominator * b.denominator)
    let rest := if rest = 0 then (if y < 0.0 then -0.0 else 0.0)
      else if rest < 0 then -size else size
    (rest, Float.ofInt (Int.fdiv n d))
  else if x.isFinite && !y.isNaN then
    if x == 0.0 || (x < 0.0) == (y < 0.0) then (x, 0.0) else (y, -1.0)
  else (0.0 / 0.0, 0.0 / 0.0)

/-- The result of an operation on real numbers. -/
def realOperation (operator : Operator) (x y : Float) : Except Error Datum :=
  match operator with
  | .add => .ok (.real (x + y))
  | .subtract => .ok (.real (x - y))
  | .multiply => .ok (.real (x * y))
  | .divide => if y == 0.0 then .error .divisionByZero else .ok (.real (x / y))
  | .floorDivide =>
      if y == 0.0 then .error .divisionByZero else .ok (.real (floorDivideReals x y).2)
  | .modulo => if y == 0.0 then .error .divisionByZero else .ok (.real (floorDivideReals x y).1)
  | .power => powerReals x y

/-- The result of an operation on integers. -/
def integerOperation (operator : Operator) (a b : Int) : Except Error Datum :=
  match operator with
  | .add => .ok (.int (a + b))
  | .subtract => .ok (.int (a - b))
  | .multiply => .ok (.int (a * b))
  | .divide => divideIntegers a b
  | .floorDivide => if b = 0 then .error .divisionByZero else .ok (.int (Int.fdiv a b))
  | .modulo => if b = 0 then .error .divisionByZero else .ok (.int (Int.fmod a b))
  | .power =>
      if 0 ≤ b then .ok (.int (Int.pow a b.toNat))
      else do powerReals (← Datum.realOf a) (← Datum.realOf b)

/-- The result of an operation on numbers, if both operands are numbers. -/
def numberOperation? (operator : Operator) (a b : Datum) : Option (Except Error Datum) :=
  match a.integer?, b.integer? with
  | some m, some n => some (integerOperation operator m n)
  | _, _ => do
      let x ← a.real?
      let y ← b.real?
      return do realOperation operator (← x) (← y)

/-! ## Operators on values -/

/-- A list repeated; a negative count means none. -/
def repeated {α : Type} (xs : List α) (count : Int) : List α :=
  (List.replicate count.toNat xs).flatten

/-- The number of times that something can be repeated lies below this bound. -/
def repeatBound : Nat := Decimal.twoTo 63

/-- A text or a list repeated. -/
def repeat? (d : Datum) (count : Int) : Option (Except Error Datum) :=
  let result := match d with
    | .str s => some (fun _ : Unit => Datum.ofText (repeated s.toList count))
    | .list xs => some (fun _ => .list (repeated xs count))
    | .tuple xs => some (fun _ => .tuple (repeated xs count))
    | _ => none
  result.map fun found => if repeatBound ≤ count.natAbs then .error .outOfRange else .ok (found ())

/-- A text or a list in front of another one. -/
def append? : Datum → Datum → Option Datum
  | .str s, .str t => some (.str (s ++ t))
  | .list xs, .list ys => some (.list (xs ++ ys))
  | .tuple xs, .tuple ys => some (.tuple (xs ++ ys))
  | _, _ => none

/-- A text or a list and the number of times it is repeated, in either order. -/
def multiply? (a b : Datum) : Option (Except Error Datum) :=
  match b.integer?, a.integer? with
  | some n, _ => repeat? a n
  | none, some n => repeat? b n
  | none, none => none

/-- The result of an operation. -/
def applyOperator (operator : Operator) (a b : Datum) : Except Error Datum :=
  match operator, a, b with
  | .modulo, .str s, b => (Format.fill s.toList b).map .ofText
  | operator, a, b =>
      match a.missing?, b.missing? with
      | some reason, _ => .error (.undefinedValue reason)
      | none, some reason => .error (.undefinedValue reason)
      | none, none =>
          match numberOperation? operator a b with
          | some result => result
          | none =>
              let result := match operator with
                | .add => (append? a b).map Except.ok
                | .multiply => multiply? a b
                | _ => none
              result.getD (.error .wrongType)

/-- The result of a comparison. -/
def applyComparison (comparison : Comparison) (a b : Datum) : Except Error Bool :=
  match comparison with
  | .equal => a.equal b
  | .notEqual => (a.equal b).map not
  | .member => b.contains a
  | .notMember => (b.contains a).map not
  | .less => (a.order b).map (· == some .lt)
  | .lessEqual => (a.order b).map fun found => found == some .lt || found == some .eq
  | .greater => (a.order b).map (· == some .gt)
  | .greaterEqual => (a.order b).map fun found => found == some .gt || found == some .eq

/-- A sign in front of a value. -/
def applySign (negative : Bool) (d : Datum) : Except Error Datum :=
  match d.missing?, d with
  | some reason, _ => .error (.undefinedValue reason)
  | none, .real x => .ok (.real (if negative then -x else x))
  | none, d =>
      match d.integer? with
      | some n => .ok (.int (if negative then -n else n))
      | none => .error .wrongType

/-- The texts of values put together. -/
def joinTexts (ds : List Datum) : Except Error Datum := do
  return .str ("".intercalate (← ds.mapM Datum.text))

end BlockWeave.Template
