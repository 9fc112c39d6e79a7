import BlockWeave.Error
import BlockWeave.Text.Decimal
import BlockWeave.Text.Integer
import BlockWeave.Value.Shown

/-! # Values of expressions

The value of an expression is a data value, a real number, a tuple, a view of a
mapping, a range of integers, the state of a loop, a function, or undefined. A strict
undefined value may be passed around, shown inside a list and asked whether it is
defined; any other use of it fails with what is missing. One that is not strict counts
as empty, and fails only where a value is needed. -/

namespace BlockWeave.Template

/-- What a view of a mapping shows. -/
inductive Aspect where
  | keys
  | values
  | entries
  deriving Repr, DecidableEq

/-- The value of an expression. -/
inductive Datum where
  | undefined (strict : Bool) (reason : String)
  | null
  | bool (value : Bool)
  | int (value : Int)
  | real (value : Float)
  | str (value : String)
  | list (items : List Datum)
  | tuple (items : List Datum)
  | map (fields : List (Datum × Datum))
  | view (aspect : Aspect) (fields : List (Datum × Datum))
  | range (start stop step : Int)
  | loop (index length : Nat) (previous next : Option Datum)
  | method (owner : Datum) (name : String)
  | builtin (name : String)
  deriving Inhabited

namespace Datum

/-- The value of a key. -/
def ofKey : Key → Datum
  | .null => null
  | .bool b => bool b
  | .int n => int n
  | .float x => real x.toFloat
  | .str s => str s

mutual

/-- A data value. -/
def ofValue : Value → Datum
  | .null => null
  | .bool b => bool b
  | .int n => int n
  | .float x => real x.toFloat
  | .str s => str s
  | .list items => list (ofItems items)
  | .map fields => map (ofFields fields)

/-- The items of a list. -/
def ofItems : List Value → List Datum
  | [] => []
  | x :: xs => ofValue x :: ofItems xs

/-- The entries of a mapping. -/
def ofFields : List (Key × Value) → List (Datum × Datum)
  | [] => []
  | (key, x) :: xs => (ofKey key, ofValue x) :: ofFields xs

end

/-- A text. -/
def ofText (s : Text) : Datum :=
  str (String.ofList s)

/-- The name of a value's type in messages. -/
def typeName : Datum → String
  | undefined _ _ => "Undefined"
  | null => "None"
  | bool _ => "bool object"
  | int _ => "int object"
  | real _ => "float object"
  | str _ => "str object"
  | list _ => "list object"
  | tuple _ => "tuple object"
  | map _ => "dict object"
  | view .keys _ => "dict_keys object"
  | view .values _ => "dict_values object"
  | view .entries _ => "dict_items object"
  | range _ _ _ => "range object"
  | loop _ _ _ _ => "jinja2.runtime.LoopContext object"
  | method _ _ => "builtin_function_or_method object"
  | builtin "self" => "jinja2.runtime.TemplateReference object"
  | builtin "lipsum" => "function object"
  | builtin _ => "type object"

/-- A value is undefined. -/
def isUndefined : Datum → Bool
  | undefined _ _ => true
  | _ => false

/-- What is missing when a value is undefined. -/
def missing? : Datum → Option String
  | undefined _ reason => some reason
  | _ => none

/-- What is missing when a value is undefined and strict about it. -/
def refusal? : Datum → Option String
  | undefined true reason => some reason
  | _ => none

/-! ## Texts -/

/-- The least number with more digits than are written. -/
def writtenBound : Nat :=
  Decimal.tenTo Text.digitLimit

/-- An integer in decimal digits, unless it has too many. -/
def integerText (n : Int) : Except Error String :=
  if writtenBound ≤ n.natAbs then .error .writtenDigitLimit else .ok (toString n)

/-- How a function shows. -/
def builtinText : String → String
  | "self" => "<TemplateReference None>"
  | "lipsum" => "<function generate_lorem_ipsum>"
  | "cycler" => "<class \x27jinja2.utils.Cycler\x27>"
  | "joiner" => "<class \x27jinja2.utils.Joiner\x27>"
  | "namespace" => "<class \x27jinja2.utils.Namespace\x27>"
  | name => "<class " ++ quotedString name ++ ">"

mutual

/-- A value inside another one: texts are quoted. -/
def quoted : Datum → Except Error String
  | undefined _ _ => .ok "Undefined"
  | null => .ok "None"
  | bool b => .ok (if b then "True" else "False")
  | int n => integerText n
  | real x => .ok (String.ofList (Decimal.shown x))
  | str s => .ok (quotedString s)
  | list items => do
      return "[" ++ ", ".intercalate (← quotedItems items) ++ "]"
  | tuple items => do
      let shown ← quotedItems items
      return "(" ++ ", ".intercalate shown ++ (if shown.length = 1 then ",)" else ")")
  | map fields => do
      return "\x7b" ++ ", ".intercalate (← quotedFields fields) ++ "\x7d"
  | view .keys fields => do
      return "dict_keys([" ++ ", ".intercalate (← quotedKeys fields) ++ "])"
  | view .values fields => do
      return "dict_values([" ++ ", ".intercalate (← quotedValues fields) ++ "])"
  | view .entries fields => do
      return "dict_items([" ++ ", ".intercalate (← quotedPairs fields) ++ "])"
  | range start stop step => do
      let bounds := (← integerText start) ++ ", " ++ (← integerText stop)
      let steps ← if step = 1 then pure "" else (integerText step).map (", " ++ ·)
      return "range(" ++ bounds ++ steps ++ ")"
  | loop index length _ _ =>
      .ok ("<LoopContext " ++ toString (index + 1) ++ "/" ++ toString length ++ ">")
  | method _ name => .ok ("<built-in method " ++ name ++ ">")
  | builtin name => .ok (builtinText name)

/-- The items of a list with their texts quoted. -/
def quotedItems : List Datum → Except Error (List String)
  | [] => .ok []
  | x :: xs => do
      let first ← quoted x
      return first :: (← quotedItems xs)

/-- The entries of a mapping with their texts quoted. -/
def quotedFields : List (Datum × Datum) → Except Error (List String)
  | [] => .ok []
  | (key, x) :: xs => do
      let key ← quoted key
      let first ← quoted x
      return (key ++ ": " ++ first) :: (← quotedFields xs)

/-- The keys of a mapping with their texts quoted. -/
def quotedKeys : List (Datum × Datum) → Except Error (List String)
  | [] => .ok []
  | (key, _) :: xs => do
      let first ← quoted key
      return first :: (← quotedKeys xs)

/-- The values of a mapping with their texts quoted. -/
def quotedValues : List (Datum × Datum) → Except Error (List String)
  | [] => .ok []
  | (_, x) :: xs => do
      let first ← quoted x
      return first :: (← quotedValues xs)

/-- The entries of a mapping as pairs, with their texts quoted. -/
def quotedPairs : List (Datum × Datum) → Except Error (List String)
  | [] => .ok []
  | (key, x) :: xs => do
      let key ← quoted key
      let first ← quoted x
      return ("(" ++ key ++ ", " ++ first ++ ")") :: (← quotedPairs xs)

end

/-- A value as text. -/
def text : Datum → Except Error String
  | str s => .ok s
  | undefined true reason => .error (.undefinedValue reason)
  | undefined false _ => .ok ""
  | d => d.quoted

/-! ## Parts -/

/-- The number of integers in a range. -/
def rangeLength (start stop step : Int) : Nat :=
  if 0 < step then ((stop - start + step - 1) / step).toNat
  else if step < 0 then ((start - stop - step - 1) / (-step)).toNat
  else 0

/-- The integers of a range. -/
def rangeItems (start stop step : Int) : List Int :=
  (List.range (rangeLength start stop step)).map fun (place : Nat) => start + step * place

/-- The characters of a text as texts. -/
def characters (s : String) : List Datum :=
  s.toList.map fun c => ofText [c]

/-- What a view of a mapping shows of an entry. -/
def aspectOf : Aspect → Datum × Datum → Datum
  | .keys, field => field.1
  | .values, field => field.2
  | .entries, field => tuple [field.1, field.2]

/-- The values that a value holds, in order. -/
def items : Datum → Except Error (List Datum)
  | undefined true reason => .error (.undefinedValue reason)
  | undefined false _ => .ok []
  | list xs => .ok xs
  | tuple xs => .ok xs
  | str s => .ok (characters s)
  | map fields => .ok (fields.map Prod.fst)
  | view aspect fields => .ok (fields.map (aspectOf aspect))
  | range start stop step => .ok ((rangeItems start stop step).map int)
  | _ => .error .wrongType

/-- The number of values that a value holds. -/
def length : Datum → Except Error Nat
  | undefined true reason => .error (.undefinedValue reason)
  | undefined false _ => .ok 0
  | list xs => .ok xs.length
  | tuple xs => .ok xs.length
  | str s => .ok s.length
  | map fields => .ok fields.length
  | view _ fields => .ok fields.length
  | range start stop step => .ok (rangeLength start stop step)
  | loop _ length _ _ => .ok length
  | _ => .error .wrongType

/-- A value counts as true unless it is null, false, zero or empty. -/
def truthy : Datum → Except Error Bool
  | null => .ok false
  | bool b => .ok b
  | int n => .ok (n ≠ 0)
  | real x => .ok (x != 0.0)
  | method _ _ => .ok true
  | builtin _ => .ok true
  | d => d.length.map (· ≠ 0)

/-! ## Numbers -/

/-- The integer that a value counts as. -/
def integer? : Datum → Option Int
  | bool b => some (if b then 1 else 0)
  | int n => some n
  | _ => none

/-- An integer as a real number, unless it is too large. -/
def realOf (n : Int) : Except Error Float :=
  let x := Float.ofInt n
  if x.isInf then .error .outOfRange else .ok x

/-- The real number that a value counts as. -/
def real? : Datum → Option (Except Error Float)
  | real x => some (.ok x)
  | d => d.integer?.map realOf

/-- The order of two real numbers, if they have one. -/
def orderReals (x y : Float) : Option Ordering :=
  if x < y then some .lt else if y < x then some .gt else if x == y then some .eq else none

/-- The order of an integer and a real number, if they have one. -/
def orderMixed (n : Int) (x : Float) : Option Ordering :=
  if x.isNaN then none
  else if x.isInf then some (if x < 0.0 then .gt else .lt)
  else
    let exact := Decimal.Fraction.ofFloat x
    let value : Int := if exact.negative then -exact.numerator else exact.numerator
    some (compare (n * exact.denominator) value)

/-- The order of two numbers, if both values are numbers. -/
def orderNumbers? : Datum → Datum → Option (Option Ordering)
  | real x, real y => some (orderReals x y)
  | real x, b => b.integer?.map fun n => (orderMixed n x).map Ordering.swap
  | a, real y => a.integer?.map fun n => orderMixed n y
  | a, b => do return some (compare (← a.integer?) (← b.integer?))

/-! ## Keys -/

mutual

/-- Two values are the same key. -/
def sameKey (a b : Datum) : Bool :=
  match orderNumbers? a b with
  | some found => found == some .eq
  | none =>
      match a with
      | null => match b with
        | null => true
        | _ => false
      | str s => match b with
        | str t => s = t
        | _ => false
      | tuple xs => match b with
        | tuple ys => sameKeys xs ys
        | _ => false
      | undefined false _ => b.isUndefined
      | range start stop step => match b with
        | range start' stop' step' => rangeItems start stop step = rangeItems start' stop' step'
        | _ => false
      | builtin name => match b with
        | builtin other => name = other
        | _ => false
      | _ => false

/-- Two lists of values are the same keys, place by place. -/
def sameKeys : List Datum → List Datum → Bool
  | [], ys => ys.isEmpty
  | x :: xs, ys => match ys with
    | [] => false
    | y :: ys => sameKey x y && sameKeys xs ys

end

mutual

/-- A value may be a key: lists, mappings and most views may not. -/
def checkKey : Datum → Except Error Unit
  | undefined true reason => .error (.undefinedValue reason)
  | list _ => .error .wrongType
  | map _ => .error .wrongType
  | view .keys _ => .error .wrongType
  | view .entries _ => .error .wrongType
  | tuple items => checkKeys items
  | _ => .ok ()

/-- All values of a list may be keys. -/
def checkKeys : List Datum → Except Error Unit
  | [] => .ok ()
  | x :: xs => do
      checkKey x
      checkKeys xs

end

/-- The value of a mapping at a key. -/
def field? (fields : List (Datum × Datum)) (key : Datum) : Option Datum :=
  (fields.find? fun field => sameKey field.1 key).map Prod.snd

/-- The value of a mapping at a key, if the value may be a key. -/
def lookup (fields : List (Datum × Datum)) (key : Datum) : Except Error (Option Datum) := do
  checkKey key
  return field? fields key

/-- The entries of a mapping with a key set to a value. -/
def putField : List (Datum × Datum) → Datum → Datum → List (Datum × Datum)
  | [], key, value => [(key, value)]
  | (name, old) :: fields, key, value =>
      if sameKey name key then (name, value) :: fields
      else (name, old) :: putField fields key value

/-- The mapping of entries set one after the other. -/
def mapOf (entries : List (Datum × Datum)) : Except Error Datum := do
  checkKeys (entries.map Prod.fst)
  return map (entries.foldl (fun fields entry => putField fields entry.1 entry.2) [])

/-! ## Comparison -/

mutual

/-- Equality of values. The flag says that the values were swapped, which decides which
one is to blame when both are undefined. -/
def equalFrom (swapped : Bool) (a b : Datum) : Except Error Bool :=
  match a.refusal?, b.refusal? with
  | some reason, some other => .error (.undefinedValue (if swapped then other else reason))
  | some reason, none => .error (.undefinedValue reason)
  | none, some reason => .error (.undefinedValue reason)
  | none, none =>
      match a with
      | list xs => match b with
        | list ys => if xs.length = ys.length then equalItems swapped xs ys else .ok false
        | _ => .ok false
      | tuple xs => match b with
        | tuple ys => equalItems swapped xs ys
        | _ => .ok false
      | map xs => match b with
        | map ys => if xs.length = ys.length then equalFields (!swapped) xs ys else .ok false
        | _ => .ok false
      | view .keys xs => match b with
        | view .keys ys =>
            .ok (xs.length == ys.length && xs.all fun field => (field? ys field.1).isSome)
        | _ => .ok false
      | view .entries xs => match b with
        | view .entries ys =>
            if xs.length = ys.length then equalFields (!swapped) xs ys else .ok false
        | _ => .ok false
      | method owner name => match b with
        | method other name' => do
            if name = name' then return (← owner.quoted) = (← other.quoted) else return false
        | _ => .ok false
      | loop index length _ _ => match b with
        | loop index' length' _ _ => .ok (index = index' && length = length')
        | _ => .ok false
      | a => .ok (sameKey a b)

/-- Equality of lists, item by item. -/
def equalItems (swapped : Bool) : List Datum → List Datum → Except Error Bool
  | [], ys => .ok ys.isEmpty
  | x :: xs, ys => match ys with
    | [] => .ok false
    | y :: ys => do
        if ← equalFrom swapped x y then equalItems swapped xs ys else return false

/-- Every entry of the first mapping is in the second one with an equal value. -/
def equalFields (swapped : Bool) :
    List (Datum × Datum) → List (Datum × Datum) → Except Error Bool
  | [], _ => .ok true
  | (key, x) :: xs, ys => match field? ys key with
    | some y => do
        if ← equalFrom swapped x y then equalFields swapped xs ys else return false
    | none => .ok false

end

/-- Equality of values. -/
def equal (a b : Datum) : Except Error Bool :=
  equalFrom false a b

mutual

/-- The order of two values of one kind, if they have one. -/
def order (a b : Datum) : Except Error (Option Ordering) :=
  match a.missing?, b.missing? with
  | some reason, _ => .error (.undefinedValue reason)
  | none, some reason => .error (.undefinedValue reason)
  | none, none =>
      match orderNumbers? a b with
      | some found => .ok found
      | none =>
          match a with
          | str s => match b with
            | str t => .ok (some (compareOfLessAndEq s t))
            | _ => .error .wrongType
          | list xs => match b with
            | list ys => orderItems xs ys
            | _ => .error .wrongType
          | tuple xs => match b with
            | tuple ys => orderItems xs ys
            | _ => .error .wrongType
          | _ => .error .wrongType

/-- The order of two lists: that of the first items that differ. -/
def orderItems : List Datum → List Datum → Except Error (Option Ordering)
  | [], ys => .ok (some (if ys.isEmpty then .eq else .lt))
  | x :: xs, ys => match ys with
    | [] => .ok (some .gt)
    | y :: ys => do
        if ← equal x y then orderItems xs ys else order x y

end

/-- A value is one of those in a list. -/
def memberOf (d : Datum) : List Datum → Except Error Bool
  | [] => .ok false
  | x :: xs => do
      if ← x.equal d then return true else memberOf d xs

/-- A container holds a value: a text a part, a mapping a key, a list an item. -/
def contains (container d : Datum) : Except Error Bool :=
  match container, d with
  | str s, str part => .ok (Text.contains part.toList s.toList)
  | str _, _ => .error .wrongType
  | map fields, d => (lookup fields d).map Option.isSome
  | view .keys fields, d => (lookup fields d).map Option.isSome
  | view .entries fields, tuple [key, value] => do
      match ← lookup fields key with
      | some found => found.equal value
      | none => return false
  | view .entries _, _ => .ok false
  | container, d => do memberOf d (← container.items)

/-- What is missing when a name has no value. -/
def unknownName (name : String) : Datum :=
  undefined true (quotedString name ++ " is undefined")

end Datum
end BlockWeave.Template
