import BlockWeave.Value.Double

/-! # Data values

Configuration, template data and reports are made of values: scalars, lists and
mappings. A mapping keeps its keys in the order in which they were first set.
Truth values count as the integers zero and one when values are compared, and a real
number is equal to the integer that it is. What stands for no number is equal to itself,
as one that is asked for twice is. -/

namespace BlockWeave

/-- A key of a mapping. -/
inductive Key where
  | null
  | bool (b : Bool)
  | int (n : Int)
  | float (x : Double)
  | str (s : String)
  deriving Repr, DecidableEq, Inhabited

namespace Key

/-- What a key counts as: an integer where it is equal to one. -/
def code : Key → Key
  | bool b => int (if b then 1 else 0)
  | float x =>
      match x.integer? with
      | some n => int n
      | none => float x.canonical
  | key => key

/-- Two keys name the same entry. -/
def same (a b : Key) : Bool :=
  a.code = b.code

@[simp] theorem same_iff {a b : Key} : a.same b = true ↔ a.code = b.code := by
  simp [same]

end Key

/-- A data value. -/
inductive Value where
  | null
  | bool (b : Bool)
  | int (n : Int)
  | float (x : Double)
  | str (s : String)
  | list (items : List Value)
  | map (fields : List (Key × Value))
  deriving Repr, Inhabited

/-- The entries of a mapping, of values or of something else. -/
abbrev Fields (β : optParam Type Value) := List (Key × β)

namespace Fields

variable {β : Type}

/-- What stands at a key. -/
def get? : Fields β → Key → Option β
  | [], _ => none
  | (name, value) :: fields, key => if name.same key then some value else get? fields key

/-- The entries with a key set. -/
def put : Fields β → Key → β → Fields β
  | [], key, value => [(key, value)]
  | (name, old) :: fields, key, value =>
      if name.same key then (name, value) :: fields else (name, old) :: put fields key value

/-- Setting a key changes what stands at this key and at no other. -/
theorem get?_put (fields : Fields β) (key other : Key) (value : β) :
    (put fields key value).get? other =
      if key.same other then some value else get? fields other := by
  induction fields with
  | nil => simp [put, get?]
  | cons field fields ih =>
      by_cases h : field.1.code = key.code
      · by_cases ho : key.code = other.code <;> simp [put, get?, h, ho]
      · by_cases ho : field.1.code = other.code
        · have hk : key.code ≠ other.code := fun e => h (ho.trans e.symm)
          simp [put, get?, ho, hk, hk.symm]
        · simp [put, get?, h, ho, ih]

/-- Entries set one after the other. -/
def ofList (entries : List (Key × β)) : Fields β :=
  entries.foldl (fun fields entry => put fields entry.1 entry.2) []

end Fields

namespace Value

/-- The value of a scalar key. -/
def ofKey : Key → Value
  | .null => null
  | .bool b => bool b
  | .int n => int n
  | .float x => float x
  | .str s => str s

/-- The key of a scalar value. -/
def toKey? : Value → Option Key
  | null => some .null
  | bool b => some (.bool b)
  | int n => some (.int n)
  | float x => some (.float x)
  | str s => some (.str s)
  | list _ => none
  | map _ => none

/-- The entry of a mapping at a text key. -/
def field? (v : Value) (name : String) : Option Value :=
  match v with
  | map fields => Fields.get? fields (.str name)
  | _ => none

/-- A value counts as true unless it is null, false, zero or empty. -/
def truthy : Value → Bool
  | null => false
  | bool b => b
  | int n => n ≠ 0
  | float x => x.integer? ≠ some 0
  | str s => s ≠ ""
  | list items => !items.isEmpty
  | map fields => !fields.isEmpty

/-- The number that a value counts as in a comparison. -/
def number? : Value → Option Key
  | bool b => some (Key.bool b).code
  | int n => some (Key.int n).code
  | float x => some (Key.float x).code
  | _ => none

mutual

/-- Equality of values: mappings are equal whatever the order of their keys. -/
def equal : Value → Value → Bool
  | null, w => match w with
    | null => true
    | _ => false
  | bool b, w => w.number? == some (Key.bool b).code
  | int n, w => w.number? == some (Key.int n).code
  | float x, w => w.number? == some (Key.float x).code
  | str s, w => match w with
    | str t => s = t
    | _ => false
  | list xs, w => match w with
    | list ys => equalItems xs ys
    | _ => false
  | map xs, w => match w with
    | map ys => xs.length == ys.length && equalFields xs ys
    | _ => false

/-- Equality of lists of values, item by item. -/
def equalItems : List Value → List Value → Bool
  | [], ys => ys.isEmpty
  | x :: xs, ys => match ys with
    | [] => false
    | y :: ys => equal x y && equalItems xs ys

/-- Every entry of the first mapping is in the second one with an equal value. -/
def equalFields : List (Key × Value) → List (Key × Value) → Bool
  | [], _ => true
  | (key, x) :: xs, ys => match Fields.get? ys key with
    | some y => equal x y && equalFields xs ys
    | none => false

end

end Value
end BlockWeave
