import BlockWeave.Error
import BlockWeave.Value.Basic

/-! # Mappings given as pairs

A mapping may also be given as a list of pairs. A pair is any value with two parts: a
list or a text of two, or the keys of a mapping of two. -/

namespace BlockWeave.Value

/-- The parts of a value: the items of a list, the characters of a text, or the keys of
a mapping. Other values have none. -/
def parts : Value → Except Error (List Value)
  | .list items => .ok items
  | .str s => .ok (s.toList.map fun c => .str (String.ofList [c]))
  | .map fields => .ok (fields.map fun field => ofKey field.1)
  | _ => .error .wrongType

/-- The entry that a pair stands for, at its place in a list. -/
def pair (index : Nat) (v : Value) : Except Error (Key × Value) := do
  match ← v.parts with
  | [first, second] =>
      match first.toKey? with
      | some key => return (key, second)
      | none => throw .wrongType
  | parts => throw (.notPair index parts.length)

/-- The entries of pairs, from a place in their list on. -/
def pairs : Nat → List Value → Except Error (List (Key × Value))
  | _, [] => .ok []
  | index, v :: vs => do
      let entry ← pair index v
      return entry :: (← pairs (index + 1) vs)

/-- The entries of a mapping, or of a list of pairs. -/
def entries : Value → Except Error Fields
  | .map fields => .ok fields
  | v => do return Fields.ofList (← pairs 0 (← v.parts))

end BlockWeave.Value
