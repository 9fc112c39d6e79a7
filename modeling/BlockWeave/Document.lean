import BlockWeave.Value.Basic

/-! # Documents

A document is read to a tree, and a mapping may stand at several of its places: the
document gives it a name at one of them and refers to it at the others. Such a mapping
has a number, and where the same number stands there is the same mapping. Whoever changes
it at one place changes it at all of them.

Documents are laid over each other. Mappings are merged key by key, at any depth, to new
mappings. A list takes the place of the list below it, unless its first item says that
its other items are to be appended; anything else takes the place of what is below. -/

namespace BlockWeave

/-- A document. -/
inductive Document where
  | scalar (key : Key)
  | list (items : List Document)
  /-- A mapping, with its number if it may stand at other places too. -/
  | map (origin : Option Nat) (entries : List (Key × Document))
  deriving Inhabited

/-- The entries of a mapping of a document. -/
abbrev Entries := Fields Document

namespace Value

/-- The first item of a list whose other items are appended. -/
def appendMark : Value := .str "+"

/-- A list of values holds an item. -/
def holds (items : List Value) (item : Value) : Bool :=
  items.any fun other => other.equal item

end Value

namespace Document

mutual

/-- The value that a document stands for. -/
def value : Document → Value
  | scalar key => .ofKey key
  | list items => .list (values items)
  | map _ entries => .map (fields entries)

/-- The values of items. -/
def values : List Document → List Value
  | [] => []
  | item :: items => value item :: values items

/-- The values of entries. -/
def fields : List (Key × Document) → Fields
  | [] => []
  | (key, part) :: entries => (key, value part) :: fields entries

end

mutual

/-- A value as a document in which every mapping stands at one place. -/
def ofValue : Value → Document
  | .null => scalar .null
  | .bool b => scalar (.bool b)
  | .int n => scalar (.int n)
  | .float x => scalar (.float x)
  | .str s => scalar (.str s)
  | .list items => list (ofValues items)
  | .map fields => map none (ofFields fields)

/-- Items as documents. -/
def ofValues : List Value → List Document
  | [] => []
  | item :: items => ofValue item :: ofValues items

/-- Entries as documents. -/
def ofFields : List (Key × Value) → Entries
  | [] => []
  | (key, part) :: fields => (key, ofValue part) :: ofFields fields

end

mutual

/-- A document with other numbers for its mappings. -/
def renumber (f : Nat → Nat) : Document → Document
  | scalar key => scalar key
  | list items => list (renumberItems f items)
  | map origin entries => map (origin.map f) (renumberEntries f entries)

/-- Items with other numbers for their mappings. -/
def renumberItems (f : Nat → Nat) : List Document → List Document
  | [] => []
  | item :: items => renumber f item :: renumberItems f items

/-- Entries with other numbers for their mappings. -/
def renumberEntries (f : Nat → Nat) : List (Key × Document) → Entries
  | [] => []
  | (key, part) :: entries => (key, renumber f part) :: renumberEntries f entries

end

mutual

/-- A document with other entries in the mapping of a number, wherever it stands. -/
def refill (origin : Nat) (content : Entries) : Document → Document
  | scalar key => scalar key
  | list items => list (refillItems origin content items)
  | map number entries =>
      map number (if number = some origin then content else refillEntries origin content entries)

/-- Items with other entries in the mapping of a number. -/
def refillItems (origin : Nat) (content : Entries) : List Document → List Document
  | [] => []
  | item :: items => refill origin content item :: refillItems origin content items

/-- Entries with other entries in the mapping of a number. -/
def refillEntries (origin : Nat) (content : Entries) : List (Key × Document) → Entries
  | [] => []
  | (key, part) :: entries =>
      (key, refill origin content part) :: refillEntries origin content entries

end

/-- A list laid over another one. -/
def overlayItems (base : List Document) : List Document → List Document
  | [] => []
  | first :: rest =>
      if first.value.equal .appendMark then
        base ++ rest.filter fun item => !Value.holds (values base) item.value
      else first :: rest

mutual

/-- A document laid over what is below it, if there is anything. -/
def overlay (base : Option Document) : Document → Document
  | map origin entries =>
      match base with
      | some (map _ below) => map none (overlayEntries below entries)
      | _ => map origin entries
  | list items =>
      match base with
      | some (list below) => list (overlayItems below items)
      | _ => list items
  | scalar key => scalar key

/-- The entries of a mapping laid over those of another one. -/
def overlayEntries (base : Entries) : List (Key × Document) → Entries
  | [] => base
  | (key, part) :: entries =>
      overlayEntries (Fields.put base key (overlay (Fields.get? base key) part)) entries

end

end Document
end BlockWeave
