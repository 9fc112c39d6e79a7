import BlockWeave.Error
import BlockWeave.Value.Shown

/-! # The rules for configurations

A rule looks at a value and lists what is wrong with it. Rules are put together from
smaller ones, in an order that counts only when two of them object to the same value.
Of all violations one is reported: one as near to the root as possible, and of those
the one at the greatest place. -/

namespace BlockWeave.Config

/-- A step from a value to a part of it. -/
inductive Step where
  | key (name : String)
  | index (position : Nat)
  deriving Repr, DecidableEq

namespace Step

/-- A step as it is shown. -/
def shown : Step → String
  | key name => name
  | index position => toString position

/-- Positions come before keys; otherwise steps are in their natural order. -/
def before : Step → Step → Bool
  | index a, index b => a < b
  | index _, key _ => true
  | key _, index _ => false
  | key a, key b => a < b

end Step

/-- The steps from the root to a value. -/
abbrev Place := List Step

namespace Place

/-- A place as it is shown. -/
def shown (place : Place) : String :=
  if place = [] then "<root>" else ".".intercalate (place.map Step.shown)

/-- The order of places, step by step. -/
def before : Place → Place → Bool
  | _, [] => false
  | [], _ :: _ => true
  | a :: as, b :: bs => a.before b || (a == b && before as bs)

end Place

/-- A value that breaks a rule. -/
structure Violation where
  place : Place
  text : String
  /-- The violation of an inner value that says more, and is reported instead. -/
  inner : Option (Place × String) := none
  deriving Repr, DecidableEq

namespace Violation

/-- A violation is rather reported than another one. -/
def outranks (a b : Violation) : Bool :=
  a.place.length < b.place.length ||
    (a.place.length == b.place.length && Place.before b.place a.place)

/-- The violation that is reported, the first of those of the highest rank. -/
def worst? : List Violation → Option Violation
  | [] => none
  | first :: rest =>
      some (rest.foldl (fun worst v => if v.outranks worst then v else worst) first)

/-- The fault that a violation is reported as. -/
def fault (violation : Violation) : ConfigFault :=
  match violation.inner with
  | some (place, text) => .violation (Place.shown place) text
  | none => .violation violation.place.shown violation.text

end Violation

/-- The kinds of values that rules tell apart. -/
inductive ValueKind where
  | truth
  | text
  | list
  | mapping
  deriving Repr, DecidableEq

namespace ValueKind

/-- The name of a kind in a message. -/
def name : ValueKind → String
  | truth => "boolean"
  | text => "string"
  | list => "array"
  | mapping => "object"

/-- A value is of a kind. -/
def admits : ValueKind → Value → Bool
  | truth, .bool _ => true
  | text, .str _ => true
  | list, .list _ => true
  | mapping, .map _ => true
  | _, _ => false

/-- What is said about a value that is not of a kind. -/
def objection (kind : ValueKind) (value : Value) : String :=
  value.quoted ++ " is not of type " ++ quotedString kind.name

end ValueKind

/-- What is wrong with a value at a place. -/
abbrev Rule := Place → Value → List Violation

namespace Rule

/-- The value is of a kind. -/
def ofKind (kind : ValueKind) : Rule := fun place value =>
  if kind.admits value then [] else [⟨place, kind.objection value, none⟩]

/-- Several rules, one after the other. -/
def all (rules : List Rule) : Rule := fun place value =>
  rules.flatMap fun rule => rule place value

/-- A text is not empty. -/
def nonEmpty : Rule := fun place value =>
  if value.equal (.str "") then [⟨place, value.quoted ++ " should be non-empty", none⟩] else []

/-- A text starts with something other than a period. -/
def noPeriod : Rule := fun place value =>
  match value with
  | .str s =>
      if s.toList.head?.all (· == '.') then
        [⟨place, value.quoted ++ " does not match " ++ quotedString "^[^.]", none⟩]
      else []
  | _ => []

/-- The value is one of several texts. -/
def oneOf (names : List String) : Rule := fun place value =>
  if names.any fun name => value.equal (.str name) then []
  else
    [⟨place, value.quoted ++ " is not one of " ++ (Value.list (names.map .str)).quoted, none⟩]

/-- A rule for every item of a list. -/
def items (rule : Rule) : Rule := fun place value =>
  match value with
  | .list items =>
      items.zipIdx.flatMap fun item => rule (place ++ [.index item.2]) item.1
  | _ => []

/-- Rules for the entries of a mapping that are there. -/
def entries (rules : List (String × Rule)) : Rule := fun place value =>
  rules.flatMap fun entry =>
    match value.field? entry.1 with
    | some part => entry.2 (place ++ [.key entry.1]) part
    | none => []

/-- The keys of a mapping that are not among the given ones, by their texts. -/
def unknownKeys (names : List String) (fields : Fields) : List Key :=
  ((fields.map Prod.fst).filter fun key => !names.any fun name => key.same (.str name)).mergeSort
    fun a b => Text.notAfter a.shown.toList b.shown.toList

/-- A mapping has no keys but the given ones. -/
def closed (names : List String) : Rule := fun place value =>
  match value with
  | .map fields =>
      match unknownKeys names fields with
      | [] => []
      | keys =>
          let verb := if keys.length = 1 then "was" else "were"
          [⟨place, "Additional properties are not allowed (" ++
            ", ".intercalate (keys.map Key.quoted) ++ " " ++ verb ++ " unexpected)", none⟩]
  | _ => []

/-- A text, or a list of texts. The first item that is no text is reported instead of
the list. -/
def textOrTexts : Rule := fun place value =>
  match value with
  | .str _ => []
  | value =>
      match ofKind .list place value ++ items (ofKind .text) place value with
      | [] => []
      | first :: _ =>
          [⟨place, value.quoted ++ " is not valid under any of the given schemas",
            if ValueKind.list.admits value then some (first.place, first.text) else none⟩]

/-- A mapping with known entries only. -/
def record (rules : List (String × Rule)) : Rule :=
  all [ofKind .mapping, entries rules, closed (rules.map Prod.fst)]

/-- The settings of builds. -/
def build : Rule :=
  record [
    ("clean", ofKind .truth),
    ("remove", textOrTexts),
    ("trigger", all [ofKind .text, nonEmpty]),
    ("encoding", all [ofKind .text, nonEmpty]),
    ("binary_extensions", all [ofKind .list, items (all [ofKind .text, noPeriod])])]

/-- The settings of the log. -/
def logging : Rule :=
  record [
    ("level", all [ofKind .text, oneOf ["DEBUG", "INFO", "WARNING", "ERROR", "CRITICAL"]])]

/-- The rule for whole configurations, which may have further entries. -/
def config : Rule :=
  all [ofKind .mapping, entries [("build", build), ("logging", logging)]]

end Rule

/-- A configuration that breaks no rule passes; otherwise one violation is reported. -/
def check (config : Value) : Except Error Unit :=
  match Violation.worst? (Rule.config [] config) with
  | none => .ok ()
  | some violation => .error (.configuration violation.fault)

end BlockWeave.Config
