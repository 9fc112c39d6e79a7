import BlockWeave.Document
import BlockWeave.Text.Integer
import BlockWeave.Yaml.Node

/-! # What a document says

A reader for the greater part of the language, for where the library is not at hand. What
a plain scalar means is decided by how it looks; a quoted one is a text. When a mapping
gives a key twice the last value counts, and a collection cannot be a key. An entry may
merge the entries of other mappings, which come first and so are overridden. Tags, and
mappings inside themselves, are refused; dates and numbers in base sixty are taken for
texts. -/

namespace BlockWeave.Yaml

/-- The number that digits write in a base, underscores left out. -/
def radixNumber (base : Nat) (digits : Text) : Except Error Nat :=
  if digits = [] then .error (.missingDigits base)
  else if base = 10 ∧ Text.digitLimit < digits.length then .error (.digitLimit digits.length)
  else .ok (digits.foldl (fun n c => n * base + (Text.hexValue? c).getD 0) 0)

/-- The base and the digits of the unsigned integer that a plain scalar looks like. -/
def plainDigits? (s : Text) : Option (Nat × Text) :=
  let digits := s.filter (· != '_')
  let among (allowed : Char → Bool) (s : Text) : Bool :=
    s ≠ [] && s.all fun c => allowed c || c == '_'
  match s with
  | '0' :: 'b' :: bits =>
      if among (fun c => c == '0' || c == '1') bits then some (2, digits.drop 2) else none
  | '0' :: 'x' :: hex =>
      if among (fun c => (Text.hexValue? c).isSome) hex then some (16, digits.drop 2) else none
  | ['0'] => some (10, digits)
  | '0' :: octal =>
      if among (fun c => '0' ≤ c && c ≤ '7') octal then some (8, digits) else none
  | c :: decimal =>
      if c.isDigit && decimal.all (fun d => d.isDigit || d == '_') then some (10, digits)
      else none
  | [] => none

/-- The exponent of a real number, which must have a sign; nothing behind the digits is
none. -/
def plainExponent? : Text → Option Int
  | [] => some 0
  | c :: sign :: digits =>
      if (c = 'e' ∨ c = 'E') ∧ (sign = '-' ∨ sign = '+') ∧ digits ≠ [] ∧ digits.all Char.isDigit
      then
        let n : Int := Text.ofDigits (digits.filterMap Text.digitValue?)
        some (if sign = '-' then -n else n)
      else none
  | _ => none

/-- The number that a plain scalar with a point looks like. Behind a sign, a digit must stand
before the point. -/
def plainReal? (signed negative : Bool) (s : Text) : Option Double :=
  let isPart (c : Char) : Bool := c.isDigit || c == '_'
  let (whole, behind) := s.span isPart
  match behind with
  | '.' :: behind =>
      let (fraction, behind) := behind.span isPart
      let digits := (whole ++ fraction).filterMap Text.digitValue?
      let starts :=
        whole.head?.any Char.isDigit ||
          (whole = [] && !signed && fraction.head?.any Char.isDigit)
      if starts then
        (plainExponent? behind).map fun exponent =>
          Double.ofScaled negative (Text.ofDigits digits)
            (exponent - (fraction.filterMap Text.digitValue?).length)
      else none
  | _ => none

/-- The key of a plain scalar that may be a number without its sign. -/
def plainNumber (negative : Bool) (unsigned text : Text) : Except Error Key :=
  match plainDigits? unsigned, plainReal? (unsigned ≠ text) negative unsigned with
  | some (base, digits), _ => do
      let n : Int := ← radixNumber base digits
      return .int (if negative then -n else n)
  | none, some x => .ok (.float x)
  | none, none =>
      if [".inf", ".Inf", ".INF"].contains (String.ofList unsigned) then
        .ok (.float (.infinity negative))
      else .ok (.str (String.ofList text))

/-- The plain scalar that merges mappings when it is a key. -/
def mergeMark : Text := ['<', '<']

/-- The plain scalar that stands for itself as a key only. -/
def valueMark : Text := ['=']

/-- What a plain scalar means. -/
def plainScalar (s : Text) : Except Error Key :=
  let text := String.ofList s
  if ["", "~", "null", "Null", "NULL"].contains text then .ok .null
  else if ["yes", "Yes", "YES", "true", "True", "TRUE", "on", "On", "ON"].contains text then
    .ok (.bool true)
  else if ["no", "No", "NO", "false", "False", "FALSE", "off", "Off", "OFF"].contains text then
    .ok (.bool false)
  else if [".nan", ".NaN", ".NAN"].contains text then .ok (.float .nan)
  else if s = mergeMark ∨ s = valueMark then refuse
  else
    match s with
    | '-' :: unsigned => plainNumber true unsigned s
    | '+' :: unsigned => plainNumber false unsigned s
    | unsigned => plainNumber false unsigned s

namespace Node

/-- A node is the key that merges mappings. -/
def isMerge : Node → Bool
  | scalar true text => text = mergeMark
  | _ => false

/-- The key that a node is. -/
def key : Node → Except Error Key
  | scalar true text =>
      if text = valueMark then .ok (.str (String.ofList text)) else plainScalar text
  | scalar false text => .ok (.str (String.ofList text))
  | _ => refuse

mutual

/-- The document of a node. -/
def document : Node → Except Error Document
  | scalar true text => do return .scalar (← plainScalar text)
  | scalar false text => .ok (.scalar (.str (String.ofList text)))
  | sequence items => do return .list (← documents items)
  | mapping number nodes => do
      let (merged, own) ← entries nodes
      return .map (some number) (Fields.ofList (merged ++ own))
  | anchored _ node => document node
  | .alias _ => refuse

/-- The documents of items. -/
def documents : List Node → Except Error (List Document)
  | [] => .ok []
  | node :: nodes => do
      let first ← document node
      return first :: (← documents nodes)

/-- The entries that a mapping merges, and its own ones. -/
def entries : List (Node × Node) → Except Error (Entries × Entries)
  | [] => .ok ([], [])
  | (name, node) :: nodes => do
      if isMerge name then
        let found ← mergedEntries node
        let (merged, own) ← entries nodes
        return (found ++ merged, own)
      else
        let name ← key name
        let part ← document node
        let (merged, own) ← entries nodes
        return (merged, (name, part) :: own)

/-- The entries of a mapping, or of several in a sequence, of which the first counts
most. -/
def mergedEntries : Node → Except Error Entries
  | mapping _ nodes => do
      let (merged, own) ← entries nodes
      return merged ++ own
  | sequence items => mergedItems items
  | _ => refuse

/-- The entries of mappings in a sequence, those of the first one last. -/
def mergedItems : List Node → Except Error Entries
  | [] => .ok []
  | mapping _ nodes :: items => do
      let (merged, own) ← entries nodes
      return (← mergedItems items) ++ merged ++ own
  | _ :: _ => refuse

end

end Node

/-- The document that a text writes. -/
def parse (s : Text) : Except Error Document := do
  match Node.ofTokens? (← tokens s) with
  | some node => do
      let (composed, _) ← node.compose.run {}
      composed.document
  | none => refuse

end BlockWeave.Yaml
