import BlockWeave.Text.Literal
import BlockWeave.Value.Shown

/-! # Writing JSON

A document is written on one line, or with every item on a line of its own,
indented by its depth. Characters beyond ASCII are written as they are. -/

namespace BlockWeave.Json

/-- How the items of a document are laid out. -/
inductive Layout where
  /-- All on one line. -/
  | line
  /-- Each item on a line of its own, indented by this much for each level. -/
  | indented (width : Nat)

/-- What stands between two items at a depth. -/
def Layout.separator : Layout → Nat → String
  | line, _ => ", "
  | indented width, depth => ",\n" ++ String.ofList (List.replicate (width * depth) ' ')

/-- What stands after an opening bracket whose items are at a depth. -/
def Layout.opening : Layout → Nat → String
  | line, _ => ""
  | indented width, depth => "\n" ++ String.ofList (List.replicate (width * depth) ' ')

/-- A text as a literal. -/
def literal (s : String) : String :=
  String.ofList (Text.literal s.toList)

/-- A real number; those that are not finite have names. -/
def realText (x : Double) : String :=
  if x.isFinite then x.shown
  else if x = .infinity false then "Infinity"
  else if x = .infinity true then "-Infinity"
  else "NaN"

/-- A key as a literal. -/
def keyLiteral : Key → String
  | .null => literal "null"
  | .bool true => literal "true"
  | .bool false => literal "false"
  | .int n => literal (toString n)
  | .float x => literal (realText x)
  | .str s => literal s

/-- Items between brackets, those of an empty list on one line. -/
def enclose (layout : Layout) (depth : Nat) (left right : String) (items : List String) : String :=
  match items with
  | [] => left ++ right
  | items =>
      left ++ layout.opening (depth + 1) ++ (layout.separator (depth + 1)).intercalate items ++
        layout.opening depth ++ right

mutual

/-- A value at a depth. -/
def render (layout : Layout) (depth : Nat) : Value → String
  | .null => "null"
  | .bool true => "true"
  | .bool false => "false"
  | .int n => toString n
  | .float x => realText x
  | .str s => literal s
  | .list items => enclose layout depth "[" "]" (renderItems layout (depth + 1) items)
  | .map fields => enclose layout depth "\x7b" "\x7d" (renderFields layout (depth + 1) fields)

/-- The items of a list. -/
def renderItems (layout : Layout) (depth : Nat) : List Value → List String
  | [] => []
  | x :: xs => render layout depth x :: renderItems layout depth xs

/-- The entries of a mapping. -/
def renderFields (layout : Layout) (depth : Nat) : List (Key × Value) → List String
  | [] => []
  | (key, x) :: xs =>
      (keyLiteral key ++ ": " ++ render layout depth x) :: renderFields layout depth xs

end

/-- The document of a value. -/
def write (layout : Layout) (v : Value) : String :=
  render layout 0 v

end BlockWeave.Json
