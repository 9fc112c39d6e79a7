import BlockWeave.Text.Quoted
import BlockWeave.Value.Basic

/-! # Values in messages

A value inside a message or a list is shown with its texts quoted; on its own, a
text is shown as it is. -/

namespace BlockWeave

/-- A text in quotes. -/
def quotedString (s : String) : String :=
  String.ofList (Text.quoted s.toList)

namespace Key

/-- A key with its text quoted. -/
def quoted : Key → String
  | null => "None"
  | bool true => "True"
  | bool false => "False"
  | int n => toString n
  | float x => x.shown
  | str s => quotedString s

/-- A key with its text as it is. -/
def shown : Key → String
  | str s => s
  | key => key.quoted

end Key

namespace Value

mutual

/-- A value with its texts quoted. -/
def quoted : Value → String
  | null => "None"
  | bool true => "True"
  | bool false => "False"
  | int n => toString n
  | float x => x.shown
  | str s => quotedString s
  | list items => "[" ++ ", ".intercalate (quotedItems items) ++ "]"
  | map fields => "\x7b" ++ ", ".intercalate (quotedFields fields) ++ "\x7d"

/-- The items of a list with their texts quoted. -/
def quotedItems : List Value → List String
  | [] => []
  | x :: xs => quoted x :: quotedItems xs

/-- The entries of a mapping with their texts quoted. -/
def quotedFields : List (Key × Value) → List String
  | [] => []
  | (key, x) :: xs => (key.quoted ++ ": " ++ quoted x) :: quotedFields xs

end

/-- A value on its own: a text as it is, anything else with its texts quoted. -/
def shown : Value → String
  | str s => s
  | v => v.quoted

end Value
end BlockWeave
