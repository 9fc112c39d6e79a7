import BlockWeave.Marker.Assignment
import BlockWeave.Path
import BlockWeave.Table
import BlockWeave.Text.Entity

/-! # Attributes of a marker

The attributes are the assignments of the attribute text with their references
decoded. A value that names a file is resolved in the directory of the text that
the marker stands in; a value that starts with a hash sign names a variant. -/

namespace BlockWeave

/-- The name of a variant: a text that starts with a hash sign. -/
def isVariantName (value : Text) : Bool :=
  value.head? == some '#'

/-- The attributes of one marker. -/
structure Attributes where
  items : Table Text Text
  /-- The file that the `file` attribute names. -/
  filePath : Option Text
  /-- The file that the `export` attribute names. -/
  exportPath : Option Text
  deriving Repr, DecidableEq

namespace Attributes

/-- The value of an attribute. -/
def get? (attrs : Attributes) (name : Text) : Option Text :=
  attrs.items.get? name

/-- The value of an attribute that is there and not empty. -/
def given? (attrs : Attributes) (name : Text) : Option Text :=
  (attrs.get? name).filter (· ≠ [])

/-- The name of the attribute for the referenced file or variant. -/
def fileName : Text := ['f', 'i', 'l', 'e']

/-- The name of the attribute for the referenced block. -/
def blockName : Text := ['b', 'l', 'o', 'c', 'k']

/-- The name of the attribute for the processor. -/
def encodingName : Text := ['e', 'n', 'c', 'o', 'd', 'i', 'n', 'g']

/-- The name of the attribute for the part that is kept. -/
def sliceName : Text := ['s', 'l', 'i', 'c', 'e']

/-- The name of the attribute for the place that the content goes to. -/
def exportName : Text := ['e', 'x', 'p', 'o', 'r', 't']

/-- The name of the attribute for the triggers of a marker. -/
def triggerName : Text := ['t', 'r', 'i', 'g', 'g', 'e', 'r']

/-- The name of the attribute for the kind of a block. -/
def typeName : Text := ['t', 'y', 'p', 'e']

/-- The referenced file or variant. -/
def file (attrs : Attributes) : Option Text := attrs.given? fileName

/-- The referenced block. -/
def block (attrs : Attributes) : Option Text := attrs.given? blockName

/-- The processor that the content goes through. -/
def encoding (attrs : Attributes) : Option Text := attrs.given? encodingName

/-- The part of the content that is kept. -/
def slice (attrs : Attributes) : Option Text := attrs.given? sliceName

/-- The variant or file that the content goes to. -/
def exportTarget (attrs : Attributes) : Option Text := attrs.given? exportName

/-- The triggers that a marker is for. -/
def trigger (attrs : Attributes) : Option Text := attrs.given? triggerName

/-- The kind of a block. -/
def kind (attrs : Attributes) : Option Text := attrs.get? typeName

/-- The names of a list written with commas, without the blanks around them. -/
def triggerList (value : Text) : List Text :=
  (Text.splitOn ',' value).map Text.strip

/-- The marker is for other triggers than the active one. -/
def excludes (attrs : Attributes) (active : Option Text) : Bool :=
  match attrs.trigger with
  | none => false
  | some value =>
      match active with
      | none => true
      | some name => !(triggerList value).contains name

/-- The file that a value names, if it is not empty and no variant name. -/
def resolveFile (directory : Text) (value : Option Text) : Except Error (Option Text) :=
  match value with
  | none => .ok none
  | some value =>
      if value = [] ∨ isVariantName value then .ok none
      else (Path.resolve directory value).map some

/-- The names of an attribute text with their decoded values. -/
def decodeItems (attrText : Text) : Except Error (Table Text Text) := do
  let bindings ← (findAssignments attrText).mapM fun a => do
    return (a.name, ← Text.decodeEntities a.value)
  return Table.ofList bindings

/-- The attributes that an attribute text writes. -/
def parse (directory attrText : Text) : Except Error Attributes := do
  let items ← decodeItems attrText
  let filePath ← resolveFile directory (items.get? fileName)
  let exportPath ← resolveFile directory (items.get? exportName)
  return { items, filePath, exportPath }

end Attributes
end BlockWeave
