import BlockWeave.Codec.Charset
import BlockWeave.Path
import BlockWeave.Text.Blank
import BlockWeave.Value.Pairs
import BlockWeave.Value.Shown

/-! # Build options

The options of a build come from data: from a configuration, from the command
line, or from the caller. They keep the values they were given, and say what these
mean where it matters. -/

namespace BlockWeave

/-- What a build does with a text. -/
structure Options where
  /-- Whether white space is tidied. -/
  clean : Value := .bool true
  /-- The tags whose blocks are dropped: a list, or a text with commas. -/
  remove : Value := .str "debug,test"
  /-- The active trigger. -/
  trigger : Value := .str "release"
  /-- A further test for binary files, on their paths; it may be no test at all. -/
  isBinary : Option (Text → Except Error Bool) := none
  /-- The extensions of binary files, without the period. -/
  binaryExtensions : List String :=
    ["png", "jpeg", "jpg", "mp3", "ogg", "gif", "eot", "ttf", "woff"]
  /-- The name of the character set of files. -/
  encoding : Value := .str "utf-8"
  /-- The character sets that there are. -/
  codecs : Codecs := Charset.standard

namespace Options

/-- White space is tidied. -/
def tidies (options : Options) : Bool :=
  options.clean.truthy

/-- The texts of the items of a list, the characters of a text, or the keys of a
mapping; other values have no items. -/
def itemTexts : Value → Except Error (List String)
  | .list items => .ok (items.map Value.shown)
  | .map fields => .ok (fields.map fun field => field.1.shown)
  | .str s => .ok (s.toList.map fun c => String.ofList [c])
  | _ => .error .wrongType

/-- The tags of a comma-separated text or a list, without the blanks around them. -/
def tagList (value : Value) : Except Error (List Text) := do
  let items ← match value with
    | .null => .ok []
    | .str s => .ok (Text.splitOn ',' s.toList)
    | value => (itemTexts value).map fun items => items.map String.toList
  return (items.map Text.strip).filter (· ≠ [])

/-- The tags whose blocks are dropped. -/
def removeList (options : Options) : Except Error (List Text) :=
  tagList options.remove

/-- The active trigger, if it is a text. -/
def activeTrigger (options : Options) : Option Text :=
  match options.trigger with
  | .str s => some s.toList
  | _ => none

/-- The character set of files. -/
def charset (options : Options) : Except Error Charset :=
  match options.encoding with
  | .str name =>
      match options.codecs name with
      | some set => .ok set
      | none => .error .unknownCharset
  | _ => .error .wrongType

/-- The character set that files are read in; when none is named, it is UTF-8. -/
def fileCharset (options : Options) : Except Error Charset :=
  match options.encoding with
  | .null => .ok Charset.utf8
  | _ => options.charset

/-- A file is taken as bytes. The further test is asked last. -/
def treatsAsBinary (options : Options) (path : Text) : Except Error Bool :=
  let extension := Path.extension path
  if extension ≠ [] ∧ options.binaryExtensions.contains (String.ofList extension) then .ok true
  else
    match options.isBinary with
    | some test => test path
    | none => .ok false

/-- The names of the options that can be given as data. -/
def names : List String :=
  ["clean", "remove", "trigger", "is_binary", "binary_extensions", "encoding"]

/-- An extension without the periods at its start. -/
def extensionOf (text : String) : String :=
  String.ofList (text.toList.dropWhile (· == '.'))

/-- The extensions of a list of texts, of the characters of a text, or of the keys of a
mapping. -/
def extensionList (value : Value) : Except Error (List String) := do
  let items ← match value with
    | .list items => .ok items
    | .map fields => .ok (fields.map fun field => Value.ofKey field.1)
    | value => (itemTexts value).map fun items => items.map Value.str
  items.mapM fun item =>
    match item with
    | .str text => .ok (extensionOf text)
    | _ => .error .notText

/-- The options with those set that are given. -/
def apply (options : Options) (settings : Fields) : Except Error Options := do
  unless settings.all (fun setting => names.any fun name => setting.1.same (.str name)) do
    throw .unexpectedOption
  let given (name : String) (default : Value) : Value :=
    (Fields.get? settings (.str name)).getD default
  let remove := given "remove" options.remove
  let trigger := given "trigger" options.trigger
  let extensions ← match Fields.get? settings (.str "binary_extensions") with
    | some value => extensionList value
    | none => .ok (options.binaryExtensions.map extensionOf)
  return {
    clean := given "clean" options.clean
    remove := if remove.equal .null || remove.equal (.str "") then .str "debug,test" else remove
    trigger := if trigger.truthy then trigger else .str "release"
    isBinary := match Fields.get? settings (.str "is_binary") with
      | some value => if value.truthy then some fun _ => .error .wrongType else none
      | none => options.isBinary
    binaryExtensions := extensions
    encoding := given "encoding" options.encoding
    codecs := options.codecs }

/-- The options that a list of settings makes. -/
def ofSettings (settings : Fields) : Except Error Options :=
  apply {} settings

/-- The options of the `build` section of a configuration, with overrides. Entries of
the section that are no options do not count, and neither do overrides of null. -/
def ofConfig (config : Value) (overrides : Fields) : Except Error Options := do
  let section? := (config.field? "build").filter Value.truthy
  let entries ← match section? with
    | none => .ok []
    | some v => v.entries
  let known (key : Key) : Bool := names.any fun name => key.same (.str name)
  let given := overrides.filter fun override => !override.2.equal .null
  match given.find? fun override => !known override.1 with
  | some override => throw (.unknownOption override.1.shown)
  | none =>
      ofSettings (Fields.ofList ((entries.filter fun entry => known entry.1) ++ given))

/-- The options as data. -/
def toValue (options : Options) : Except Error Value := do
  let remove ← options.removeList
  return .map [
    (.str "clean", options.clean),
    (.str "remove", .list (remove.map fun tag => .str (String.ofList tag))),
    (.str "trigger", options.trigger),
    (.str "binary_extensions", .list (options.binaryExtensions.map .str)),
    (.str "encoding", options.encoding)]

end Options
end BlockWeave
