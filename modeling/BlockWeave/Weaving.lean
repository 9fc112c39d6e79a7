import BlockWeave.Marker.Comment
import BlockWeave.Shorthand
import BlockWeave.Slice
import BlockWeave.Weave

/-! # Weaving the blocks together

Resolving a text replaces its markers. A reference is replaced by the content of a
variant, of a block or of a file, which is resolved in its turn, passed through a
processor, cut to a slice and tidied, and may go to a variant or to a file instead
of the text. The content of a block is found once and kept in its record; asking
for a block while it is being resolved is a cycle.

The steps are written over a function `resolve` for the texts inside the one at
hand and a function `fetch` for the blocks that they refer to. `resolveText` ties the
knot, with a bound on how deeply texts are nested. -/

namespace BlockWeave.Weaving

/-- Resolves a text as if it stood in a file. -/
structure Resolver where
  /-- The text with its markers replaced and its shorthands expanded. -/
  resolve : (file text : Text) → Weave Text
  /-- The text with its markers replaced. -/
  scan : (file text : Text) → Weave Text

instance : CoeFun Resolver fun _ => (file text : Text) → Weave Text := ⟨Resolver.resolve⟩

/-- Resolves nothing. -/
def Resolver.refuse (error : Error) : Resolver where
  resolve := fun _ _ => .fail error
  scan := fun _ _ => .fail error

/-- Finds the content of a block and says whether it is the bytes of a binary file, if
the block is known. -/
abbrev Fetcher := BlockKey → Weave (Option (Content × Bool))

/-- The tag of blocks that are always dropped. -/
def removeTag : Text := ['r', 'e', 'm', 'o', 'v', 'e']

/-- The kind of blocks whose body stands in a comment. -/
def commentKind : Text := ['c', 'o', 'm', 'm', 'e', 'n', 't']

/-- The body of an occurrence, resolved in the file of its block. -/
def resolveOccurrence (resolve : Resolver) (file : Text) (occurrence : Occurrence) :
    Weave Text := do
  let body ← resolve file occurrence.body
  return if occurrence.attributes.kind = some commentKind then Comment.strip body else body

/-- The content of a block that is in progress: the bytes or the resolved source of a
file, or the resolved occurrences on lines of their own. -/
def evaluate (resolve : Resolver) (record : Record) : Weave Content := do
  if record.isFile then
    if record.isBinary then
      return .bytes (← Weave.ofExcept ((← Weave.disk).readBytes record.key.file))
    else
      return .text (← resolve record.key.file (record.source.getD []))
  else
    let bodies ← record.ordered.mapM (resolveOccurrence resolve record.key.file)
    return .text (Text.join ['\n'] bodies)

/-- Gives a block its content. What is left is the record as it is then. -/
def leaveRecord (record : Record) (content : Content) : Weave Unit := do
  let found ← Weave.record? record.key
  Weave.perform (.leave (found.getD { record with state := .inProgress }) content)

/-- The content of a block, found when it is first asked for. -/
def resolveRecord (resolve : Resolver) (record : Record) : Weave Content := do
  match record.state, record.content with
  | .done, some content => return content
  | _, _ =>
      Weave.perform (.enter record)
      let content ← evaluate resolve record
      leaveRecord record content
      return content

/-- The block of a key, with the content that is found for its record. -/
def fetchBlock (contentOf : Record → Weave Content) : Fetcher := fun key => do
  match ← Weave.record? key with
  | none => return none
  | some record =>
      let content ← contentOf record
      return some (content, record.isBinary)

/-- The text of a variant, or of a file read in a directory. -/
def readReference (options : Options) (directory name : Text) : Weave (Option Text) := do
  if isVariantName name then
    match (← Weave.variants).get? name with
    | none => return none
    | some content => return some (← Weave.ofExcept (content.toText options.charset))
  else
    let path ← Weave.ofExcept (Path.resolve directory name)
    let disk ← Weave.disk
    if ← Weave.ofExcept (disk.isFile? path) then
      return some (← Weave.ofExcept (disk.readText options.fileCharset path))
    else return none

/-- The content that a processor makes. Processors that call each other are nested
at most as deeply as the bound says. -/
def runProcessor (resolve : Resolver) (context : Context) :
    Nat → Processor → Content → Weave Content
  | 0, _, _ => .fail .depthExceeded
  | depth + 1, processor, content =>
      (processor.script { context with content }).run {
        fail := .fail
        log := Weave.note
        resolve := resolve context.sourceFile
        scan := resolve.scan context.sourceFile
        variant := fun name => return (← Weave.variants).get? name
        reference := readReference context.options context.directory
        encodings := return (← Weave.registry).sortedNames
        process := fun name content => do
          match (← Weave.registry).find? name with
          | some other => runProcessor resolve context depth other content
          | none => .fail .wrongType
        register := fun name other => Weave.perform (.register name other) }

/-- What a reference refers to. -/
structure Target where
  content : Content
  isBinary : Bool := false
  blockFile : Option Text := none
  blockName : Text := []

/-- What a reference in a file refers to: a variant, a block, or its own body. A
reference to nothing has no target. -/
def findTarget (fetch : Fetcher) (file : Text) (marker : Marker) (attributes : Attributes) :
    Weave (Option Target) := do
  let variants ← Weave.variants
  match attributes.file.bind fun name => variants.get? name with
  | some content => return some { content }
  | none =>
      if attributes.file.isNone ∧ attributes.block.isNone then
        return some { content := .text marker.body }
      else if attributes.file.any isVariantName then
        Weave.note (.debug .weaving ("Variant \"" ++
          String.ofList (attributes.file.getD []) ++ "\" not defined; emitting nothing"))
        return none
      else
        let blockFile := attributes.filePath.getD file
        let blockName := attributes.block.getD []
        match ← fetch ⟨blockFile, blockName⟩ with
        | none => return none
        | some (content, isBinary) =>
            return some { content, isBinary, blockFile := some blockFile, blockName }

/-- What the processor of a reference gets: bytes as they are, and text resolved. -/
def processorInput (resolve : Resolver) (options : Options) (file : Text) (target : Target) :
    Weave Content := do
  if target.isBinary then return target.content
  else
    let text ← Weave.ofExcept (target.content.toText options.charset)
    return .text (← resolve file text)

/-- What the processor of a reference may know about it. -/
def processorContext (options : Options) (file : Text) (marker : Marker)
    (attributes : Attributes) (target : Target) (content : Content) : Context where
  content := content
  attributes := attributes
  directory := Path.parent (target.blockFile.getD file)
  blockFile := target.blockFile
  blockName := target.blockName
  options := options
  tag := marker.tag
  sourceFile := file

/-- The content of a target after the processor of a reference. -/
def applyProcessor (resolve : Resolver) (depth : Nat) (file : Text) (marker : Marker)
    (attributes : Attributes) (target : Target) : Weave Content := do
  let registry ← Weave.registry
  match attributes.encoding.bind registry.find? with
  | none => return target.content
  | some processor =>
      let options ← Weave.options
      let content ← processorInput resolve options file target
      let context := processorContext options file marker attributes target content
      runProcessor resolve context depth processor content

/-- The entries about bounds of a slice that are no integers. -/
def sliceWarnings (slice : Slice) : List LogEntry :=
  slice.ignored.map fun raw =>
    .warning .weaving ("Ignoring invalid slice bound \"" ++ String.ofList raw ++ "\"")

/-- The part of a content that a reference keeps. -/
def applySlice (attributes : Attributes) (content : Content) : Weave Content := do
  match attributes.slice with
  | none => return content
  | some spec =>
      let slice := Slice.parse spec
      (sliceWarnings slice).forM Weave.note
      return slice.apply content

/-- A text goes where the reference exports it to, and otherwise stays. -/
def exportText (options : Options) (attributes : Attributes) (text : Text) : Weave Text := do
  match attributes.exportTarget with
  | none => return text
  | some name =>
      if isVariantName name then
        Weave.perform (.define name (.text text))
        Weave.note (.debug .weaving ("Exported variant \"" ++ String.ofList name ++ "\" (" ++
          toString text.length ++ " chars)"))
      else
        match attributes.exportPath with
        | none => pure ()
        | some path =>
            Weave.perform (.write options.charset path (.text text))
            Weave.note (.debug .weaving ("Exported " ++ String.ofList path ++ " (" ++
              toString text.length ++ " chars)"))
      return []

/-- What stands in the place of a reference. -/
def emitReference (resolve : Resolver) (fetch : Fetcher) (depth : Nat) (file : Text)
    (marker : Marker) (attributes : Attributes) : Weave Text := do
  let options ← Weave.options
  match ← findTarget fetch file marker attributes with
  | none => return []
  | some target =>
      let processed ← applyProcessor resolve depth file marker attributes target
      let content ← applySlice attributes processed
      let text ← Weave.ofExcept (content.toText options.charset)
      let tidied := if options.tidies then Text.tidy text else text
      let resolved ← resolve file tidied
      exportText options attributes resolved

/-- What stands in the place of a marker. -/
def emitMarker (resolve : Resolver) (fetch : Fetcher) (depth : Nat) (file : Text)
    (removed : List Text) (marker : Marker) : Weave Text := do
  if removed.contains marker.tag then return []
  else
    let options ← Weave.options
    let attributes ← Weave.ofExcept (Attributes.parse (Path.parent file) marker.attrText)
    if attributes.excludes options.activeTrigger then
      return if attributes.exportTarget.isSome then [] else marker.text
    else if Discovery.referenceTags.contains marker.tag then
      emitReference resolve fetch depth file marker attributes
    else if marker.tag = removeTag then return []
    else return marker.rebuild (← resolve file marker.body)

/-- A text with its markers replaced. -/
def weaveMarkers (resolve : Resolver) (fetch : Fetcher) (depth : Nat) (file text : Text) :
    Weave Text := do
  let removed ← Weave.ofExcept (← Weave.options).removeList
  replaceMarkers (emitMarker resolve fetch depth file removed) 0 text

/-- A text with its markers replaced and its shorthands expanded. -/
def weaveText (resolve : Resolver) (fetch : Fetcher) (depth : Nat) : Resolver where
  resolve := fun file text => return Shorthand.expand (← weaveMarkers resolve fetch depth file text)
  scan := weaveMarkers resolve fetch depth

/-- A text resolved in a file, where texts may be nested as deeply as the bound says. -/
def resolveText : Nat → Resolver
  | 0 => .refuse .depthExceeded
  | depth + 1 =>
      weaveText (resolveText depth) (fetchBlock (resolveRecord (resolveText depth))) depth

/-- The text of a whole file that is known, and nothing for any other. -/
def fileText (fetch : Fetcher) (file : Text) : Weave Text := do
  match ← fetch (.ofFile file) with
  | none => return []
  | some (content, _) => Weave.ofExcept (content.toText (← Weave.options).charset)

/-- The text of a file that has been loaded. -/
def resolveFile (depth : Nat) : (file : Text) → Weave Text :=
  fileText (fetchBlock (resolveRecord (resolveText depth)))

end BlockWeave.Weaving
