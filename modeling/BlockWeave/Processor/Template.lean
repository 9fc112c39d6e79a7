import BlockWeave.Libraries
import BlockWeave.Processor.Script

/-! # The template processor

The content is a template. Its data come from the variant or file that the `data`
attribute names; data that are not there count as none. What the template writes is
resolved again, so templates may write markers. -/

namespace BlockWeave.Processor

/-- The name of the attribute for the data of a template. -/
def dataName : Text := ['d', 'a', 't', 'a']

/-- The data that a value holds: the entries of a mapping, and any other value under a name of
its own. -/
def dataFields : Value → Fields
  | .null => []
  | .map fields => fields
  | value => [(.str (String.ofList dataName), value)]

/-- The data of a template. -/
def templateData (libraries : Libraries) (context : Context) : Script Processor Fields :=
  match context.attributes.given? dataName with
  | none => .done []
  | some name =>
      .reference name fun found =>
        match found with
        | some text =>
            Script.ofExcept ((libraries.parse text).map fun found => dataFields found.value)
        | none =>
            .log (.warning .template ("Template data \"" ++ String.ofList name ++
              "\" not found (block " ++
              String.ofList (context.blockFile.getD context.sourceFile) ++ ")"))
              (.done [])

/-- What a template writes for its data, resolved. -/
def renderTemplate (libraries : Libraries) (context : Context) : Script Processor Content :=
  let source := context.content.asText
  if source = [] then .done (.text [])
  else do
    let render ← Script.ofExcept (libraries.compile source)
    let data ← templateData libraries context
    let text ← Script.ofExcept (render data)
    .resolve text fun resolved => .done (.text resolved)

/-- The content as a template. -/
def template (libraries : Libraries) : Processor :=
  ⟨"template", renderTemplate libraries⟩

end BlockWeave.Processor
