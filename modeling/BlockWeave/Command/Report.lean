import BlockWeave.Error
import BlockWeave.Json.Writer
import BlockWeave.Path

/-! # Reports of the command line

A command reports a result or a failure, as plain text or as one JSON document.
Results go to the standard output, failures to the standard error. -/

namespace BlockWeave.Command

/-- The two streams that a command writes to. -/
structure Output where
  stdout : String := ""
  stderr : String := ""
  deriving Repr, DecidableEq

namespace Output

/-- What has been written first, and then what has been written later. -/
def append (first later : Output) : Output :=
  ⟨first.stdout ++ later.stdout, first.stderr ++ later.stderr⟩

instance : Append Output := ⟨append⟩

/-- A line on the standard output. -/
def line (text : String) : Output :=
  { stdout := text ++ "\n" }

/-- A line on the standard error. -/
def errorLine (text : String) : Output :=
  { stderr := text ++ "\n" }

end Output

/-- The failures that a command reports, by the name of their kind. -/
inductive FailureKind where
  | general
  | circular
  | configuration
  deriving Repr, DecidableEq

/-- The name of a kind of failure in a report. -/
def FailureKind.code : FailureKind → String
  | general => "JdistsError"
  | circular => "CircularReferenceError"
  | configuration => "ConfigurationError"

/-- A failure with what is known about its circumstances. -/
structure Failure where
  kind : FailureKind
  message : String
  context : Fields

namespace Failure

/-- A key set to a value unless it is set already. -/
def supply (context : Fields) (name : String) (value : Value) : Fields :=
  match Fields.get? context (.str name) with
  | some _ => context
  | none => Fields.put context (.str name) value

/-- A block's name as a list. -/
def keyValue (key : BlockKey) : Value :=
  .list [.str (String.ofList key.file), .str (String.ofList key.tag)]

/-- A cycle, with the block that closes it and the blocks that lead to it. -/
def circular (key : BlockKey) (chain : List BlockKey) (context : Fields) : Failure where
  kind := .circular
  message := (Error.circular key chain).message
  context :=
    supply (supply context "key" (keyValue key)) "chain" (.list (chain.map keyValue))

/-- The failure that a command reports for an error; other errors are not its to
report. -/
def ofError? : Error → Option Failure
  | .circular key chain => some (circular key chain [])
  | .configuration fault =>
      some ⟨.configuration, fault.message, [(.str "path", .str fault.place)]⟩
  | _ => none

/-- The entries of a failure in a document. -/
def payload (failure : Failure) : Fields :=
  [(.str "message", .str failure.message), (.str "code", .str failure.kind.code),
    (.str "context", .map failure.context)]

end Failure

/-- The form of a report. -/
structure Format where
  json : Bool := false
  /-- The width of a level of a document; a document without one is a single line. -/
  indent : Option Nat := some 2

namespace Format

/-- A value as a document. -/
def document (format : Format) (value : Value) : String :=
  match format.indent with
  | some width => Json.write (.indented width) value
  | none => Json.write .line value

/-- The report of a finished build: the text, or where it has been written to. Paths
are resolved in a directory. -/
def buildResult (format : Format) (directory source content : Text) (output : Option Text) :
    Except Error Output := do
  if format.json then
    let input ← Path.resolve directory source
    let rest : Fields ← match output with
      | some path => do
          let target ← Path.resolve directory path
          pure [(.str "output", .str (String.ofList target)), (.str "length", .int content.length)]
      | none => pure [(.str "content", .str (String.ofList content))]
    return .line (format.document (.map
      ((.str "status", .str "success") :: (.str "input", .str (String.ofList input)) :: rest)))
  else
    return match output with
      | some path =>
          .line ("Built " ++ String.ofList (Path.shown source) ++ " -> " ++
            String.ofList (Path.shown path))
      | none => .line (String.ofList content)

/-- The report of a list: an item on each line. -/
def listing (format : Format) (key : String) (items : List String) : Output :=
  if format.json then .line (format.document (.map [(.str key, .list (items.map .str))]))
  else items.foldl (fun output item => output ++ .line item) {}

/-- The report of a failure that has a message and perhaps more. -/
def failure (format : Format) (code message : String) (payload : Fields) : Output :=
  if format.json then .errorLine (format.document (.map ((.str "error", .str code) :: payload)))
  else .errorLine ("Error: " ++ message)

end Format
end BlockWeave.Command
