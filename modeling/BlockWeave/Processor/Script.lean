import BlockWeave.Content
import BlockWeave.Log
import BlockWeave.Marker.Attributes
import BlockWeave.Options

/-! # Processors

A processor turns the content of a reference into other content. It sees the
reference as a `Context`, and what it does is a `Script`: a tree of requests, each
with what is done with the reply. A request may put another processor into the
registry of the build, so scripts and processors are defined through each other.
Running a script is a matter of the host that answers the requests; a failed request
ends the run, so a processor cannot catch a failure. -/

namespace BlockWeave

/-- What a processor may know about the reference it works for. -/
structure Context where
  content : Content
  attributes : Attributes
  /-- The directory that relative references are read in. -/
  directory : Text
  /-- The file of the referenced block. -/
  blockFile : Option Text
  /-- The tag of the referenced block. -/
  blockName : Text
  options : Options
  /-- The tag of the marker. -/
  tag : Text
  /-- The file that the marker stands in. -/
  sourceFile : Text

/-- A computation that asks its host for what it cannot do itself. `P` are the
processors that it may hand over. -/
inductive Script (P α : Type) where
  /-- The end, with a result. -/
  | done (result : α)
  /-- The end, with a failure. -/
  | fail (error : Error)
  /-- An entry for the log. -/
  | log (entry : LogEntry) (next : Script P α)
  /-- A text with its markers resolved and its shorthands expanded. -/
  | resolve (text : Text) (next : Text → Script P α)
  /-- A text with its markers resolved. -/
  | scan (text : Text) (next : Text → Script P α)
  /-- The content of a variant. -/
  | variant (name : Text) (next : Option Content → Script P α)
  /-- The text of a variant or of a file. -/
  | reference (name : Text) (next : Option Text → Script P α)
  /-- The names of all processors. -/
  | encodings (next : List Text → Script P α)
  /-- The result of another processor on another content. -/
  | process (name : Text) (content : Content) (next : Content → Script P α)
  /-- A name listed with a processor for the rest of the build. -/
  | register (name : Text) (processor : Option P) (next : Script P α)

namespace Script

variable {P α β : Type}

/-- A script followed by another one that depends on its result. -/
def bind : Script P α → (α → Script P β) → Script P β
  | done a, k => k a
  | fail e, _ => fail e
  | log entry next, k => log entry (next.bind k)
  | resolve text next, k => resolve text fun reply => (next reply).bind k
  | scan text next, k => scan text fun reply => (next reply).bind k
  | variant name next, k => variant name fun reply => (next reply).bind k
  | reference name next, k => reference name fun reply => (next reply).bind k
  | encodings next, k => encodings fun reply => (next reply).bind k
  | process name content next, k => process name content fun reply => (next reply).bind k
  | register name processor next, k => register name processor (next.bind k)

instance : Monad (Script P) where
  pure := done
  bind := bind

/-- A result that may be a failure. -/
def ofExcept : Except Error α → Script P α
  | .ok a => done a
  | .error e => fail e

/-- Adds or replaces a processor for the rest of the build; both the name and the
processor must be there. -/
def add (name : Text) (processor : Option P) : Script P Unit :=
  if name = [] ∨ processor.isNone then fail .incompleteEncoding
  else register name processor (done ())

/-- The answers to the requests of a script. -/
structure Host (P : Type) (m : Type → Type) where
  fail : {α : Type} → Error → m α
  log : LogEntry → m Unit
  resolve : Text → m Text
  scan : Text → m Text
  variant : Text → m (Option Content)
  reference : Text → m (Option Text)
  encodings : m (List Text)
  process : Text → Content → m Content
  register : Text → Option P → m Unit

/-- The run of a script on a host. -/
def run {m : Type → Type} [Monad m] (host : Host P m) : Script P α → m α
  | done a => pure a
  | fail e => host.fail e
  | log entry next => do
      host.log entry
      next.run host
  | resolve text next => do
      let reply ← host.resolve text
      (next reply).run host
  | scan text next => do
      let reply ← host.scan text
      (next reply).run host
  | variant name next => do
      let reply ← host.variant name
      (next reply).run host
  | reference name next => do
      let reply ← host.reference name
      (next reply).run host
  | encodings next => do
      let reply ← host.encodings
      (next reply).run host
  | process name content next => do
      let reply ← host.process name content
      (next reply).run host
  | register name processor next => do
      host.register name processor
      next.run host

end Script

/-- A named way to turn content into other content. -/
structure Processor where
  label : String
  script : Context → Script Processor Content

end BlockWeave
