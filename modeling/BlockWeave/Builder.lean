import BlockWeave.Weaving

/-! # Builders

A builder keeps what outlives a build: the registry of processors and the preset
variants. Every build runs in a session of its own that starts with copies of both;
the session of the last build that succeeded can still be asked for its variants. -/

namespace BlockWeave

/-- The state between builds. -/
structure Builder where
  registry : Registry
  presets : Variants := []
  last : Option Session := none

/-- The surroundings of a build. -/
structure Workspace where
  disk : Disk
  log : List LogEntry := []

/-- What the caller of a build sets. -/
structure Overrides where
  settings : Fields := []
  /-- A test for binary files. -/
  isBinary : Option (Text → Except Error Bool) := none

namespace Overrides

/-- Nothing is set. -/
def isEmpty (overrides : Overrides) : Bool :=
  overrides.settings.isEmpty && overrides.isBinary.isNone

/-- The options with what is set. -/
def apply (overrides : Overrides) (options : Options) : Except Error Options := do
  let changed ← options.apply overrides.settings
  return { changed with isBinary := overrides.isBinary.or changed.isBinary }

end Overrides

namespace Builder

/-- Adds or replaces a processor for the builds to come. -/
def registerEncoding (builder : Builder) (name : Text) (processor : Option Processor) :
    Except Error Builder := do
  let registry ← builder.registry.add name processor
  return { builder with registry }

/-- A variant of the last build, or else a preset. -/
def variant? (builder : Builder) (name : Text) : Option Content :=
  match builder.last.bind fun session => session.variants.get? name with
  | some content => some content
  | none => builder.presets.get? name

/-- Presets a variant for the builds to come, and replaces it in the last build. -/
def setVariant (builder : Builder) (name : Text) (content : Content) : Builder :=
  { builder with
    presets := builder.presets.put name content
    last := builder.last.map fun session =>
      { session with variants := session.variants.put name content } }

/-- The session that a build starts with. -/
def newSession (builder : Builder) (options : Options) : Session :=
  { options, registry := builder.registry, variants := builder.presets }

/-- The steps of a build. -/
def steps (depth : Nat) (entry : Text) (options : Options) : Weave Text := do
  let removed ← Weave.ofExcept options.removeList
  let shownTags := Value.list (removed.map fun tag => .str (String.ofList tag))
  Weave.note (.debug .builder ("build " ++ String.ofList entry ++ " (trigger=" ++
    options.trigger.shown ++ ", remove=" ++ shownTags.quoted ++ ")"))
  Discovery.load entry
  let text ← Weaving.resolveFile depth entry
  return if options.tidies then Text.tidy text else text

/-- Builds a file, whose path is read in a directory. Only a build that succeeds
becomes the last one. -/
def build (builder : Builder) (depth : Nat) (directory path : Text) (options : Options)
    (workspace : Workspace) : Except Error Text × Builder × Workspace :=
  match Path.resolve directory path with
  | .error e => (.error e, builder, workspace)
  | .ok entry =>
      let run : Run := {
        session := builder.newSession options
        disk := workspace.disk
        log := workspace.log }
      match (steps depth entry options).run run with
      | (.error e, run) => (.error e, builder, { disk := run.disk, log := run.log })
      | (.ok text, run) =>
          (.ok text, { builder with last := some run.session.reset },
            { disk := run.disk, log := run.log })

/-- The options of a build: those that are given, with what is set, or else the standard
ones with what is set. -/
def chooseOptions (codecs : Codecs) (options : Option Options) (overrides : Overrides) :
    Except Error Options :=
  match options with
  | none => overrides.apply { codecs }
  | some options => if overrides.isEmpty then .ok options else overrides.apply options

/-- Builds a file with the options that are chosen. -/
def buildChoosing (builder : Builder) (depth : Nat) (directory path : Text) (codecs : Codecs)
    (options : Option Options) (overrides : Overrides) (workspace : Workspace) :
    Except Error Text × Builder × Workspace :=
  match chooseOptions codecs options overrides with
  | .error e => (.error e, builder, workspace)
  | .ok options => builder.build depth directory path options workspace

end Builder
end BlockWeave
