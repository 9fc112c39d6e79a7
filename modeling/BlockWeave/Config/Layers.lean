import BlockWeave.Config.Defaults
import BlockWeave.Config.Environment
import BlockWeave.Disk
import BlockWeave.Libraries

/-! # Loading a configuration

A configuration is made of layers, each laid over those before it: the defaults, the
file of the project, a file that was asked for, and the environment. A file that
exists must hold a mapping or nothing. Two files have no mapping in common, so their
mappings get numbers that are apart. -/

namespace BlockWeave.Config

/-- Where the layers of a configuration come from. -/
structure Sources where
  /-- The directory that paths are read in. -/
  directory : Text
  /-- The root of the project. -/
  root : Text
  /-- The file that was asked for. -/
  file : Option Text := none
  environment : Environment := []
  libraries : Libraries

/-- The names that the file of a project may have. -/
def projectNames : List Text := [
  ['.', 'j', 'd', 'i', 's', 't', 's', '.', 'y', 'a', 'm', 'l'],
  ['.', 'j', 'd', 'i', 's', 't', 's', '.', 'y', 'm', 'l']]

/-- A path read in a directory names a file. -/
def isFileIn (disk : Disk) (directory path : Text) : Except Error Bool :=
  match disk.locate directory path with
  | .ok place => disk.isFile? place
  | .error .nameTooLong => .error .nameTooLong
  | .error _ => .ok false

/-- The first path of a list that names a file. -/
def firstFile? (disk : Disk) (directory : Text) : List Text → Except Error (Option Text)
  | [] => .ok none
  | path :: paths => do
      if ← isFileIn disk directory path then return some path
      else firstFile? disk directory paths

/-- The file of a project. -/
def projectFile? (disk : Disk) (sources : Sources) : Except Error (Option Text) :=
  firstFile? disk sources.directory (projectNames.map (Path.join sources.root))

/-- The entries of a configuration document. The path is for messages. -/
def ofDocument (libraries : Libraries) (path : Text) (bytes : List UInt8) : Except Error Entries :=
  match Utf8.decode? bytes with
  | none => .error .undecodable
  | some text =>
      match libraries.parse text with
      | .error .malformedData => .error (.configuration (.malformed path))
      | .error e => .error e
      | .ok (.scalar .null) => .ok []
      | .ok (.map _ entries) => .ok entries
      | .ok _ => .error (.configuration (.notMapping path))

/-- The entries of a configuration file. -/
def readFile (disk : Disk) (sources : Sources) (path : Text) : Except Error Entries := do
  let place ← disk.locate sources.directory path
  let bytes ← disk.readBytes place
  ofDocument sources.libraries path bytes

/-- The layer of the project's file. -/
def projectLayer (disk : Disk) (sources : Sources) : Loading Entries := do
  match ← Loading.ofExcept (projectFile? disk sources) with
  | none => return []
  | some path =>
      Loading.note (.debug .configuration ("Loading project config " ++ String.ofList path))
      let entries ← Loading.ofExcept (readFile disk sources path)
      return Document.renumberEntries (2 * ·) entries

/-- The layer of the file that was asked for, which must exist. -/
def fileLayer (disk : Disk) (sources : Sources) : Except Error Entries := do
  match sources.file with
  | none => return []
  | some file =>
      let path := Path.shown file
      if ← isFileIn disk sources.directory path then
        let entries ← readFile disk sources path
        return Document.renumberEntries (2 * · + 1) entries
      else throw (.configuration (.missing path))

/-- All layers of a configuration, one laid over the other. -/
def layers (disk : Disk) (sources : Sources) : Loading Entries := do
  let project ← projectLayer disk sources
  let file ← Loading.ofExcept (fileLayer disk sources)
  sources.environment.overlay
    (Document.overlayEntries (Document.overlayEntries (Document.ofFields defaults) project) file)

/-- A configuration that the library lets pass. -/
def load (disk : Disk) (sources : Sources) : Loading Value := do
  let config := Value.map (Document.fields (← layers disk sources))
  Loading.ofExcept (sources.libraries.validate config)
  return config

end BlockWeave.Config
