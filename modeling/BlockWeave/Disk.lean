import BlockWeave.Content
import BlockWeave.Path
import BlockWeave.Table

/-! # Files on disk

A disk is a table of absolute paths, each a file with its bytes or a directory.
Reading checks that the directories above a path are there. Writing a file is done
in three stages: an empty scratch file is made beside the target, the bytes go there,
and the file takes the target's place. Each stage may fail, and when one of the last two
does the scratch file is removed. -/

namespace BlockWeave

/-- What a path names. -/
inductive Node where
  | file (bytes : List UInt8)
  | directory
  deriving Repr, DecidableEq

/-- The files and directories below the root. -/
structure Disk where
  nodes : Table Text Node
  /-- The most bytes that all files may have together. -/
  capacity : Option Nat := none
  deriving Repr, DecidableEq

namespace Disk

/-- A disk without files. -/
def empty : Disk := { nodes := [] }

/-- The most bytes that a file name may have. -/
def nameLimit : Nat := 255

/-- The number of bytes of a name. -/
def nameSize (name : Text) : Nat :=
  (Utf8.encode name).length

/-- The most bytes that a path may have. -/
def pathLimit : Nat := 4095

/-- A path can be asked for if it holds no null character and is not too long. -/
def checkPath (path : Text) : Except Error Unit :=
  if List.elem (Char.ofNat 0) path then .error .nullInPath
  else if pathLimit < nameSize path then .error .nameTooLong
  else .ok ()

/-- What a path names, the root being a directory. -/
def node? (disk : Disk) (path : Text) : Option Node :=
  if path = ['/'] then some .directory else disk.nodes.get? path

/-- Goes down from a directory along the parts of a path. Every part but the last
must name a directory, and no name may be too long. A double dot leads back to the
directory above. The result says where the last part stands. -/
def descend (disk : Disk) (above : List Text) : List Text → Except Error (List Text)
  | [] => .ok above
  | part :: rest =>
      match disk.node? (Path.absolute above) with
      | none => .error .notFound
      | some (.file _) => .error .notDirectory
      | some .directory =>
          if nameLimit < nameSize part then .error .nameTooLong
          else descend disk (if part = Path.up then above.dropLast else above ++ [part]) rest

/-- The place that a path names when it is read in a directory, where every double dot
is followed through a directory that exists. -/
def locate (disk : Disk) (directory path : Text) : Except Error Text := do
  let joined := Path.join directory path
  checkPath joined
  return Path.absolute (← disk.descend [] (Path.parts joined))

/-- What an absolute path names. -/
def find (disk : Disk) (path : Text) : Except Error Node := do
  checkPath path
  let _ ← disk.descend [] (Path.parts path)
  match disk.node? path with
  | some node => return node
  | none => throw .notFound

/-- A path names something. A name that is too long cannot be asked for. -/
def exists? (disk : Disk) (path : Text) : Except Error Bool :=
  match disk.find path with
  | .ok _ => .ok true
  | .error .nameTooLong => .error .nameTooLong
  | .error _ => .ok false

/-- A path names a file. -/
def isFile? (disk : Disk) (path : Text) : Except Error Bool :=
  match disk.find path with
  | .ok (.file _) => .ok true
  | .ok .directory => .ok false
  | .error .nameTooLong => .error .nameTooLong
  | .error _ => .ok false

/-- The bytes of a file. -/
def readBytes (disk : Disk) (path : Text) : Except Error (List UInt8) :=
  match disk.find path with
  | .ok (.file bytes) => .ok bytes
  | .ok .directory => .error .isDirectory
  | .error e => .error e

/-- A file that can be read is in the table. -/
theorem get?_of_readBytes {disk : Disk} {path : Text} {bytes : List UInt8}
    (h : disk.readBytes path = .ok bytes) : disk.nodes.get? path = some (.file bytes) := by
  simp only [readBytes] at h
  split at h
  next found hf =>
    simp only [find, bind, Except.bind] at hf
    split at hf
    · simp at hf
    · split at hf
      · simp at hf
      · split at hf
        next node hn =>
          simp only [pure, Except.pure, Except.ok.injEq] at hf h
          subst hf h
          simp only [node?] at hn
          split at hn
          · simp at hn
          · exact hn
        · simp [throw, throwThe, MonadExceptOf.throw] at hf
  · simp at h
  · simp at h

/-- The text of a file. The file is opened before the character set is looked up. -/
def readText (disk : Disk) (charset : Except Error Charset) (path : Text) : Except Error Text := do
  let bytes ← disk.readBytes path
  let set ← charset
  set.decode bytes

theorem readBytes_of_readText {disk : Disk} {charset : Except Error Charset} {path text : Text}
    (h : disk.readText charset path = .ok text) : ∃ bytes, disk.readBytes path = .ok bytes := by
  simp only [readText, bind, Except.bind] at h
  split at h
  · simp at h
  next bytes hb => exact ⟨bytes, hb⟩

/-- A file that can be read exists. -/
theorem exists?_of_readText {disk : Disk} {charset : Except Error Charset} {path text : Text}
    (h : disk.readText charset path = .ok text) : disk.exists? path = .ok true := by
  obtain ⟨bytes, hbytes⟩ := readBytes_of_readText h
  simp only [readBytes] at hbytes
  split at hbytes
  next found hfind => simp only [exists?, hfind]
  · cases hbytes
  · cases hbytes

/-- The disk with a file or directory at a path. -/
def put (disk : Disk) (path : Text) (node : Node) : Disk :=
  { disk with nodes := disk.nodes.put path node }

/-- The disk without what is at a path. -/
def remove (disk : Disk) (path : Text) : Disk :=
  { disk with nodes := disk.nodes.filter fun entry => entry.1 ≠ path }

/-- Makes a directory below an existing one, and the directories between them. A
double dot leads back to the directory above. What has been made stays when a later
part cannot be made. Once a directory had to be made, a file stands in the way of each
directory behind it; before that it does so only of the last one. The result says where
the directory stands. -/
def makeBelow (disk : Disk) (above : List Text) (made : Bool) :
    List Text → Except Error (List Text) × Disk
  | [] => (.ok above, disk)
  | part :: rest =>
      if part = Path.up then makeBelow disk above.dropLast made rest
      else if nameLimit < nameSize part then (.error .nameTooLong, disk)
      else
        let path := above ++ [part]
        match disk.node? (Path.absolute path) with
        | some .directory => makeBelow disk path made rest
        | some (.file _) =>
            (.error (if made ∨ rest = [] then .fileInTheWay else .notDirectory), disk)
        | none => makeBelow (disk.put (Path.absolute path) .directory) path true rest

/-- Makes the directory that a path stands in. -/
def makeParent (disk : Disk) (path : Text) : Except Error (List Text) × Disk :=
  match checkPath (Path.parent path) with
  | .error e => (.error e, disk)
  | .ok () => disk.makeBelow [] false (Path.parts path).dropLast

/-- The names that a scratch file for a target may have. -/
def scratchNames (target : Text) (count : Nat) : List Text :=
  (List.range count).map fun n =>
    let digits := (toString n).toList
    '.' :: Path.name target ++ '.' :: List.replicate (8 - digits.length) '0' ++ digits ++
      ['.', 't', 'm', 'p']

/-- The path of a scratch file that does not exist yet. -/
def scratchPath (disk : Disk) (target : Text) : Except Error Text :=
  let free := (scratchNames target (disk.nodes.length + 1)).find? fun name =>
    (disk.node? (Path.join (Path.parent target) name)).isNone
  match free with
  | none => .error .fileInTheWay
  | some name => do
      let path := Path.join (Path.parent target) name
      checkPath path
      if nameLimit < nameSize name then throw .nameTooLong
      return path

/-- Moves a file to another path, where a directory may not be. -/
def rename (disk : Disk) (source target : Text) : Except Error Disk :=
  match disk.node? source, disk.node? target with
  | none, _ => .error .notFound
  | some _, some .directory => .error .isDirectory
  | some node, _ => .ok ((disk.remove source).put target node)

/-- The number of bytes of a file; a directory has none. -/
def size : Node → Nat
  | .file bytes => bytes.length
  | .directory => 0

/-- The number of bytes that still find room. -/
def room? (disk : Disk) : Option Nat :=
  disk.capacity.map fun capacity =>
    capacity - disk.nodes.foldl (fun taken entry => taken + size entry.2) 0

/-- Writes bytes to an empty file. When they do not all find room, the first of them are
written and the rest is not. -/
def fill (disk : Disk) (path : Text) (bytes : List UInt8) : Except Error Unit × Disk :=
  match disk.room? with
  | none => (.ok (), disk.put path (.file bytes))
  | some room =>
      if bytes.length ≤ room then (.ok (), disk.put path (.file bytes))
      else (.error .noSpace, disk.put path (.file (bytes.take room)))

/-- Writes a file by way of a scratch file beside it. -/
def replaceFile (disk : Disk) (target : Text) (bytes : List UInt8) : Except Error Unit × Disk :=
  match disk.scratchPath target with
  | .error e => (.error e, disk)
  | .ok scratch =>
      match (disk.put scratch (.file [])).fill scratch bytes with
      | (.error e, staged) => (.error e, staged.remove scratch)
      | (.ok (), staged) =>
          match staged.rename scratch target with
          | .ok disk => (.ok (), disk)
          | .error e => (.error e, staged.remove scratch)

/-- Writes a content to a file, making the directories above it first. A path that
ends in a double dot names no file. The path itself is asked for as it is written, while
the scratch file is found without double dots. -/
def write (disk : Disk) (charset : Except Error Charset) (target : Text) (content : Content) :
    Except Error Unit × Disk :=
  match disk.makeParent target with
  | (.error e, disk) => (.error e, disk)
  | (.ok above, disk) =>
      match content.toBytes charset, (Path.parts target).getLast? with
      | .error e, _ => (.error e, disk)
      | .ok bytes, some name =>
          if name = Path.up then (.error .busy, disk)
          else
            match checkPath (Path.absolute (Path.parts target)) with
            | .error e => (.error e, disk)
            | .ok () => disk.replaceFile (Path.absolute (above ++ [name])) bytes
      | .ok _, none => (.error .busy, disk)

end Disk
end BlockWeave
