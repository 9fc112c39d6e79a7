import BlockWeave.BuiltIn
import BlockWeave.Command.Line

/-! # The program

The outer layer: it takes a picture of the files below the working directory and of
those beside the files that the arguments name, carries out the command line on it,
and puts what has changed back to disk. -/

namespace BlockWeave.Main

/-- How deeply references may be nested. -/
def depth : Nat := 1000

/-- The variables of the environment, from the block that the system keeps of them. -/
def environmentOf (block : List UInt8) : Config.Environment :=
  (Text.splitOn (Char.ofNat 0) (Utf8.decode block)).filterMap (Text.cutFirst? ['='])

/-- The directories whose files a command line may be about. -/
def roots (directory : Text) (arguments : List Text) : List Text :=
  let named := arguments.filterMap fun argument =>
    (Path.resolve directory argument).toOption.map Path.parent
  directory :: (named.filter fun root =>
    root ≠ ['/'] && !Text.startsWith (directory ++ ['/']) (root ++ ['/'])).eraseDups

/-- The directories that lead to a path. -/
def ancestors (path : Text) : List (Text × Node) :=
  (Disk.empty.makeParent (path ++ ['/', '.', '.', '.'])).2.nodes

/-- A picture of the files below a directory; what cannot be read is left out. -/
def snapshot (root : Text) : IO (List (Text × Node)) := do
  let here ← IO.currentDir
  let paths ← try (here / String.ofList root).walkDir catch _ => pure #[]
  paths.toList.filterMapM fun path => do
    let name := (toString path).toList
    try
      if ← path.isDir then return some (name, .directory)
      else return some (name, .file (← IO.FS.readBinFile path).toList)
    catch _ => return none

/-- Writes a file or makes a directory. -/
def restore (path : Text) : Node → IO Unit
  | .directory => IO.FS.createDirAll (String.ofList path)
  | .file bytes => IO.FS.writeBinFile (String.ofList path) ⟨bytes.toArray⟩

/-- The environment, or nothing where the system does not show it. -/
def environment : IO Config.Environment := do
  try return environmentOf (← IO.FS.readBinFile "/proc/self/environ").toList
  catch _ => return []

/-- Carries out a command line on the real disk. -/
def run (arguments : List Text) : IO UInt32 := do
  let directory := (toString (← IO.currentDir)).toList
  let directories := roots directory arguments
  let found ← directories.mapM snapshot
  let disk : Disk := { nodes := Table.ofList (directories.flatMap ancestors) ++ found.flatten }
  let world : Command.World := {
    directory
    environment := ← environment
    disk
    libraries := .builtIn }
  let outcome := Command.run depth world arguments
  for (path, node) in outcome.disk.nodes do
    unless disk.nodes.get? path = some node do
      restore path node
  IO.print outcome.output.stdout
  IO.eprint outcome.output.stderr
  match outcome.ending with
  | .ok code => return UInt32.ofNat code
  | .error e =>
      IO.eprintln ("Error: " ++ e.message)
      return 1

end BlockWeave.Main

/-- Runs the program on its command line. -/
def main (arguments : List String) : IO UInt32 :=
  BlockWeave.Main.run (arguments.map String.toList)
