import BlockWeave.Error

/-! # Paths

Paths are texts with parts between slashes. Resolving a path is done on the text
alone: empty parts and single dots are dropped, and a double dot takes away the
part before it, if there is one. -/

namespace BlockWeave.Path

/-- The single dot. -/
def here : Text := ['.']

/-- The double dot. -/
def up : Text := ['.', '.']

/-- The parts of a path that say something. -/
def parts (path : Text) : List Text :=
  (Text.splitOn '/' path).filter fun part => part ≠ [] ∧ part ≠ here

/-- A path from the root. -/
def isAbsolute (path : Text) : Bool :=
  path.head? == some '/'

/-- The absolute path with the given parts. -/
def absolute (parts : List Text) : Text :=
  '/' :: Text.join ['/'] parts

/-- A list of parts, the last of them first, with one more part taken into account. -/
def climb (parts : List Text) (part : Text) : List Text :=
  if part = up then parts.drop 1 else part :: parts

/-- Parts without double dots. -/
def normal (parts : List Text) : List Text :=
  (parts.foldl climb []).reverse

/-- The absolute path that a path names when it is read in a directory. -/
def resolve (base path : Text) : Except Error Text :=
  let joined := if isAbsolute path then parts path else parts base ++ parts path
  if joined.any (fun part => List.elem (Char.ofNat 0) part) then .error .nullInPath
  else .ok (absolute (normal joined))

/-- The directory that an absolute path stands in. -/
def parent (path : Text) : Text :=
  absolute ((parts path).dropLast)

/-- The last part of a path. -/
def name (path : Text) : Text :=
  (parts path).getLast?.getD []

/-- What follows the last period of a name, unless that period is its first or its
last character. -/
def extension (path : Text) : Text :=
  let name := name path
  let tail := (name.reverse.takeWhile (· != '.')).reverse
  if tail.length + 1 < name.length then tail else []

/-- A path as it is shown: without empty parts and single dots. Two slashes at the
start are kept, more are one. -/
def shown (path : Text) : Text :=
  let body := Text.join ['/'] (parts path)
  let slashes := (path.takeWhile (· == '/')).length
  if slashes = 0 then if body = [] then here else body
  else if slashes = 2 then '/' :: '/' :: body
  else '/' :: body

/-- A path read in a directory, neither of them resolved. A directory that ends with a
slash needs no other one. -/
def join (base path : Text) : Text :=
  if isAbsolute path then shown path
  else if base.getLast? = some '/' then shown (base ++ path)
  else shown (base ++ '/' :: path)

end BlockWeave.Path
