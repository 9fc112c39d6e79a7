import BlockWeave.Text.Quoted

/-! # Names of blocks

A block is named by the file it stands in and by its tag. The empty tag names the
whole file. -/

namespace BlockWeave

/-- The name of a block. -/
structure BlockKey where
  file : Text
  tag : Text
  deriving Repr, DecidableEq

namespace BlockKey

/-- The name of a whole file. -/
def ofFile (file : Text) : BlockKey :=
  ⟨file, []⟩

/-- A block's name in a message: the pair of its quoted parts. -/
def shown (key : BlockKey) : String :=
  String.ofList ('(' :: Text.quoted key.file ++ [',', ' '] ++ Text.quoted key.tag ++ [')'])

/-- A block's name in running text: the file, and the tag after a hash sign. -/
def label (key : BlockKey) : String :=
  if key.tag = [] then String.ofList key.file
  else String.ofList (key.file ++ '#' :: key.tag)

end BlockKey
end BlockWeave
