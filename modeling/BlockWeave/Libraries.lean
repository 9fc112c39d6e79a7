import BlockWeave.Document
import BlockWeave.Error

/-! # Libraries

What the program leaves to libraries: reading documents, testing configurations against
a schema, and templates. -/

namespace BlockWeave

/-- The functions of the libraries that the program calls. -/
structure Libraries where
  /-- The document that a text writes. -/
  parse : Text → Except Error Document
  /-- Lets the configurations pass that follow the schema. -/
  validate : Value → Except Error Unit
  /-- A template, as what it writes for its data. -/
  compile : Text → Except Error (Fields → Except Error Text)

end BlockWeave
