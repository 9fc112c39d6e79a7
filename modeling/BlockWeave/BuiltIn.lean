import BlockWeave.Config.Schema
import BlockWeave.Libraries
import BlockWeave.Template.Evaluation
import BlockWeave.Yaml.Document

/-! # Libraries of the program's own

They do what the program needs of the libraries that it is meant to run with, for a part of
their languages. -/

namespace BlockWeave

/-- A reader, a validator and a template engine. -/
def Libraries.builtIn : Libraries where
  parse := Yaml.parse
  validate := Config.check
  compile source := (Template.compile source).map Template.render

end BlockWeave
