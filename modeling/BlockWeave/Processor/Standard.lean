import BlockWeave.Processor.Builtin
import BlockWeave.Processor.Registry
import BlockWeave.Processor.Template

/-! # The standard registry -/

namespace BlockWeave.Registry

/-- The processors that need no library. -/
def encodings : Registry := [
  (['b', 'a', 's', 'e', '6', '4'], some Processor.base64),
  (['m', 'd', '5'], some Processor.md5),
  (['u', 'r', 'l'], some Processor.url),
  (['h', 't', 'm', 'l'], some Processor.html),
  (['s', 't', 'r', 'i', 'n', 'g'], some Processor.string),
  (['e', 's', 'c', 'a', 'p', 'e'], some Processor.escape)]

/-- The processors that are always there. -/
def standard (libraries : Libraries) : Registry :=
  encodings ++
    [(['t', 'e', 'm', 'p', 'l', 'a', 't', 'e'], some (Processor.template libraries))]

end BlockWeave.Registry
