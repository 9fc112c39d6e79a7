import BlockWeave.Processor.Script

/-! # The registry of processors

Processors are looked up by the name that a marker's `encoding` attribute gives. A
name may also be listed without a processor, and then stands for none. -/

namespace BlockWeave

/-- Names of encodings with their processors. -/
abbrev Registry := Table Text (Option Processor)

namespace Registry

/-- Lists a name, whatever it is. -/
def register (registry : Registry) (name : Text) (processor : Option Processor) : Registry :=
  Table.put registry name processor

/-- Adds or replaces a processor; both the name and the processor must be there. -/
def add (registry : Registry) (name : Text) (processor : Option Processor) :
    Except Error Registry :=
  if name = [] ∨ processor.isNone then .error .incompleteEncoding
  else .ok (registry.register name processor)

/-- The processor of a name. -/
def find? (registry : Registry) (name : Text) : Option Processor :=
  if name = [] then none else (Table.get? registry name).join

/-- All names in the order of their characters. -/
def sortedNames (registry : Registry) : List Text :=
  (Table.names registry).mergeSort Text.notAfter

end Registry
end BlockWeave
