import BlockWeave.Block

/-! # What can go wrong

Every failure of the library is one of the causes below. Operations return the
cause; the wording is `Error.message`. -/

namespace BlockWeave

/-- What can be wrong with a configuration. -/
inductive ConfigFault where
  /-- The file is no document of the configuration language. -/
  | malformed (path : Text)
  /-- The document is not a mapping. -/
  | notMapping (path : Text)
  /-- The file that was asked for does not exist. -/
  | missing (path : Text)
  /-- A value at a place of the configuration breaks a rule. -/
  | violation (place : String) (text : String)
  deriving Repr, DecidableEq

namespace ConfigFault

/-- The fault in words. -/
def message : ConfigFault → String
  | malformed path => "Invalid YAML in " ++ String.ofList path ++ ": malformed document"
  | notMapping path => "Config root must be a mapping: " ++ String.ofList path
  | missing path => "Config file not found: " ++ String.ofList path
  | violation place text => "Invalid configuration at " ++ place ++ ": " ++ text

/-- The file or the place of the configuration that the fault is about. -/
def place : ConfigFault → String
  | malformed path | notMapping path | missing path => String.ofList path
  | violation place _ => place

end ConfigFault

/-- The cause of a failure. -/
inductive Error where
  /-- A block was asked for while it was being resolved. -/
  | circular (key : BlockKey) (chain : List BlockKey)
  /-- A configuration could not be loaded or is not valid. -/
  | configuration (fault : ConfigFault)
  /-- A block got its content a second time. -/
  | alreadyResolved (key : BlockKey)
  /-- A block was created a second time. -/
  | recordExists (key : BlockKey)
  /-- The block that was left is not the innermost one. -/
  | chainOutOfOrder (popped key : BlockKey)
  /-- A block was left while none was being resolved. -/
  | chainEmpty
  /-- An encoding needs a name and a processor. -/
  | incompleteEncoding
  /-- A processor gave up. -/
  | processorFailed (reason : String)
  /-- A processor needs an attribute that is not there. -/
  | missingAttribute (name : Text)
  /-- An integer has more digits than are read. -/
  | digitLimit (digits : Nat)
  /-- An integer has more digits than are written. -/
  | writtenDigitLimit
  /-- A number is out of the range that the operation takes. -/
  | outOfRange
  /-- A path holds the null character. -/
  | nullInPath
  /-- A path names nothing. -/
  | notFound
  /-- A path names a directory where a file is needed. -/
  | isDirectory
  /-- A path names a file where a directory must be made. -/
  | fileInTheWay
  /-- A path goes through a file. -/
  | notDirectory
  /-- A path names a directory that is in use. -/
  | busy
  /-- A file name is too long. -/
  | nameTooLong
  /-- The files have no room for more bytes. -/
  | noSpace
  /-- No character set has the name. -/
  | unknownCharset
  /-- A character has no code in the character set. -/
  | unencodable
  /-- Bytes are no text of the character set. -/
  | undecodable
  /-- An option that does not exist was given a value. -/
  | unexpectedOption
  /-- An override names an option that does not exist. -/
  | unknownOption (name : String)
  /-- A value has a type that the operation does not take. -/
  | wrongType
  /-- An item of a list of texts is no text. -/
  | notText
  /-- A value is no mapping. -/
  | notMapping
  /-- A mapping does not have the key. -/
  | missingKey
  /-- An item of a list of pairs is no pair. -/
  | notPair (index length : Nat)
  /-- A data document is malformed. -/
  | malformedData
  /-- A number of a data document has a base and no digits. -/
  | missingDigits (base : Nat)
  /-- An escape of a data document names a character that does not exist. -/
  | noSuchCharacter
  /-- A template is malformed. -/
  | malformedTemplate
  /-- A template uses a filter or a test that does not exist. -/
  | unknownFilter
  /-- A loop of a template gives a value to the name of its state. -/
  | loopAssigned
  /-- A call in a template names an argument twice. -/
  | repeatedArgument
  /-- A filter that does not exist was reached in a branch of a template. -/
  | missingFilter
  /-- A template gives a value to a member of something that has none. -/
  | memberAssigned
  /-- A value is not one of those that the operation takes. -/
  | invalidValue (text : String)
  /-- A template uses a value that does not exist. -/
  | undefinedValue (text : String)
  /-- A template gives values to a different number of names. -/
  | unpacking (expected got : Nat)
  /-- A template divides by zero. -/
  | divisionByZero
  /-- References are nested deeper than the limit. -/
  | depthExceeded
  deriving Repr, DecidableEq

namespace Error

/-- The cause in words. -/
def message : Error → String
  | circular key _ => "Circular reference block: " ++ key.label
  | configuration fault => fault.message
  | alreadyResolved key => "Block already resolved: " ++ key.shown
  | recordExists key => "Block record already exists: " ++ key.shown
  | chainOutOfOrder popped key =>
      "Resolution chain out of order: " ++ popped.shown ++ " != " ++ key.shown
  | chainEmpty => "no block is being resolved"
  | incompleteEncoding => "Encoding name and processor are required"
  | processorFailed reason => reason
  | missingAttribute name => "missing attribute " ++ String.ofList name
  | digitLimit digits =>
      "Exceeds the limit (4300 digits) for integer string conversion: value has " ++
        toString digits ++ " digits; use sys.set_int_max_str_digits() to increase the limit"
  | writtenDigitLimit =>
      "Exceeds the limit (4300 digits) for integer string conversion; " ++
        "use sys.set_int_max_str_digits() to increase the limit"
  | outOfRange => "a number is out of range"
  | nullInPath => "embedded null byte"
  | notFound => "no such file"
  | isDirectory => "is a directory"
  | fileInTheWay => "a file is in the way"
  | notDirectory => "not a directory"
  | busy => "the directory is in use"
  | nameTooLong => "file name too long"
  | noSpace => "no space is left"
  | unknownCharset => "unknown character set"
  | unencodable => "a character has no code in the character set"
  | undecodable => "the bytes are no text of the character set"
  | unexpectedOption => "unexpected build option"
  | unknownOption name => "Unknown build option: " ++ name
  | wrongType => "wrong type of value"
  | notText => "an item is no text"
  | notMapping => "a value is no mapping"
  | missingKey => "a key is missing"
  | notPair index length =>
      "dictionary update sequence element #" ++ toString index ++ " has length " ++
        toString length ++ "; 2 is required"
  | malformedData => "malformed data document"
  | missingDigits base => "invalid literal for int() with base " ++ toString base ++ ": \x27\x27"
  | noSuchCharacter => "chr() arg not in range(0x110000)"
  | malformedTemplate => "malformed template"
  | unknownFilter => "unknown filter"
  | missingFilter => "missing filter"
  | loopAssigned => "the state of a loop cannot be given a value"
  | repeatedArgument => "an argument is named twice"
  | memberAssigned => "only the members of a namespace can be given a value"
  | invalidValue text => text
  | undefinedValue text => text
  | unpacking expected got =>
      if expected < got then
        "too many values to unpack (expected " ++ toString expected ++ ")"
      else
        "not enough values to unpack (expected " ++ toString expected ++ ", got " ++
          toString got ++ ")"
  | divisionByZero => "division by zero"
  | depthExceeded => "references are nested too deeply"

end Error
end BlockWeave
