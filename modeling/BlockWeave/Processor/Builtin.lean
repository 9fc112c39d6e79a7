import BlockWeave.Codec.Base64
import BlockWeave.Codec.Md5
import BlockWeave.Processor.Script
import BlockWeave.Text.Literal
import BlockWeave.Text.Percent

/-! # Processors for standard encodings

Each of these is a function of the content alone. -/

namespace BlockWeave.Processor

/-- A processor that is a function of the content. -/
def ofFunction (label : String) (f : Content → Text) : Processor where
  label := label
  script := fun context => .done (.text (f context.content))

/-- The bytes of the content in base64. -/
def base64 : Processor :=
  ofFunction "base64" fun content => Base64.encode content.asBytes

/-- The MD5 digest of the bytes of the content. -/
def md5 : Processor :=
  ofFunction "md5" fun content => Md5.digest content.asBytes

/-- The content as a URI component. -/
def url : Processor :=
  ofFunction "url" fun content => Text.uriComponent content.asText

/-- The content with the characters that markup reserves as references. -/
def html : Processor :=
  ofFunction "html" fun content => Text.encodeEntities content.asText

/-- The content as a string literal. -/
def string : Processor :=
  ofFunction "string" fun content => Text.literal content.asText

/-- The content in the older percent encoding. -/
def escape : Processor :=
  ofFunction "escape" fun content => Text.escape content.asText

end BlockWeave.Processor
