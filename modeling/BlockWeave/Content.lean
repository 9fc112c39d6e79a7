import BlockWeave.Codec.Charset

/-! # Content

What a block or a variant holds: text, or the bytes of a binary file. -/

namespace BlockWeave

/-- The content of a block or of a variant. -/
inductive Content where
  | text (text : Text)
  | bytes (bytes : List UInt8)
  deriving Repr, DecidableEq

namespace Content

/-- The content as text; the character set is looked up for bytes only, and does not
matter when there are none. -/
def toText (charset : Except Error Charset) : Content → Except Error Text
  | text t => .ok t
  | bytes b =>
      match charset with
      | .ok set => if b = [] then .ok [] else set.decode b
      | .error e => if e = .unknownCharset ∧ b = [] then .ok [] else .error e

/-- The content as bytes; the character set is looked up for text only. -/
def toBytes (charset : Except Error Charset) : Content → Except Error (List UInt8)
  | text t => charset.bind fun set => set.encode t
  | bytes b => .ok b

/-- The content as text, bytes being read as UTF-8. -/
def asText : Content → Text
  | text t => t
  | bytes b => Utf8.decode b

/-- The content as bytes, text being written as UTF-8. -/
def asBytes : Content → List UInt8
  | text t => Utf8.encode t
  | bytes b => b

/-- The number of characters or bytes. -/
def length : Content → Nat
  | text t => t.length
  | bytes b => b.length

end Content
end BlockWeave
