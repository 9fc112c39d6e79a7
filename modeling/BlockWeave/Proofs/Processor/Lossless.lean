import BlockWeave.Processor.Builtin
import BlockWeave.Proofs.Codec.Base64
import BlockWeave.Proofs.Text.Percent

/-!
# Encodings that lose nothing

From what the processors for base64 and for URI components write, the bytes of the content can be
read back, and only the characters of their formats are written.
-/

namespace BlockWeave.Processor

/-- The processor for base64 writes the bytes of any content, text in UTF-8, so that they are
read back: four characters of the alphabet for three bytes, with padding at the end. The
processor for URI components writes the UTF-8 bytes of any text so that they are read back, each
as a character that stands for itself or as two digits behind a percent sign. -/
theorem encodings_lossless (context : Context) :
    (∃ out, base64.script context = .done (.text out) ∧
      Base64.decode? out = some context.content.asBytes ∧
      out.length = 4 * ((context.content.asBytes.length + 2) / 3) ∧
      ∃ body, out = body ++ List.replicate ((3 - context.content.asBytes.length % 3) % 3) '=' ∧
        ∀ c ∈ body, c ∈ Base64.alphabet) ∧
    (∀ s : Text, ∃ out, url.script { context with content := .text s } = .done (.text out) ∧
      Text.percentDecode out = (String.ofList s).toUTF8.data.toList ∧
      ∃ pieces : List Text, out = pieces.flatten ∧ ∀ piece ∈ pieces, Text.IsUriPiece piece) := by
  constructor
  · refine ⟨_, rfl, ?_, ?_, ?_⟩
    · exact Base64.decode?_encode _
    · exact Base64.length_encode _
    · exact Base64.exists_encode_eq _
  · intro s
    refine ⟨Text.uriComponent s, rfl, ?_, ?_⟩
    · rw [← Utf8.encode_eq]
      exact Text.percentDecode_uriComponent s
    · refine ⟨(Utf8.encode s).map Text.uriByte, rfl, ?_⟩
      intro piece hpiece
      obtain ⟨b, -, rfl⟩ := List.mem_map.1 hpiece
      exact Text.isUriPiece_uriByte b

end BlockWeave.Processor
