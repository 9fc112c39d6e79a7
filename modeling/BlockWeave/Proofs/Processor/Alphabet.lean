import BlockWeave.Processor.Standard
import BlockWeave.Proofs.Discovery.Nesting
import BlockWeave.Proofs.Shorthand
import BlockWeave.Proofs.Text.Tidy

/-!
# The alphabet of the encodings

Four of the standard encodings write with few characters, whatever the content is: letters,
digits and some signs, among them no angle, no hash sign, no comma and no blank. In a text of
such characters there is nothing to tidy, no marker, and no shorthand; and neither is there in
any part of it.
-/

namespace BlockWeave

namespace Text

/-- The characters that the encodings write with: letters and digits of ASCII, and
`+/=%-_.!~*'()@`. -/
def isEncodedChar (c : Char) : Bool :=
  c.isAlphanum ||
    List.elem c ['+', '/', '=', '%', '-', '_', '.', '!', '~', '*', singleQuote, '(', ')', '@']

/-- A text in which only these characters stand. -/
def Encoded (s : Text) : Prop :=
  ∀ c ∈ s, isEncodedChar c = true

theorem isEncodedChar_of_isUriChar {c : Char} (h : isUriChar c = true) :
    isEncodedChar c = true := by
  simp only [isUriChar, isEncodedChar, Bool.or_eq_true, List.elem_iff, List.mem_cons,
    List.not_mem_nil, or_false] at h ⊢
  tauto

theorem isEncodedChar_of_isEscapeChar {c : Char} (h : isEscapeChar c = true) :
    isEncodedChar c = true := by
  simp only [isEscapeChar, isEncodedChar, Bool.or_eq_true, List.elem_iff, List.mem_cons,
    List.not_mem_nil, or_false] at h ⊢
  tauto

theorem not_isTrailingBlank_of_isEncodedChar {c : Char} (h : isEncodedChar c = true) :
    isTrailingBlank c = false := by
  rw [Bool.eq_false_iff]
  intro hblank
  simp only [isTrailingBlank, Bool.or_eq_true, beq_iff_eq] at hblank
  rcases hblank with ((rfl | rfl) | htab) | hfeed
  · exact absurd h (by decide)
  · exact absurd h (by decide)
  · obtain rfl : c = Char.ofNat 0x0b := Char.toNat_inj.1 htab
    exact absurd h (by decide)
  · obtain rfl : c = Char.ofNat 0x0c := Char.toNat_inj.1 hfeed
    exact absurd h (by decide)

namespace Encoded

variable {s t : Text}

theorem nil : Encoded [] := by simp [Encoded]

theorem cons {c : Char} (hc : isEncodedChar c = true) (h : Encoded s) : Encoded (c :: s) :=
  List.forall_mem_cons.2 ⟨hc, h⟩

theorem append (h : Encoded s) (h' : Encoded t) : Encoded (s ++ t) :=
  List.forall_mem_append.2 ⟨h, h'⟩

theorem flatMap {α : Type} {xs : List α} {f : α → Text} (h : ∀ x ∈ xs, Encoded (f x)) :
    Encoded (xs.flatMap f) := by
  intro c hc
  obtain ⟨x, hx, hc⟩ := List.mem_flatMap.1 hc
  exact h x hx c hc

theorem of_sublist (h : Encoded s) (ht : t.Sublist s) : Encoded t :=
  fun c hc => h c (ht.subset hc)

theorem notMem (h : Encoded s) {c : Char} (hc : isEncodedChar c = false) : c ∉ s :=
  fun hmem => Bool.false_ne_true (hc.symm.trans (h c hmem))

theorem tidy_eq (h : Encoded s) : tidy s = s :=
  tidy_of_notMem (h.notMem (by decide)) fun c hc =>
    not_isTrailingBlank_of_isEncodedChar (h c (List.mem_of_getLast? hc))

theorem free (h : Encoded s) : Shorthand.Free s :=
  Shorthand.free_of_notMem (h.notMem (by decide)) (h.notMem (by decide))

end Encoded
end Text

/-- A marker needs an angle. -/
theorem markers_eq_nil_of_notMem {text : Text} (h : '<' ∉ text) (offset : Int) :
    markers offset text = [] := by
  rw [List.eq_nil_iff_forall_not_mem]
  intro marker hmarker
  obtain ⟨before, rest, rfl, -⟩ := exists_place_of_mem_markers hmarker
  have hopening : '<' ∈ marker.opening := by
    rw [Marker.opening]
    cases marker.family with
    | html => decide
    | block => decide
  exact h (by simp [Marker.text, Marker.rebuild, Marker.head, hopening])

/-- The encodings that write with few characters. -/
inductive Encoding where
  | base64
  | md5
  | url
  | escape

namespace Encoding

open Text (Encoded isEncodedChar isEncodedChar_of_isUriChar isEncodedChar_of_isEscapeChar)

/-- The name that a marker gives for the encoding. -/
def name : Encoding → Text
  | base64 => ['b', 'a', 's', 'e', '6', '4']
  | md5 => ['m', 'd', '5']
  | url => ['u', 'r', 'l']
  | escape => ['e', 's', 'c', 'a', 'p', 'e']

/-- The processor that is always there for the encoding. -/
def processor : Encoding → Processor
  | base64 => .base64
  | md5 => .md5
  | url => .url
  | escape => .escape

/-- What a content is written as. -/
def encode : Encoding → Content → Text
  | base64, content => Base64.encode content.asBytes
  | md5, content => Md5.digest content.asBytes
  | url, content => Text.uriComponent content.asText
  | escape, content => Text.escape content.asText

theorem find?_encodings (encoding : Encoding) :
    Registry.encodings.find? encoding.name = some encoding.processor := by
  cases encoding with
  | base64 => rfl
  | md5 => rfl
  | url => rfl
  | escape => rfl

theorem exists_ofFunction (encoding : Encoding) :
    ∃ label, encoding.processor = Processor.ofFunction label encoding.encode := by
  cases encoding with
  | base64 => exact ⟨_, rfl⟩
  | md5 => exact ⟨_, rfl⟩
  | url => exact ⟨_, rfl⟩
  | escape => exact ⟨_, rfl⟩

theorem isEncodedChar_digit (n : Nat) : isEncodedChar (Base64.digit n) = true := by
  have hsmall : ∀ n < 62, isEncodedChar (Base64.digit n) = true := by decide
  rcases Nat.lt_or_ge n 62 with h | h
  · exact hsmall n h
  · rcases Nat.eq_or_lt_of_le h with rfl | h
    · rfl
    · have hslash : Base64.digit n = '/' := by
        simp [Base64.digit, show ¬n < 26 by omega, show ¬n < 52 by omega, show ¬n < 62 by omega,
          show n ≠ 62 by omega]
      rw [hslash]
      rfl

theorem encoded_base64 (bytes : List UInt8) : Encoded (Base64.encode bytes) := by
  fun_induction Base64.encode bytes with
  | case1 => exact .nil
  | case2 a n => exact .cons (isEncodedChar_digit _) (.cons (isEncodedChar_digit _)
      (.cons rfl (.cons rfl .nil)))
  | case3 a b n => exact .cons (isEncodedChar_digit _) (.cons (isEncodedChar_digit _)
      (.cons (isEncodedChar_digit _) (.cons rfl .nil)))
  | case4 a b c bytes n ih => exact .cons (isEncodedChar_digit _) (.cons (isEncodedChar_digit _)
      (.cons (isEncodedChar_digit _) (.cons (isEncodedChar_digit _) ih)))

/-- A number is written with the digits that it is given. -/
theorem encoded_hexPadded {digit : Nat → Char}
    (h : ∀ n < 16, isEncodedChar (digit n) = true) (width n : Nat) :
    Encoded (Text.hexPadded digit width n) := by
  induction width generalizing n with
  | zero => exact .nil
  | succ width ih => exact (ih (n / 16)).append (.cons (h _ (Nat.mod_lt n (by decide))) .nil)

theorem encoded_digest (bytes : List UInt8) : Encoded (Md5.digest bytes) :=
  .flatMap fun _ _ => .flatMap fun _ _ => encoded_hexPadded (by decide) 2 _

theorem encoded_uriComponent (s : Text) : Encoded (Text.uriComponent s) := by
  refine .flatMap fun b _ => ?_
  rw [Text.uriByte]
  split
  next hchar => exact .cons (isEncodedChar_of_isUriChar hchar) .nil
  next => exact .cons rfl (encoded_hexPadded (by decide) 2 _)

theorem encoded_escapeUnit (unit : Nat) : Encoded (Text.escapeUnit unit) := by
  rw [Text.escapeUnit]
  split
  · exact .cons rfl (encoded_hexPadded (by decide) 2 _)
  · exact .cons rfl (.cons rfl (encoded_hexPadded (by decide) 4 _))

theorem encoded_escape (s : Text) : Encoded (Text.escape s) := by
  refine .flatMap fun c _ => ?_
  rw [Text.escapeChar]
  split
  next hchar => exact .cons (isEncodedChar_of_isEscapeChar hchar) .nil
  next => exact .flatMap fun unit _ => encoded_escapeUnit unit

/-- Any content is written in the alphabet. -/
theorem encoded_encode (encoding : Encoding) (content : Content) :
    Encoded (encoding.encode content) := by
  cases encoding with
  | base64 => exact encoded_base64 _
  | md5 => exact encoded_digest _
  | url => exact encoded_uriComponent _
  | escape => exact encoded_escape _

end Encoding
end BlockWeave
