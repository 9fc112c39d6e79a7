import BlockWeave.Text.Percent
import Mathlib.Tactic.SplitIfs

/-!
# Percent encodings are read back

Both percent encodings write a character as it is or as a percent sign with a fixed number of
digits, and never write a bare percent sign; so a reader that goes from left to right meets what
was written piece by piece. What it reads are the 16-bit units of the text for the older escape,
and the bytes of the text in UTF-8 for a URI component.
-/

namespace BlockWeave

namespace Utf8

/-- A character is written in UTF-8 as the standard library writes it. -/
theorem encodeChar_eq (c : Char) : encodeChar c = String.utf8EncodeChar c := by
  have hvalid : c.toNat < 0xd800 ∨ 0xdfff < c.toNat ∧ c.toNat < 0x110000 := c.valid
  have hval : c.val.toNat = c.toNat := rfl
  have hone : c.toNat ≤ 127 ↔ c.toNat < 0x80 := by omega
  have htwo : c.toNat ≤ 2047 ↔ c.toNat < 0x800 := by omega
  have hthree : c.toNat ≤ 65535 ↔ c.toNat < 0x10000 := by omega
  simp only [encodeChar, continuation, String.utf8EncodeChar, hval, hone, htwo, hthree]
  generalize c.toNat = n at hvalid
  split_ifs with h1 h2 h3
  · rfl
  · rw [show 0xc0 + n / 0x40 = n / 64 % 32 + 192 by omega, Nat.add_comm 0x80]
  · rw [show 0xe0 + n / 0x1000 = n / 4096 % 16 + 224 by omega, Nat.add_comm 0x80,
      Nat.add_comm 0x80]
  · rw [show 0xf0 + n / 0x40000 = n / 262144 % 8 + 240 by omega, Nat.add_comm 0x80,
      Nat.add_comm 0x80, Nat.add_comm 0x80]

/-- The bytes of a text are those of the string of its characters. -/
theorem encode_eq (s : Text) : encode s = (String.ofList s).toUTF8.data.toList := by
  rw [String.toUTF8_eq_toByteArray, String.toByteArray_ofList, List.utf8Encode,
    List.data_toByteArray, encode, funext encodeChar_eq]

end Utf8

namespace Text

section Hexadecimal

/-- The hexadecimal digits in upper case. -/
def upperHexDigits : Text :=
  ['0', '1', '2', '3', '4', '5', '6', '7', '8', '9', 'A', 'B', 'C', 'D', 'E', 'F']

theorem hexValue?_hexDigitUpper {n : Nat} (h : n < 16) :
    hexValue? (hexDigitUpper n) = some n := by
  have hall : ∀ n < 16, hexValue? (hexDigitUpper n) = some n := by decide
  exact hall n h

theorem hexDigitUpper_mem (n : Nat) : hexDigitUpper (n % 16) ∈ upperHexDigits := by
  have hall : ∀ n < 16, hexDigitUpper n ∈ upperHexDigits := by decide
  exact hall (n % 16) (Nat.mod_lt n (by decide))

theorem hexPadded_subset (width n : Nat) : hexPadded hexDigitUpper width n ⊆ upperHexDigits := by
  induction width generalizing n with
  | zero => exact List.nil_subset _
  | succ width ih =>
      intro c hc
      rcases List.mem_append.1 hc with hc | hc
      · exact ih (n / 16) hc
      · rw [List.mem_singleton.1 hc]
        exact hexDigitUpper_mem n

theorem isAlphanum_of_mem_upperHexDigits {c : Char} (h : c ∈ upperHexDigits) :
    c.isAlphanum = true := by
  have hall : ∀ c ∈ upperHexDigits, c.isAlphanum = true := List.all_eq_true.1 (by decide)
  exact hall c h

/-- Upper-case digits are read as digits. -/
theorem all_isSome_hexValue? {digits : Text} (h : ∀ c ∈ digits, c ∈ upperHexDigits) :
    (digits.all fun c => (hexValue? c).isSome) = true := by
  have hall : ∀ c ∈ upperHexDigits, (hexValue? c).isSome = true :=
    List.all_eq_true.1 (by decide)
  exact List.all_eq_true.2 fun c hc => hall c (h c hc)

/-- Digits write the number that they were taken from, if there are enough of them. -/
theorem ofHex_hexPadded {width n : Nat} (h : n < Nat.pow 16 width) :
    ofHex (hexPadded hexDigitUpper width n) = n := by
  induction width generalizing n with
  | zero =>
      obtain rfl : n = 0 := Nat.lt_one_iff.1 h
      rfl
  | succ width ih =>
      have hbound : n < Nat.pow 16 width * 16 := h
      have hrest : ofHex (hexPadded hexDigitUpper width (n / 16)) = n / 16 := ih (by omega)
      rw [ofHex] at hrest
      rw [hexPadded, ofHex, List.foldl_append, hrest, List.foldl_cons, List.foldl_nil,
        hexValue?_hexDigitUpper (Nat.mod_lt n (by decide))]
      change n / 16 * 16 + n % 16 = n
      omega

end Hexadecimal

section Escape

/-- The units that an escaped text writes: four digits behind `%u` or two behind `%` are one
unit, and any other character stands for its own code. -/
def unescape : Text → List Nat
  | '%' :: 'u' :: a :: b :: c :: d :: s =>
      if [a, b, c, d].all fun x => (hexValue? x).isSome then ofHex [a, b, c, d] :: unescape s
      else '%'.toNat :: unescape ('u' :: a :: b :: c :: d :: s)
  | '%' :: a :: b :: s =>
      if [a, b].all fun x => (hexValue? x).isSome then ofHex [a, b] :: unescape s
      else '%'.toNat :: unescape (a :: b :: s)
  | c :: s => c.toNat :: unescape s
  | [] => []

/-- The units of a text in UTF-16: a character of the first plane is one unit, and any other
character is a pair of a high and a low unit. -/
inductive IsUtf16 : Text → List Nat → Prop where
  | nil : IsUtf16 [] []
  | single {c : Char} {s : Text} {units : List Nat} {unit : Nat} (hplane : unit < 0x10000)
      (hcode : c.toNat = unit) (hrest : IsUtf16 s units) : IsUtf16 (c :: s) (unit :: units)
  | pair {c : Char} {s : Text} {units : List Nat} {high low : Nat}
      (hhigh : 0xd800 ≤ high ∧ high < 0xdc00) (hlow : 0xdc00 ≤ low ∧ low < 0xe000)
      (hcode : c.toNat = 0x10000 + (high - 0xd800) * 0x400 + (low - 0xdc00))
      (hrest : IsUtf16 s units) : IsUtf16 (c :: s) (high :: low :: units)

namespace IsUtf16

variable {s t : Text} {units others : List Nat}

/-- A text has one list of units. -/
theorem unique (h : IsUtf16 s units) (hother : IsUtf16 s others) : units = others := by
  induction h generalizing others with
  | nil =>
      cases hother
      rfl
  | single hplane hcode hrest ih =>
      cases hother with
      | single hplane' hcode' hrest' => rw [ih hrest', ← hcode, ← hcode']
      | pair hhigh hlow hcode' hrest' => omega
  | pair hhigh hlow hcode hrest ih =>
      cases hother with
      | single hplane hcode' hrest' => omega
      | pair hhigh' hlow' hcode' hrest' =>
          rw [ih hrest', List.cons.injEq, List.cons.injEq]
          refine ⟨?_, ?_, rfl⟩ <;> omega

/-- Units write one text, since no character has a code among the high units. -/
theorem inj (h : IsUtf16 s units) (hother : IsUtf16 t units) : s = t := by
  have hvalid (c : Char) : c.toNat < 0xd800 ∨ 0xdfff < c.toNat ∧ c.toNat < 0x110000 := c.valid
  induction h generalizing t with
  | nil =>
      cases hother
      rfl
  | @single c s units unit hplane hcode hrest ih =>
      cases hother with
      | single hplane' hcode' hrest' =>
          rw [ih hrest', Char.toNat_inj.1 (hcode.trans hcode'.symm)]
      | pair hhigh hlow hcode' hrest' =>
          have hc := hvalid c
          omega
  | @pair c s units high low hhigh hlow hcode hrest ih =>
      cases hother with
      | @single d _ _ _ hplane hcode' hrest' =>
          have hd := hvalid d
          omega
      | pair hhigh' hlow' hcode' hrest' =>
          rw [ih hrest', Char.toNat_inj.1 (hcode.trans hcode'.symm)]

end IsUtf16

theorem unescape_of_ne {c : Char} (h : c ≠ '%') (s : Text) :
    unescape (c :: s) = c.toNat :: unescape s := by
  rw [unescape]
  · intro _ _ _ _ _ hc _
    exact h hc
  · intro _ _ _ hc _
    exact h hc

theorem unescape_two {a b : Char} (h : ∀ c ∈ [a, b], c ∈ upperHexDigits) (s : Text) :
    unescape ('%' :: a :: b :: s) = ofHex [a, b] :: unescape s := by
  have hu : a ≠ 'u' := by
    rintro rfl
    have hmem := h 'u' (by simp)
    exact absurd hmem (by decide)
  rw [unescape, if_pos (all_isSome_hexValue? h)]
  intro _ _ _ _ hu' _
  exact hu hu'

theorem unescape_four {a b c d : Char} (h : ∀ x ∈ [a, b, c, d], x ∈ upperHexDigits) (s : Text) :
    unescape ('%' :: 'u' :: a :: b :: c :: d :: s) = ofHex [a, b, c, d] :: unescape s := by
  rw [unescape, if_pos (all_isSome_hexValue? h)]

/-- An escaped unit is read back, whatever follows it. -/
theorem unescape_escapeUnit {unit : Nat} (h : unit < 0x10000) (s : Text) :
    unescape (escapeUnit unit ++ s) = unit :: unescape s := by
  rw [escapeUnit]
  split
  next hsmall =>
    have hread : ofHex (hexPadded hexDigitUpper 2 unit) = unit := ofHex_hexPadded hsmall
    exact (unescape_two (hexPadded_subset 2 unit) s).trans (congrArg (· :: unescape s) hread)
  next hlarge =>
    have hread : ofHex (hexPadded hexDigitUpper 4 unit) = unit := ofHex_hexPadded h
    exact (unescape_four (hexPadded_subset 4 unit) s).trans (congrArg (· :: unescape s) hread)

theorem lt_of_isAlphanum {c : Char} (h : c.isAlphanum = true) : c.toNat < 0x80 := by
  rcases Bool.or_eq_true_iff.1 h with halpha | hdigit
  · rcases Bool.or_eq_true_iff.1 halpha with hupper | hlower
    · have hle := (of_decide_eq_true hupper).2
      exact Nat.lt_of_le_of_lt (UInt32.le_iff_toNat_le.1 hle) (by decide)
    · have hle := of_decide_eq_true (Bool.and_eq_true_iff.1 hlower).2
      exact Nat.lt_of_le_of_lt (UInt32.le_iff_toNat_le.1 hle) (by decide)
  · exact Nat.lt_of_le_of_lt (Char.isDigit_iff_toNat.1 hdigit).2 (by decide)

theorem lt_of_isEscapeChar {c : Char} (h : isEscapeChar c = true) : c.toNat < 0x80 := by
  rcases Bool.or_eq_true_iff.1 h with h | h
  · exact lt_of_isAlphanum h
  · have hall : ∀ c ∈ ['@', '*', '_', '+', '-', '.', '/'], c.toNat < 0x80 := by simp
    exact hall c (List.elem_iff.1 h)

/-- The units that a character is escaped by are its units in UTF-16. -/
theorem isUtf16_units16 (c : Char) {s : Text} {units : List Nat} (h : IsUtf16 s units) :
    IsUtf16 (c :: s) (units16 c ++ units) := by
  have hvalid : c.toNat < 0xd800 ∨ 0xdfff < c.toNat ∧ c.toNat < 0x110000 := c.valid
  rw [units16]
  split
  next hplane => exact IsUtf16.single hplane rfl h
  next hplane =>
    apply IsUtf16.pair _ _ _ h
    all_goals omega

theorem unescape_units (units : List Nat) (h : ∀ unit ∈ units, unit < 0x10000) (s : Text) :
    unescape (units.flatMap escapeUnit ++ s) = units ++ unescape s := by
  induction units with
  | nil => rfl
  | cons unit units ih =>
      rw [List.flatMap_cons, List.append_assoc, unescape_escapeUnit (h unit (by simp)),
        ih fun other ho => h other (by simp [ho])]
      rfl

theorem lt_of_mem_units16 {c : Char} {unit : Nat} (h : unit ∈ units16 c) : unit < 0x10000 := by
  have hvalid : c.toNat < 0xd800 ∨ 0xdfff < c.toNat ∧ c.toNat < 0x110000 := c.valid
  rw [units16] at h
  split at h
  · rw [List.mem_singleton.1 h]
    assumption
  · simp only [List.mem_cons, List.not_mem_nil, or_false] at h
    omega

/-- An escaped text is read back as the units of the text. -/
theorem isUtf16_unescape (s : Text) : IsUtf16 s (unescape (escape s)) := by
  induction s with
  | nil => exact IsUtf16.nil
  | cons c s ih =>
      have hcons : escape (c :: s) = escapeChar c ++ escape s := List.flatMap_cons
      rw [hcons, escapeChar]
      split
      next hplain =>
        have hne : c ≠ '%' := by
          rintro rfl
          contradiction
        have hlt := lt_of_isEscapeChar hplain
        rw [List.singleton_append, unescape_of_ne hne]
        exact IsUtf16.single (by omega) rfl ih
      next =>
        rw [unescape_units _ (fun unit hunit => lt_of_mem_units16 hunit)]
        exact isUtf16_units16 c ih

theorem alphabet_escapeUnit {unit : Nat} {c : Char} (h : c ∈ escapeUnit unit) :
    c.isAlphanum = true ∨ c = '%' := by
  rw [escapeUnit] at h
  split at h
  · rcases List.mem_cons.1 h with rfl | h
    · exact Or.inr rfl
    · exact Or.inl (isAlphanum_of_mem_upperHexDigits (hexPadded_subset _ _ h))
  · rcases List.mem_cons.1 h with rfl | h
    · exact Or.inr rfl
    · rcases List.mem_cons.1 h with rfl | h
      · exact Or.inl rfl
      · exact Or.inl (isAlphanum_of_mem_upperHexDigits (hexPadded_subset _ _ h))

/-- Escaped texts can be read back: going from left to right, what is read are the units of the
text in UTF-16. Only ASCII letters, digits and eight signs are written, and different texts are
escaped differently. -/
theorem escape_readable (s : Text) :
    (∀ units, IsUtf16 s units ↔ unescape (escape s) = units) ∧
      (∀ c ∈ escape s, c.isAlphanum = true ∨ c ∈ ['@', '*', '_', '+', '-', '.', '/', '%']) ∧
      ∀ t, escape t = escape s → t = s := by
  refine ⟨fun units => ?_, fun c hc => ?_, fun t ht => ?_⟩
  · constructor
    · intro h
      exact (isUtf16_unescape s).unique h
    · rintro rfl
      exact isUtf16_unescape s
  · obtain ⟨d, -, hc⟩ := List.mem_flatMap.1 hc
    rw [escapeChar] at hc
    split at hc
    next hplain =>
      rw [← List.mem_singleton.1 hc] at hplain
      simp only [isEscapeChar, Bool.or_eq_true, List.elem_iff] at hplain
      apply hplain.imp_right
      intro hsign
      exact List.mem_append_left ['%'] hsign
    next =>
      obtain ⟨unit, -, hc⟩ := List.mem_flatMap.1 hc
      apply (alphabet_escapeUnit hc).imp_right
      rintro rfl
      simp
  · have hunits := isUtf16_unescape t
    rw [ht] at hunits
    exact hunits.inj (isUtf16_unescape s)

/-- A character beyond the first plane takes two escapes. -/
example : escape ['€', '😀'] =
      ['%', 'u', '2', '0', 'A', 'C', '%', 'u', 'D', '8', '3', 'D', '%', 'u', 'D', 'E', '0', '0'] ∧
    unescape (escape ['€', '😀']) = [0x20ac, 0xd83d, 0xde00] := by
  decide

end Escape

section UriComponent

/-- The bytes that a percent-encoded text writes: two digits behind a percent sign are one byte,
and any other character stands for its bytes in UTF-8. -/
def percentDecode : Text → List UInt8
  | '%' :: a :: b :: s =>
      if [a, b].all fun x => (hexValue? x).isSome then
        UInt8.ofNat (ofHex [a, b]) :: percentDecode s
      else UInt8.ofNat '%'.toNat :: percentDecode (a :: b :: s)
  | c :: s => String.utf8EncodeChar c ++ percentDecode s
  | [] => []

/-- A piece of a URI component: a character that stands for itself, or a percent sign with two
upper-case digits. -/
inductive IsUriPiece : Text → Prop where
  | plain {c : Char}
      (hc : c.isAlphanum = true ∨
        c ∈ ['-', '_', '.', '!', '~', '*', singleQuote, '(', ')']) : IsUriPiece [c]
  | byte {a b : Char} (h : ∀ c ∈ [a, b], c ∈ upperHexDigits) : IsUriPiece ['%', a, b]

theorem percentDecode_of_ne {c : Char} (h : c ≠ '%') (s : Text) :
    percentDecode (c :: s) = String.utf8EncodeChar c ++ percentDecode s := by
  rw [percentDecode]
  intro _ _ _ hc _
  exact h hc

theorem percentDecode_two {a b : Char} (h : ∀ c ∈ [a, b], c ∈ upperHexDigits) (s : Text) :
    percentDecode ('%' :: a :: b :: s) = UInt8.ofNat (ofHex [a, b]) :: percentDecode s := by
  rw [percentDecode, if_pos (all_isSome_hexValue? h)]

theorem lt_of_isUriChar {c : Char} (h : isUriChar c = true) : c.toNat < 0x80 := by
  rcases Bool.or_eq_true_iff.1 h with h | h
  · exact lt_of_isAlphanum h
  · have hall : ∀ c ∈ ['-', '_', '.', '!', '~', '*', singleQuote, '(', ')'], c.toNat < 0x80 := by
      simp [singleQuote]
    exact hall c (List.elem_iff.1 h)

/-- A byte is read back, whatever follows it. -/
theorem percentDecode_uriByte (b : UInt8) (s : Text) :
    percentDecode (uriByte b ++ s) = b :: percentDecode s := by
  have hb : b.toNat < 256 := b.toNat_lt
  rw [uriByte]
  split
  next hplain =>
    have hne : Char.ofNat b.toNat ≠ '%' := by
      intro he
      rw [he] at hplain
      contradiction
    have hcode : (Char.ofNat b.toNat).toNat = b.toNat := by
      rw [Char.ofNat, dif_pos (Or.inl (by omega))]
      rfl
    have hlt := lt_of_isUriChar hplain
    rw [hcode] at hlt
    have hbytes : String.utf8EncodeChar (Char.ofNat b.toNat) = [b] := by
      rw [← Utf8.encodeChar_eq, Utf8.encodeChar, hcode, if_pos hlt, UInt8.ofNat_toNat]
    rw [List.singleton_append, percentDecode_of_ne hne, hbytes]
    rfl
  next =>
    have hread : ofHex (hexPadded hexDigitUpper 2 b.toNat) = b.toNat := ofHex_hexPadded hb
    have hbyte : UInt8.ofNat (ofHex (hexPadded hexDigitUpper 2 b.toNat)) = b := by
      rw [hread, UInt8.ofNat_toNat]
    exact (percentDecode_two (hexPadded_subset 2 b.toNat) s).trans
      (congrArg (· :: percentDecode s) hbyte)

/-- A URI component is read back as the bytes of the text. -/
theorem percentDecode_uriComponent (s : Text) : percentDecode (uriComponent s) = Utf8.encode s := by
  have hbytes (bytes : List UInt8) : percentDecode (bytes.flatMap uriByte) = bytes := by
    induction bytes with
    | nil => rfl
    | cons b bytes ih => rw [List.flatMap_cons, percentDecode_uriByte, ih]
  exact hbytes (Utf8.encode s)

theorem isUriPiece_uriByte (b : UInt8) : IsUriPiece (uriByte b) := by
  rw [uriByte]
  split
  next hplain =>
    apply IsUriPiece.plain
    simpa only [isUriChar, Bool.or_eq_true, List.elem_iff] using hplain
  next => exact IsUriPiece.byte (hexPadded_subset 2 b.toNat)

end UriComponent
end Text
end BlockWeave
