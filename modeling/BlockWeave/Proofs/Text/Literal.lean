import BlockWeave.Json.Reader
import BlockWeave.Proofs.Path
import BlockWeave.Proofs.Text.Tidy
import BlockWeave.Text.Literal
import Mathlib.Data.List.Chain
import Mathlib.Data.List.Infix

/-!
# What stands in a string literal

A literal is read back as the text that it was written for. It stands on one line, it ends
with a quote, and in front of every quote between its first and its last character there is a
backslash. This is all that is used of a literal, and it holds of any part of it as well.
-/

namespace BlockWeave

namespace Text

/-- A quote comes behind a backslash. -/
def Guards (c d : Char) : Prop :=
  d = '"' → c = '\\'

/-- A text as it stands in a literal: on one line, and with a backslash in front of each quote
that other characters stand around. -/
structure Escaped (s : Text) : Prop where
  line : '\n' ∉ s
  guarded : s.dropLast.IsChain Guards

namespace Escaped

variable {s part : Text}

/-- The quotes inside a part are inside the whole. -/
theorem of_infix (h : Escaped s) (hpart : part <:+: s) : Escaped part := by
  refine ⟨fun hfeed => h.line (hpart.subset hfeed), ?_⟩
  obtain ⟨before, behind, rfl⟩ := hpart
  have hguarded := h.guarded
  cases hbehind : behind with
  | nil =>
      cases hpart : part with
      | nil => exact .nil
      | cons c rest =>
          rw [hbehind, hpart, List.append_nil, List.dropLast_append_of_ne_nil (by simp)] at hguarded
          exact hguarded.right_of_append
  | cons c rest =>
      rw [hbehind, List.dropLast_append_of_ne_nil (by simp)] at hguarded
      exact List.IsChain.prefix hguarded.left_of_append.right_of_append (List.dropLast_prefix part)

/-- What stands in front of a quote that something follows is a backslash. -/
theorem eq_of_quote (h : Escaped s) {before behind : Text} {c d : Char}
    (hs : s = before ++ (c :: '"' :: d :: behind)) : c = '\\' := by
  have hguarded := h.guarded
  have hdrop : s.dropLast = before ++ (c :: '"' :: (d :: behind).dropLast) := by
    rw [hs, List.dropLast_append_of_ne_nil (by simp)]
    rfl
  rw [hdrop] at hguarded
  exact (List.isChain_cons_cons.1 hguarded.right_of_append).1 rfl

/-- Tidying only takes blanks off the end of a single line. -/
theorem tidy_leads (h : Escaped s) : tidy s <+: s := by
  have htrim : trimLines s = trimRight isTrailingBlank s := by
    simp [trimLines, splitOn_of_notMem h.line, join]
  have hleads : trimRight isTrailingBlank s <+: s := by
    rw [← List.reverse_suffix, trimRight, List.reverse_reverse]
    exact List.dropWhile_suffix _
  rw [tidy, htrim, limitFeeds_of_notMem fun hfeed => h.line (hleads.subset hfeed)]
  exact hleads

end Escaped

/-- The digits of a control character are read back. -/
theorem hexPadded_control {n : Nat} (h : n < 0x20) :
    ∃ a b c d, hexPadded hexDigit 4 n = [a, b, c, d] ∧
      ([a, b, c, d].all fun x => (hexValue? x).isSome) = true ∧ ofHex [a, b, c, d] = n ∧
      '"' ∉ [a, b, c, d] ∧ '\n' ∉ [a, b, c, d] := by
  have hall : ∀ n < 0x20, ((hexPadded hexDigit 4 n).all fun x => (hexValue? x).isSome) = true ∧
      ofHex (hexPadded hexDigit 4 n) = n ∧
      '"' ∉ hexPadded hexDigit 4 n ∧ '\n' ∉ hexPadded hexDigit 4 n := by decide
  obtain ⟨hdigits, hvalue, hquote, hfeed⟩ := hall n h
  exact ⟨_, _, _, _, rfl, hdigits, hvalue, hquote, hfeed⟩

/-- A character is written as itself or as an escape, in which a quote can only come right
behind the backslash. -/
theorem literalChar_cases (c : Char) :
    (literalChar c = [c] ∧ c ≠ '"' ∧ c ≠ '\n') ∨
      ∃ d tail, literalChar c = '\\' :: d :: tail ∧ '\n' ∉ d :: tail ∧ '"' ∉ tail := by
  rw [literalChar]
  split_ifs with hquote hslash hfeed hreturn htab hpage hback hcontrol
  · exact Or.inr ⟨_, _, rfl, by decide, by decide⟩
  · exact Or.inr ⟨_, _, rfl, by decide, by decide⟩
  · exact Or.inr ⟨_, _, rfl, by decide, by decide⟩
  · exact Or.inr ⟨_, _, rfl, by decide, by decide⟩
  · exact Or.inr ⟨_, _, rfl, by decide, by decide⟩
  · exact Or.inr ⟨_, _, rfl, by decide, by decide⟩
  · exact Or.inr ⟨_, _, rfl, by decide, by decide⟩
  · obtain ⟨w, x, y, z, hdigits, -, -, hquotes, hfeeds⟩ := hexPadded_control hcontrol
    rw [hdigits]
    exact Or.inr ⟨_, _, rfl, by simpa using hfeeds, hquotes⟩
  · exact Or.inl ⟨rfl, hquote, hfeed⟩

theorem isChain_append_of_notMem {tail rest : Text} (h : '"' ∉ tail)
    (hrest : ∀ d, (d :: rest).IsChain Guards) (d : Char) :
    (d :: (tail ++ rest)).IsChain Guards := by
  induction tail generalizing d with
  | nil => exact hrest d
  | cons c tail ih =>
      have hc : c ≠ '"' := (List.ne_of_not_mem_cons h).symm
      exact .cons_cons (fun hquote => absurd hquote hc) (ih (List.not_mem_of_not_mem_cons h) c)

/-- Behind any character, the characters of a text are written with their quotes guarded. -/
theorem isChain_flatMap_literalChar (s : Text) (d : Char) :
    (d :: s.flatMap literalChar).IsChain Guards := by
  induction s generalizing d with
  | nil => exact .singleton d
  | cons c s ih =>
      rw [List.flatMap_cons]
      rcases literalChar_cases c with ⟨hself, hquote, -⟩ | ⟨e, tail, hescape, -, hquote⟩
      · rw [hself]
        exact .cons_cons (fun hc => absurd hc hquote) (ih c)
      · rw [hescape]
        refine .cons_cons (fun hslash => absurd hslash (by decide)) ?_
        exact .cons_cons (fun _ => rfl) (isChain_append_of_notMem hquote ih e)

theorem escaped_literal (s : Text) : Escaped (literal s) := by
  refine ⟨?_, ?_⟩
  · have hchars : '\n' ∉ s.flatMap literalChar := by
      intro hfeed
      obtain ⟨c, -, hc⟩ := List.mem_flatMap.1 hfeed
      rcases literalChar_cases c with ⟨hself, -, hne⟩ | ⟨e, tail, hescape, hne, -⟩
      · exact hne (by simpa [hself, eq_comm] using hc)
      · rw [hescape] at hc
        rcases List.mem_cons.1 hc with hslash | hc
        · exact absurd hslash (by decide)
        · exact hne hc
    simpa [literal] using hchars
  · rw [literal, List.dropLast_concat]
    exact isChain_flatMap_literalChar s '"'

/-- There is nothing to tidy in a literal. -/
theorem tidy_literal (s : Text) : tidy (literal s) = literal s := by
  refine tidy_of_notMem (escaped_literal s).line fun c hc => ?_
  rw [literal, List.getLast?_concat] at hc
  obtain rfl := Option.mem_some_iff.1 hc
  rfl

end Text

namespace Json

open Text (literalChar literal hexPadded hexDigit)

theorem chars?_escape {fuel : Nat} {s behind rest left : Text} {d : Char}
    (hescape : escape? s = some (d, behind)) (hrest : chars? fuel behind = some (rest, left)) :
    chars? (fuel + 1) ('\\' :: s) = some (d :: rest, left) := by
  simp [chars?, hescape, hrest]

/-- The digits of a control character are read as this character. -/
theorem escape?_control {c : Char} (h : c.toNat < 0x20) (s : Text) :
    escape? ('u' :: hexPadded hexDigit 4 c.toNat ++ s) = some (c, s) := by
  obtain ⟨w, x, y, z, hdigits, hhex, hvalue, -, -⟩ := Text.hexPadded_control h
  have hunit : Text.unit? (w :: x :: y :: z :: s) = some (c.toNat, s) := by
    simp only [Text.unit?, hhex, if_true, hvalue]
  have hhalf : Text.isHalf c.toNat = false := by
    simp only [Text.isHalf, Bool.and_eq_false_iff, decide_eq_false_iff_not]
    omega
  have hchar : Text.unitChar? c.toNat s = some (c, s) := by
    rw [Text.unitChar?, hhalf, if_neg Bool.false_ne_true, Char.ofNat_toNat]
  rw [hdigits]
  simp only [List.cons_append, List.nil_append, escape?, Text.readUnit?, hunit,
    Option.bind_eq_bind, Option.bind_some, hchar]

/-- A character is read back from what is written for it. -/
theorem chars?_literalChar {fuel : Nat} {s rest left : Text} (c : Char)
    (h : chars? fuel s = some (rest, left)) :
    chars? (fuel + 1) (literalChar c ++ s) = some (c :: rest, left) := by
  rw [literalChar]
  split_ifs with hquote hslash hfeed hreturn htab hpage hback hcontrol
  · exact chars?_escape (by rw [hquote]; rfl) h
  · exact chars?_escape (by rw [hslash]; rfl) h
  · exact chars?_escape (by rw [hfeed]; rfl) h
  · exact chars?_escape (by rw [hreturn]; rfl) h
  · exact chars?_escape (by rw [htab]; rfl) h
  · obtain rfl : c = Char.ofNat 0x0c := Char.toNat_inj.1 hpage
    exact chars?_escape rfl h
  · obtain rfl : c = Char.ofNat 0x08 := Char.toNat_inj.1 hback
    exact chars?_escape rfl h
  · exact chars?_escape (escape?_control hcontrol s) h
  · simp [chars?, hquote, hslash, hcontrol, h]

theorem chars?_flatMap_literalChar {fuel : Nat} (s rest : Text) (h : s.length < fuel) :
    chars? fuel (s.flatMap literalChar ++ '"' :: rest) = some (s, rest) := by
  induction s generalizing fuel with
  | nil =>
      obtain ⟨fuel, rfl⟩ := Nat.exists_eq_succ_of_ne_zero (Nat.ne_zero_of_lt h)
      simp [chars?]
  | cons c s ih =>
      obtain ⟨fuel, rfl⟩ := Nat.exists_eq_succ_of_ne_zero (Nat.ne_zero_of_lt h)
      rw [List.flatMap_cons, List.append_assoc]
      exact chars?_literalChar c (ih (Nat.lt_of_succ_lt_succ h))

theorem length_le_flatMap_literalChar (s : Text) : s.length ≤ (s.flatMap literalChar).length := by
  induction s with
  | nil => exact Nat.le_refl _
  | cons c s ih =>
      have hpos : 0 < (literalChar c).length := by
        rcases Text.literalChar_cases c with ⟨hself, -⟩ | ⟨d, tail, hescape, -⟩
        · simp [hself]
        · simp [hescape]
      rw [List.flatMap_cons, List.length_append, List.length_cons]
      omega

/-- A literal is a document that gives back the text. -/
theorem parse?_literal (s : Text) : parse? (literal s) = some (.str (String.ofList s)) := by
  have hfuel : s.length < (s.flatMap literalChar ++ ['"']).length + 1 := by
    have hlength := length_le_flatMap_literalChar s
    rw [List.length_append]
    omega
  have hvalue (fuel : Nat) : value? (fuel + 1) (literal s) = some (.str (String.ofList s), []) := by
    have hskip : skipSpace (literal s) = '"' :: (s.flatMap literalChar ++ ['"']) := rfl
    rw [value?, hskip]
    simp only [text?, chars?_flatMap_literalChar s [] hfuel, Option.map_some]
  rw [parse?, hvalue]
  rfl

section Shortest

variable {s left : Text} {c : Char}

theorem literalChar_eq_self (hquote : c ≠ '"') (hslash : c ≠ '\\') (hcontrol : ¬c.toNat < 0x20) :
    literalChar c = [c] := by
  have hne {d : Char} (hd : d.toNat < 0x20) : c ≠ d := by
    rintro rfl
    exact hcontrol hd
  rw [literalChar, if_neg hquote, if_neg hslash, if_neg (hne (by decide)),
    if_neg (hne (by decide)), if_neg (hne (by decide)), if_neg (by omega), if_neg (by omega),
    if_neg hcontrol]

theorem length_literalChar_le (c : Char) : (literalChar c).length ≤ 6 := by
  rw [literalChar]
  split_ifs with hquote hslash hfeed hreturn htab hpage hback hcontrol
  all_goals simp [Text.hexPadded_length]

/-- An escape of four digits is followed by what it leaves. -/
theorem length_of_readUnit? (h : Text.readUnit? s = some (c, left)) :
    left.length + 4 ≤ s.length := by
  have hunit {s rest : Text} {unit : Nat} (h : Text.unit? s = some (unit, rest)) :
      s.length = rest.length + 4 := by
    rw [Text.unit?.eq_def] at h
    split at h
    next =>
      split at h
      next =>
        cases h
        rfl
      next => cases h
    next => cases h
  obtain ⟨⟨unit, rest⟩, hread, hchar⟩ := Option.bind_eq_some_iff.1 h
  have hlength := hunit hread
  simp only [Text.unitChar?] at hchar
  split at hchar
  next =>
    simp only [Option.bind_eq_bind, Option.bind_eq_some_iff, Option.ite_none_right_eq_some,
      Option.pure_def, Option.some.injEq] at hchar
    obtain ⟨behind, hdrop, ⟨low, last⟩, hlow, -, hpair⟩ := hchar
    obtain rfl : last = left := congrArg Prod.snd hpair
    have hbehind := hunit hlow
    rw [Text.dropLead?_eq_some_iff.1 hdrop] at hlength
    simp only [List.length_append, List.length_cons] at hlength
    omega
  next =>
    obtain rfl : rest = left := congrArg Prod.snd (Option.some.inj hchar)
    exact hlength.ge

/-- No escape is shorter than what a literal writes for its character. -/
theorem length_of_escape? (h : escape? s = some (c, left)) :
    (literalChar c).length + left.length ≤ s.length + 1 := by
  have hshort : ∀ d ∈ ['\n', '\t', '\r', Char.ofNat 8, Char.ofNat 12, '/', '\\', '"'],
      (literalChar d).length ≤ 2 := by simp [literalChar]
  rw [escape?.eq_def] at h
  split at h
  case h_1 s =>
    have hunit := length_of_readUnit? h
    have hchar := length_literalChar_le c
    rw [List.length_cons]
    omega
  case h_10 => cases h
  all_goals
    simp only [Option.some.injEq, Prod.mk.injEq] at h
    obtain ⟨hd, rfl⟩ := h
    have hchar := hshort c (by simp [← hd])
    rw [List.length_cons]
    omega

/-- What is read up to the closing quote is not shorter than what a literal writes. -/
theorem length_of_chars? {fuel : Nat} {chars : Text} (h : chars? fuel s = some (chars, left)) :
    (chars.flatMap literalChar).length + left.length < s.length := by
  induction fuel generalizing s chars with
  | zero => cases h
  | succ fuel ih =>
      cases s with
      | nil => cases h
      | cons c s =>
          simp only [chars?, Option.bind_eq_bind, Option.pure_def] at h
          split_ifs at h with hquote hslash hcontrol
          · cases h
            simp
          · simp only [Option.bind_eq_some_iff, Option.some.injEq, Prod.mk.injEq, Prod.exists]
              at h
            obtain ⟨d, behind, hescape, rest, last, hrest, rfl, rfl⟩ := h
            have hchar := length_of_escape? hescape
            have hbehind := ih hrest
            rw [List.flatMap_cons, List.length_append, List.length_cons]
            omega
          · simp only [Option.bind_eq_some_iff, Option.some.injEq, Prod.mk.injEq, Prod.exists]
              at h
            obtain ⟨rest, last, hrest, rfl, rfl⟩ := h
            have hbehind := ih hrest
            rw [List.flatMap_cons, List.length_append, literalChar_eq_self hquote hslash hcontrol]
            simp only [List.length_cons, List.length_nil]
            omega

theorem number?_ne_str (s left : Text) (t : String) : number? s ≠ some (.str t, left) := by
  intro h
  simp only [number?] at h
  split_ifs at h <;> simp at h

/-- Only a quote starts a text. -/
theorem text?_of_value? {fuel : Nat} {t : String} (h : value? fuel s = some (.str t, left)) :
    ∃ behind, skipSpace s = '"' :: behind ∧ text? behind = some (t, left) := by
  cases fuel with
  | zero => cases h
  | succ fuel =>
      rw [value?] at h
      split at h
      next behind hskip =>
        obtain ⟨⟨u, rest⟩, htext, he⟩ := Option.map_eq_some_iff.1 h
        cases he
        exact ⟨behind, hskip, htext⟩
      next => split at h <;> simp at h
      next => split at h <;> simp at h
      next => simp at h
      next => simp at h
      next => simp at h
      next => simp at h
      next => simp at h
      next => simp at h
      next => exact absurd h (number?_ne_str _ _ _)

/-- A literal is the shortest document that gives back its text. -/
theorem length_literal_le {t : Text} (h : parse? s = some (.str (String.ofList t))) :
    (literal t).length ≤ s.length := by
  simp only [parse?, Option.bind_eq_bind, Option.bind_eq_some_iff, Option.pure_def, Prod.exists,
    Option.ite_none_right_eq_some, Option.some.injEq] at h
  obtain ⟨_, rest, hvalue, -, rfl⟩ := h
  obtain ⟨behind, hskip, htext⟩ := text?_of_value? hvalue
  obtain ⟨⟨chars, last⟩, hchars, he⟩ := Option.map_eq_some_iff.1 htext
  obtain rfl : chars = t := String.ofList_injective (congrArg Prod.fst he)
  have hlength := length_of_chars? hchars
  have hspace := (List.dropWhile_suffix (l := s) isSpace).length_le
  rw [← skipSpace, hskip, List.length_cons] at hspace
  rw [literal, List.length_append, List.length_cons, List.length_singleton]
  omega

end Shortest

end Json
end BlockWeave
