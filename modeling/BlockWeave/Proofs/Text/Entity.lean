import BlockWeave.Text.Entity
import Mathlib.Data.List.Basic
import Mathlib.Tactic.SplitIfs

/-!
# Encoded texts are decoded to themselves

Encoding writes every ampersand as the start of a reference of its own, so decoding meets
only the five references that encoding writes, one after the other.
-/

namespace BlockWeave.Text

/-- The references in common use stand first in the table. -/
theorem entity?_of_common {name : Text} {codes : List Nat}
    (h : commonEntities.lookup (String.ofList name) = some codes) :
    entity? name = some (codes.map Char.ofNat) := by
  simp only [entity?, entityTable, List.append_assoc, List.lookup_append, h, Option.some_or,
    Option.map_some]

/-- Decoding goes on behind a reference that it reads. -/
theorem decodeEntities_reference {s rest chars : Text}
    (h : readEntity? s = some (.ok chars, rest)) (hlength : rest.length ≤ s.length) :
    decodeEntities ('&' :: s) = (decodeEntities rest).map (chars ++ ·) := by
  have hlt : rest.length < ('&' :: s).length := Nat.lt_succ_of_le hlength
  rw [decodeEntities, if_pos rfl, h]
  simp only [dif_pos hlt]
  cases decodeEntities rest <;> rfl

/-- A named reference is read up to its semicolon. -/
theorem readEntity?_name {name chars : Text} (hne : name ≠ [])
    (hchars : ∀ c ∈ name, isEntityNameChar c = true) (hlength : name.length ≤ 32)
    (hname : entity? (name ++ [';']) = some chars) (rest : Text) :
    readEntity? (name ++ ';' :: rest) = some (.ok chars, rest) := by
  have htake : (name ++ ';' :: rest).takeWhile isEntityNameChar = name := by
    rw [List.takeWhile_append_of_pos hchars]
    simp [isEntityNameChar]
  have hexpand : expandName (name ++ [';']) (name.length + 1) = chars := by
    obtain ⟨n, hn⟩ := Nat.exists_eq_succ_of_ne_zero (mt List.length_eq_zero_iff.1 hne)
    have hfull : (name ++ [';']).length = n + 2 := by simp [hn]
    simp only [hn, expandName, List.take_of_length_le (Nat.le_of_eq hfull), hname,
      List.drop_of_length_le (Nat.le_of_eq hfull), List.append_nil]
  obtain ⟨c, tail, rfl⟩ := List.exists_cons_of_ne_nil hne
  have hc : c ≠ '#' := by
    rintro rfl
    exact Bool.noConfusion (hchars '#' (by simp))
  rw [List.cons_append] at htake hexpand ⊢
  rw [readEntity?.eq_def]
  split
  next he => exact absurd (List.cons.inj he).1 hc
  next =>
    rw [htake, List.take_of_length_le hlength]
    simpa using hexpand

/-- The reference for the single quote is read as its code. -/
theorem readEntity?_singleQuote (rest : Text) :
    readEntity? ('#' :: 'x' :: '2' :: '7' :: ';' :: rest) = some (.ok [singleQuote], rest) := by
  rfl

/-- Decoding undoes the encoding of one character. -/
theorem decodeEntities_entityFor (c : Char) (rest : Text) :
    decodeEntities (entityFor c ++ rest) = (decodeEntities rest).map (c :: ·) := by
  have named {name : Text} (hne : name ≠ [])
      (hchars : name.all isEntityNameChar = true) (hlength : name.length ≤ 32)
      (hname : commonEntities.lookup (String.ofList (name ++ [';'])) = some [c.toNat]) :
      decodeEntities ('&' :: (name ++ ';' :: rest)) = (decodeEntities rest).map (c :: ·) := by
    have hentity := entity?_of_common hname
    rw [List.map_singleton, Char.ofNat_toNat] at hentity
    exact decodeEntities_reference
      (readEntity?_name hne (List.all_eq_true.1 hchars) hlength hentity rest) (by simp; omega)
  simp only [entityFor]
  split_ifs with hampersand hless hgreater hdouble hsingle
  · subst hampersand
    exact @named ['a', 'm', 'p'] (by simp) rfl (by decide) (by decide)
  · subst hless
    exact @named ['l', 't'] (by simp) rfl (by decide) (by decide)
  · subst hgreater
    exact @named ['g', 't'] (by simp) rfl (by decide) (by decide)
  · subst hdouble
    exact @named ['q', 'u', 'o', 't'] (by simp) rfl (by decide) (by decide)
  · subst hsingle
    exact decodeEntities_reference (readEntity?_singleQuote rest) (by simp; omega)
  · rw [List.singleton_append, decodeEntities, if_neg hampersand]

/-- Decoding undoes encoding. -/
theorem decodeEntities_encodeEntities (s : Text) : decodeEntities (encodeEntities s) = .ok s := by
  induction s with
  | nil => rw [encodeEntities, List.flatMap_nil, decodeEntities]
  | cons c s ih =>
      rw [encodeEntities] at ih
      rw [encodeEntities, List.flatMap_cons, decodeEntities_entityFor, ih]
      rfl

/-- The characters that markup reserves, besides the ampersand. -/
def reservedChars : List Char := ['<', '>', doubleQuote, singleQuote]

/-- The references that encoding writes. -/
def writtenReferences : List Text := [
  ['&', 'a', 'm', 'p', ';'], ['&', 'l', 't', ';'], ['&', 'g', 't', ';'],
  ['&', 'q', 'u', 'o', 't', ';'], ['&', '#', 'x', '2', '7', ';']]

/-- A character is written as a reference, or as itself where markup does not reserve it. -/
theorem entityFor_cases (c : Char) :
    entityFor c ∈ writtenReferences ∨
      entityFor c = [c] ∧ c ≠ '&' ∧ c ∉ reservedChars := by
  simp only [entityFor]
  split_ifs with hampersand hless hgreater hdouble hsingle
  case neg =>
    right
    simp [reservedChars, hampersand, hless, hgreater, hdouble, hsingle]
  all_goals
    left
    simp [writtenReferences]

theorem notMem_encodeEntities_of_reserved {c : Char} (h : c ∈ reservedChars) (s : Text) :
    c ∉ encodeEntities s := by
  intro hmem
  obtain ⟨d, -, hd⟩ := List.mem_flatMap.1 hmem
  rcases entityFor_cases d with hreference | ⟨hsame, -, hfree⟩
  · have hfree : ∀ reference ∈ writtenReferences, ∀ c ∈ reservedChars, c ∉ reference := by
      simp [writtenReferences, reservedChars, doubleQuote, singleQuote]
    exact hfree _ hreference c h hd
  · rw [hsame, List.mem_singleton] at hd
    exact hfree (hd ▸ h)

/-- An encoded text can stand between quotes. -/
theorem notMem_encodeEntities (s : Text) : '"' ∉ encodeEntities s :=
  notMem_encodeEntities_of_reserved (by decide) s

/-- An ampersand in an encoded text starts a reference that encoding wrote. -/
theorem exists_reference_prefix {s before rest : Text}
    (h : encodeEntities s = before ++ '&' :: rest) :
    ∃ reference ∈ writtenReferences, reference <+: '&' :: rest := by
  induction s generalizing before with
  | nil => simp [encodeEntities] at h
  | cons c s ih =>
      rw [encodeEntities, List.flatMap_cons] at h
      change entityFor c ++ encodeEntities s = _ at h
      rcases List.append_eq_append_iff.1 h with ⟨between, hbefore, hrest⟩ | ⟨tail, hentity, htail⟩
      · exact ih hrest
      · cases tail with
        | nil => exact @ih [] (by simpa using htail.symm)
        | cons d tail =>
            obtain ⟨rfl, hrest⟩ := List.cons.inj htail
            -- The ampersand stands inside what is written for the character, so at its start.
            rcases entityFor_cases c with hreference | ⟨hsame, hne, -⟩
            · have hhead : ∀ reference ∈ writtenReferences, '&' ∉ reference.drop 1 := by decide
              cases before with
              | nil =>
                  refine ⟨entityFor c, hreference, ?_⟩
                  rw [hentity, hrest]
                  exact ⟨encodeEntities s, by simp⟩
              | cons e before =>
                  have hnone := hhead _ hreference
                  rw [hentity] at hnone
                  simp at hnone
            · rw [hsame] at hentity
              have hmem : '&' ∈ [c] := hentity ▸ List.mem_append_right before (by simp)
              exact absurd (List.mem_singleton.1 hmem).symm hne

/-- Decoding gives every text back that was encoded. In an encoded text no angle and no quote
stands, and each ampersand starts one of the five references. -/
theorem encodeEntities_lossless (s : Text) :
    decodeEntities (encodeEntities s) = .ok s ∧
      (∀ c ∈ ['<', '>', doubleQuote, singleQuote], c ∉ encodeEntities s) ∧
      ∀ before rest, encodeEntities s = before ++ '&' :: rest →
        ∃ reference ∈ writtenReferences, reference <+: '&' :: rest := by
  refine ⟨decodeEntities_encodeEntities s, fun c hc => ?_, fun before rest h => ?_⟩
  · exact notMem_encodeEntities_of_reserved hc s
  · exact exists_reference_prefix h

/-- A text that looks like a reference already is encoded once more. -/
theorem encodeEntities_lossless_reference :
    decodeEntities (encodeEntities ['&', 'l', 't', ';', '<']) = .ok ['&', 'l', 't', ';', '<'] ∧
      '<' ∉ encodeEntities ['&', 'l', 't', ';', '<'] ∧
      ∃ reference ∈ writtenReferences,
        reference <+: ['&', 'a', 'm', 'p', ';', 'l', 't', ';', '&', 'l', 't', ';'] := by
  obtain ⟨hdecode, hfree, hreference⟩ := encodeEntities_lossless ['&', 'l', 't', ';', '<']
  exact ⟨hdecode, hfree '<' (by decide), hreference [] _ rfl⟩

theorem encodeEntities_ne_nil {s : Text} (h : s ≠ []) : encodeEntities s ≠ [] := by
  obtain ⟨c, rest, rfl⟩ := List.exists_cons_of_ne_nil h
  simp only [encodeEntities, List.flatMap_cons, entityFor]
  split_ifs <;> simp

end BlockWeave.Text
