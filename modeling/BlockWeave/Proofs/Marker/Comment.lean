import BlockWeave.Marker.Comment
import BlockWeave.Proofs.Text.Blank

/-!
# The one comment around a body

Neither delimiter of a comment starts or ends with a blank, so a text has at most one outer pair
of delimiters, whatever stands between them. Stripping takes this pair away where there is one.
-/

namespace BlockWeave.Comment

open Text (isBlank dropLead? trimRight)

/-- The delimiters of the two kinds of comment. -/
inductive Delimiters : Text → Text → Prop
  | angle : Delimiters ['<', '!', '-', '-'] ['-', '-', '>']
  | star : Delimiters ['/', '*'] ['*', '/']

/-- A text that is a body in a comment with blanks around it. -/
def Wraps (opening closing body s : Text) : Prop :=
  ∃ before after, (∀ c ∈ before, isBlank c = true) ∧ (∀ c ∈ after, isBlank c = true) ∧
    s = before ++ (opening ++ (body ++ (closing ++ after)))

section Inside

variable {opening closing body tail s rest : Text}

theorem dropEnd?_eq_some_iff : dropEnd? tail s = some rest ↔ s = rest ++ tail := by
  rw [dropEnd?, Option.map_eq_some_iff]
  constructor
  · rintro ⟨turned, hturned, rfl⟩
    rw [Text.dropLead?_eq_some_iff] at hturned
    rw [← List.reverse_reverse s, hturned, List.reverse_append, List.reverse_reverse]
  · rintro rfl
    refine ⟨rest.reverse, ?_, List.reverse_reverse rest⟩
    rw [Text.dropLead?_eq_some_iff, List.reverse_append]

/-- Behind the blanks in front of it, a comment starts with its opening. -/
theorem Wraps.dropWhile_eq (h : Wraps opening closing body s)
    (hdelimiters : Delimiters opening closing) :
    ∃ after, (∀ c ∈ after, isBlank c = true) ∧
      s.dropWhile isBlank = opening ++ (body ++ (closing ++ after)) := by
  obtain ⟨before, after, hbefore, hafter, rfl⟩ := h
  refine ⟨after, hafter, ?_⟩
  rw [List.dropWhile_append_of_pos hbefore]
  cases hdelimiters with
  | angle => rfl
  | star => rfl

/-- No blank is taken off a closing delimiter. -/
theorem Delimiters.trimRight_eq (h : Delimiters opening closing) (s : Text) :
    trimRight isBlank (s ++ closing) = s ++ closing := by
  cases h with
  | angle =>
      have hlast : s ++ ['-', '-', '>'] = (s ++ ['-', '-']) ++ ['>'] := by simp
      rw [hlast, Text.trimRight_concat (by decide)]
  | star =>
      have hlast : s ++ ['*', '/'] = (s ++ ['*']) ++ ['/'] := by simp
      rw [hlast, Text.trimRight_concat (by decide)]

theorem inside?_eq_some_iff (hdelimiters : Delimiters opening closing) :
    inside? opening closing s = some body ↔ Wraps opening closing body s := by
  simp only [inside?, Option.bind_eq_bind, Option.bind_eq_some_iff, Text.dropLead?_eq_some_iff,
    dropEnd?_eq_some_iff]
  constructor
  · rintro ⟨behind, hopening, hclosing⟩
    obtain ⟨after, hafter, hbehind⟩ := Text.exists_trimRight_append isBlank behind
    refine ⟨s.takeWhile isBlank, after, fun c hc => List.mem_takeWhile_imp hc, hafter, ?_⟩
    rw [← List.append_assoc body, ← hclosing, ← hbehind, ← hopening,
      List.takeWhile_append_dropWhile]
  · intro h
    obtain ⟨after, hafter, hs⟩ := h.dropWhile_eq hdelimiters
    refine ⟨_, hs, ?_⟩
    rw [← List.append_assoc, Text.trimRight_append hafter, hdelimiters.trimRight_eq]

end Inside

/-- A text that is one of the two kinds of comment around a body, with blanks around it. -/
def IsComment (body s : Text) : Prop :=
  ∃ opening closing, Delimiters opening closing ∧ Wraps opening closing body s

/-- The body of the comment that a text is. -/
def body? (s : Text) : Option Text :=
  if (s.dropWhile isBlank).head? = some '<' then inside? ['<', '!', '-', '-'] ['-', '-', '>'] s
  else inside? ['/', '*'] ['*', '/'] s

/-- The first character that is no blank shows which of the two comments a text can be. -/
theorem body?_eq_some_iff {s body : Text} : body? s = some body ↔ IsComment body s := by
  rw [body?]
  split
  next hangle =>
    rw [inside?_eq_some_iff .angle]
    constructor
    · exact fun h => ⟨_, _, .angle, h⟩
    · rintro ⟨opening, closing, hdelimiters, h⟩
      cases hdelimiters with
      | angle => exact h
      | star =>
          obtain ⟨after, -, hs⟩ := h.dropWhile_eq .star
          rw [hs] at hangle
          exact absurd hangle (by simp)
  next hother =>
    rw [inside?_eq_some_iff .star]
    constructor
    · exact fun h => ⟨_, _, .star, h⟩
    · rintro ⟨opening, closing, hdelimiters, h⟩
      cases hdelimiters with
      | angle =>
          obtain ⟨after, -, hs⟩ := h.dropWhile_eq .angle
          rw [hs] at hother
          exact absurd rfl hother
      | star => exact h

/-- Stripping takes exactly one comment away: of a text that is a comment around a body, with
blanks around it, the body is left, whatever delimiters stand in the body; a text that is no
comment is left as it is. -/
theorem strip_eq_iff (s body : Text) :
    strip s = body ↔ IsComment body s ∨ (body = s ∧ ¬∃ inner, IsComment inner s) := by
  have hstrip : strip s = (body? s).getD s := rfl
  rw [hstrip]
  cases hbody : body? s with
  | some found =>
      have hcomment : IsComment found s := body?_eq_some_iff.1 hbody
      rw [Option.getD_some]
      constructor
      · rintro rfl
        exact Or.inl hcomment
      · rintro (h | ⟨-, hnone⟩)
        · rw [body?_eq_some_iff.2 h] at hbody
          exact (Option.some.inj hbody).symm
        · exact absurd ⟨found, hcomment⟩ hnone
  | none =>
      have hnone (inner : Text) : ¬IsComment inner s := by
        intro h
        rw [body?_eq_some_iff.2 h] at hbody
        cases hbody
      rw [Option.getD_none]
      constructor
      · rintro rfl
        exact Or.inr ⟨rfl, fun ⟨inner, h⟩ => hnone inner h⟩
      · rintro (h | ⟨rfl, -⟩)
        · exact absurd h (hnone body)
        · rfl

-- Delimiters that overlap enclose nothing.
example : strip ['/', '*', '/'] = ['/', '*', '/'] := by decide

end BlockWeave.Comment
