import BlockWeave.Text.Blank
import BlockWeave.Text.Ranges
import Mathlib.Data.List.DropRight

/-!
# Blanks around a text

The blanks of all scripts as ranges of codes, and what is left of a text when the blanks at its
ends are taken off.
-/

namespace BlockWeave.Text

/-- The ranges of the blanks of all scripts. -/
def blankRanges : List (Nat × Nat) := [
  (0x09, 0x0d), (0x1c, 0x20), (0x85, 0x85), (0xa0, 0xa0), (0x1680, 0x1680), (0x2000, 0x200a),
  (0x2028, 0x2029), (0x202f, 0x202f), (0x205f, 0x205f), (0x3000, 0x3000)]

theorem isBlank_iff {c : Char} :
    isBlank c = true ↔ ∃ range ∈ blankRanges, range.1 ≤ c.toNat ∧ c.toNat ≤ range.2 := by
  simp only [isBlank, blankRanges, List.exists_mem_cons_iff, Bool.or_eq_true, Bool.and_eq_true,
    decide_eq_true_eq, beq_iff_eq]
  simp only [List.not_mem_nil, false_and, exists_false, or_false]
  omega

section Ends

variable {p : Char → Bool} {before core after s : Text}

theorem trimRight_append (h : ∀ c ∈ after, p c = true) (s : Text) :
    trimRight p (s ++ after) = trimRight p s := by
  have hreverse : ∀ c ∈ after.reverse, p c = true := by simpa using h
  rw [trimRight, List.reverse_append, List.dropWhile_append_of_pos hreverse, trimRight]

/-- Nothing is taken off a text that ends with another character. -/
theorem trimRight_concat {c : Char} (h : p c = false) (s : Text) :
    trimRight p (s ++ [c]) = s ++ [c] :=
  List.rdropWhile_concat_neg p s c (by simp [h])

/-- What is taken off at the end of a text is of the class. -/
theorem exists_trimRight_append (p : Char → Bool) (s : Text) :
    ∃ after, (∀ c ∈ after, p c = true) ∧ s = trimRight p s ++ after :=
  ⟨s.rtakeWhile p, fun _ hc => List.mem_rtakeWhile_imp hc, List.rdropWhile_append_rtakeWhile.symm⟩

/-- A text without blanks is what is left between blanks. -/
theorem strip_append (hbefore : ∀ c ∈ before, isBlank c = true)
    (hcore : ∀ c ∈ core, isBlank c = false) (hafter : ∀ c ∈ after, isBlank c = true) :
    strip (before ++ (core ++ after)) = core := by
  rw [strip, trim, List.dropWhile_append_of_pos hbefore]
  cases core with
  | nil =>
      rw [List.nil_append, List.dropWhile_eq_nil_iff.2 hafter]
      rfl
  | cons c core =>
      rw [List.cons_append, List.dropWhile_cons_of_neg (by simp [hcore c (by simp)]),
        ← List.cons_append, trimRight_append hafter]
      obtain ⟨front, last, hlast⟩ := (List.eq_nil_or_concat' (c :: core)).resolve_left (by simp)
      rw [hlast, trimRight_concat (hcore last (by simp [hlast]))]

theorem strip_eq_nil (h : ∀ c ∈ s, isBlank c = true) : strip s = [] := by
  simpa using @strip_append s [] [] h (by simp) (by simp)

theorem strip_eq_self (h : ∀ c ∈ s, isBlank c = false) : strip s = s := by
  simpa using @strip_append [] s [] (by simp) h (by simp)

end Ends

end BlockWeave.Text
