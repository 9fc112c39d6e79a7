import BlockWeave.Text.Basic

/-! # Replacing the places that a reader accepts -/

namespace BlockWeave.Text

/-- A text with every place that `read?` accepts replaced, from left to right and
without overlap. The reader gives the replacement and what follows the place; a
reader that takes nothing is passed over. -/
def substitute (read? : Text → Option (Text × Text)) : Text → Text
  | [] => []
  | c :: s =>
      match read? (c :: s) with
      | some (replacement, rest) =>
          if _h : rest.length < (c :: s).length then replacement ++ substitute read? rest
          else c :: substitute read? s
      | none => c :: substitute read? s
termination_by s => s.length
decreasing_by all_goals (simp only [List.length_cons] at *; omega)

/-- A text in which the reader accepts no place stays as it is. -/
theorem substitute_eq_self {read? : Text → Option (Text × Text)} {s : Text}
    (h : ∀ before rest, s = before ++ rest → read? rest = none) : substitute read? s = s := by
  induction s with
  | nil => simp [substitute]
  | cons c s ih =>
      have h₀ := h [] (c :: s) rfl
      have h₁ := ih fun before rest e => h (c :: before) rest (by simp [e])
      rw [substitute]
      simp [h₀, h₁]

end BlockWeave.Text
