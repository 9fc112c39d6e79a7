import BlockWeave.Text.Tidy

/-!
# Tidied texts

A text is trimmed when no blank stands at the end of one of its lines. Trimming gives such
a text and leaves it alone, and line feeds can be left out of it without any blank coming to
the end of a line. Hence tidying twice is tidying once.
-/

namespace BlockWeave.Text

/-- A text that a line ends with: nothing, or a line feed comes next. -/
def EndsLine (s : Text) : Prop :=
  s = [] ∨ s.head? = some '\n'

instance (s : Text) : Decidable (EndsLine s) :=
  inferInstanceAs (Decidable (s = [] ∨ s.head? = some '\n'))

/-- No blank stands at the end of a line. -/
def Trimmed : Text → Prop
  | [] => True
  | c :: s => (isTrailingBlank c = true → ¬EndsLine s) ∧ Trimmed s

theorem trimRight_cons (p : Char → Bool) (c : Char) (s : Text) :
    trimRight p (c :: s) =
      if p c = true ∧ trimRight p s = [] then [] else c :: trimRight p s := by
  rw [trimRight, trimRight, List.reverse_cons, List.dropWhile_append]
  by_cases hs : s.reverse.dropWhile p = []
  · by_cases hc : p c = true
    · simp [hs, hc]
    · simp [hs, hc]
  · simp [hs]

/-- A text has a first line, and no line feed in it. -/
theorem exists_splitOn_eq_cons (separator : Char) (s : Text) :
    ∃ line lines, splitOn separator s = line :: lines ∧ separator ∉ line := by
  induction s with
  | nil => exact ⟨[], [], rfl, by simp⟩
  | cons c s ih =>
      obtain ⟨line, lines, hlines, hline⟩ := ih
      by_cases hc : c = separator
      · exact ⟨[], splitOn separator s, by simp [splitOn, hc], by simp⟩
      · refine ⟨c :: line, lines, by simp [splitOn, hc, hlines], ?_⟩
        simp [hline, Ne.symm hc]

/-- What stands behind the first line of a text. -/
def behindLine (lines : List Text) : Text :=
  if lines = [] then [] else '\n' :: join ['\n'] lines

theorem join_cons (line : Text) (lines : List Text) :
    join ['\n'] (line :: lines) = line ++ behindLine lines := by
  cases lines with
  | nil => simp [join, behindLine]
  | cons next lines => simp [join, behindLine]

/-- A line ends where a text starts whose first line is empty. -/
theorem endsLine_append_iff {line : Text} (h : '\n' ∉ line) (lines : List Text) :
    EndsLine (line ++ behindLine lines) ↔ line = [] := by
  cases line with
  | nil =>
      refine ⟨fun _ => rfl, fun _ => ?_⟩
      by_cases hlines : lines = []
      · exact Or.inl (by simp [behindLine, hlines])
      · exact Or.inr (by simp [behindLine, hlines])
  | cons c line =>
      have hc : c ≠ '\n' := (List.ne_of_not_mem_cons h).symm
      simp [EndsLine, hc]

/-- Lines are trimmed from the end of the text on: a blank is left out where a line ends
behind it. -/
theorem trimLines_cons (c : Char) (s : Text) :
    trimLines (c :: s) =
      if isTrailingBlank c = true ∧ EndsLine (trimLines s) then trimLines s
      else c :: trimLines s := by
  obtain ⟨line, lines, hlines, hline⟩ := exists_splitOn_eq_cons '\n' s
  have hrest : trimLines s =
      trimRight isTrailingBlank line ++ behindLine (lines.map (trimRight isTrailingBlank)) := by
    rw [trimLines, hlines, List.map_cons, join_cons]
  by_cases hc : c = '\n'
  · subst hc
    have hwhole : trimLines ('\n' :: s) = '\n' :: trimLines s := by
      simp [trimLines, splitOn, hlines, join_cons, behindLine, trimRight]
    have hblank : isTrailingBlank '\n' = false := rfl
    simp [hwhole, hblank]
  · have hfirst : '\n' ∉ trimRight isTrailingBlank line := by
      intro hmem
      have hdropped := (List.dropWhile_suffix _).subset (List.mem_reverse.1 hmem)
      exact hline (List.mem_reverse.1 hdropped)
    have hwhole : trimLines (c :: s) = trimRight isTrailingBlank (c :: line) ++
        behindLine (lines.map (trimRight isTrailingBlank)) := by
      simp only [trimLines, splitOn, hc, if_false, hlines, List.map_cons, join_cons]
    rw [hwhole, hrest, trimRight_cons]
    simp only [endsLine_append_iff hfirst]
    split
    next h => rw [h.2]
    next => rfl

theorem trimmed_trimLines (s : Text) : Trimmed (trimLines s) := by
  induction s with
  | nil => trivial
  | cons c s ih =>
      rw [trimLines_cons]
      split
      · exact ih
      next h => exact ⟨fun hc hends => h ⟨hc, hends⟩, ih⟩

theorem Trimmed.trimLines_eq {s : Text} (h : Trimmed s) : trimLines s = s := by
  induction s with
  | nil => rfl
  | cons c s ih =>
      rw [trimLines_cons, ih h.2, if_neg]
      exact fun hc => h.1 hc.1 hc.2

/-- Line feeds can be left out of a trimmed text. -/
theorem Trimmed.limitFeeds {s : Text} (h : Trimmed s) (seen : Nat) :
    Trimmed (limitFeeds seen s) := by
  induction s generalizing seen with
  | nil => trivial
  | cons c s ih =>
      rw [Text.limitFeeds]
      split
      next hfeed =>
        subst hfeed
        split
        · exact ⟨fun hc => Bool.noConfusion hc, ih h.2 _⟩
        · exact ih h.2 _
      next =>
        refine ⟨fun hc hends => ?_, ih h.2 0⟩
        cases s with
        | nil => exact h.1 hc (Or.inl rfl)
        | cons d s =>
            by_cases hd : d = '\n'
            · exact h.1 hc (Or.inr (by simp [hd]))
            · simp [EndsLine, Text.limitFeeds, hd] at hends

theorem limitFeeds_limitFeeds (seen : Nat) (s : Text) :
    limitFeeds seen (limitFeeds seen s) = limitFeeds seen s := by
  induction s generalizing seen with
  | nil => rfl
  | cons c s ih =>
      by_cases hfeed : c = '\n'
      · by_cases hseen : seen < 2
        · simp [limitFeeds, hfeed, hseen, ih]
        · simp [limitFeeds, hfeed, hseen, ih]
      · simp [limitFeeds, hfeed, ih]

/-- A tidied text is tidy. -/
theorem tidy_tidy (s : Text) : tidy (tidy s) = tidy s := by
  have htrimmed : trimLines (tidy s) = tidy s :=
    ((trimmed_trimLines s).limitFeeds 0).trimLines_eq
  calc tidy (tidy s) = limitFeeds 0 (tidy s) := by rw [tidy, htrimmed]
    _ = tidy s := limitFeeds_limitFeeds 0 (trimLines s)

/-- A single line is trimmed when no blank stands at its end. -/
theorem trimmed_of_notMem {s : Text} (hfeed : '\n' ∉ s)
    (hlast : ∀ c ∈ s.getLast?, isTrailingBlank c = false) : Trimmed s := by
  induction s with
  | nil => trivial
  | cons c s ih =>
      have hrest : '\n' ∉ s := List.not_mem_of_not_mem_cons hfeed
      refine ⟨fun hblank hends => ?_, ih hrest fun d hd => hlast d ?_⟩
      · rcases hends with rfl | hhead
        · exact Bool.false_ne_true ((hlast c rfl).symm.trans hblank)
        · exact hrest (List.mem_of_mem_head? hhead)
      · rw [List.getLast?_cons, hd]
        rfl

theorem limitFeeds_of_notMem {s : Text} (hfeed : '\n' ∉ s) (seen : Nat) :
    limitFeeds seen s = s := by
  induction s generalizing seen with
  | nil => rfl
  | cons c s ih =>
      have hc : c ≠ '\n' := (List.ne_of_not_mem_cons hfeed).symm
      rw [limitFeeds, if_neg hc, ih (List.not_mem_of_not_mem_cons hfeed)]

/-- A single line that ends with no blank is tidy. -/
theorem tidy_of_notMem {s : Text} (hfeed : '\n' ∉ s)
    (hlast : ∀ c ∈ s.getLast?, isTrailingBlank c = false) : tidy s = s := by
  rw [tidy, (trimmed_of_notMem hfeed hlast).trimLines_eq, limitFeeds_of_notMem hfeed]

theorem length_trimLines_le (s : Text) : (trimLines s).length ≤ s.length := by
  induction s with
  | nil => exact Nat.le_refl _
  | cons c s ih =>
      rw [trimLines_cons]
      split
      · exact Nat.le_succ_of_le ih
      · exact Nat.succ_le_succ ih

theorem length_limitFeeds_le (seen : Nat) (s : Text) : (limitFeeds seen s).length ≤ s.length := by
  induction s generalizing seen with
  | nil => exact Nat.le_refl _
  | cons c s ih =>
      rw [limitFeeds]
      split
      · split
        · exact Nat.succ_le_succ (ih _)
        · exact Nat.le_succ_of_le (ih _)
      · exact Nat.succ_le_succ (ih _)

/-- Tidying makes no text longer. -/
theorem length_tidy_le (s : Text) : (tidy s).length ≤ s.length :=
  Nat.le_trans (length_limitFeeds_le 0 _) (length_trimLines_le s)

end BlockWeave.Text
