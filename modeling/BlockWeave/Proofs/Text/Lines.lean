import BlockWeave.Proofs.Path
import BlockWeave.Proofs.Text.Tidy
import Mathlib.Data.List.DropRight
import Mathlib.Data.List.Infix

/-!
# The lines of a tidied text

A text is tidy when no blank stands at the end of a line and no two lines in a row are empty.
Tidying gives such a text, leaves a text alone exactly when it is tidy, and keeps all lines that
are not empty when the blanks at their end are taken off.
-/

namespace BlockWeave.Text

/-- Space, tab, vertical tab and form feed. -/
def lineBlanks : List Char := [' ', '\t', '\x0b', '\x0c']

theorem isTrailingBlank_iff {c : Char} : isTrailingBlank c = true ↔ c ∈ lineBlanks := by
  simp only [isTrailingBlank, lineBlanks, Bool.or_eq_true, beq_iff_eq, List.mem_cons,
    List.not_mem_nil, or_false, ← Char.toNat_inj]
  rw [or_assoc, or_assoc]
  rfl

/-- The normal form of texts. -/
structure Tidy (s : Text) : Prop where
  /-- No blank stands before a line feed or at the end. -/
  blanks : ∀ c ∈ lineBlanks, ¬[c, '\n'] <:+: s ∧ ¬[c] <:+ s
  /-- No three line feeds stand in a row. -/
  feeds : ¬['\n', '\n', '\n'] <:+: s

section Blanks

theorem singleton_prefix_iff {c : Char} {s : Text} : [c] <+: s ↔ s.head? = some c := by
  cases s with
  | nil => simp
  | cons d s => simp [List.cons_prefix_cons, eq_comm]

/-- A blank at the start of a text ends a line when the line ends behind it. -/
theorem not_endsLine_cons {c d : Char} {s : Text} :
    (¬[c, '\n'] <:+: d :: s ∧ ¬[c] <:+ d :: s) ↔
      (c = d → ¬EndsLine s) ∧ ¬[c, '\n'] <:+: s ∧ ¬[c] <:+ s := by
  rw [List.infix_cons_iff, List.suffix_cons_iff, List.cons_prefix_cons, singleton_prefix_iff,
    List.cons.injEq, EndsLine, @eq_comm Text []]
  constructor
  · rintro ⟨hfeed, hend⟩
    refine ⟨fun hc hends => ?_, fun h => hfeed (Or.inr h), fun h => hend (Or.inr h)⟩
    rcases hends with hs | hs
    · exact hend (Or.inl ⟨hc, hs⟩)
    · exact hfeed (Or.inl ⟨hc, hs⟩)
  · rintro ⟨hfirst, hfeed, hend⟩
    constructor
    · rintro (⟨hc, hs⟩ | h)
      · exact hfirst hc (Or.inr hs)
      · exact hfeed h
    · rintro (⟨hc, hs⟩ | h)
      · exact hfirst hc (Or.inl hs)
      · exact hend h

theorem trimmed_iff {s : Text} :
    Trimmed s ↔ ∀ c ∈ lineBlanks, ¬[c, '\n'] <:+: s ∧ ¬[c] <:+ s := by
  induction s with
  | nil => simp [Trimmed]
  | cons d s ih =>
      simp only [Trimmed, ih, not_endsLine_cons, isTrailingBlank_iff]
      constructor
      · rintro ⟨hfirst, hrest⟩ c hc
        exact ⟨fun he => hfirst (he ▸ hc), hrest c hc⟩
      · intro h
        exact ⟨fun hd => (h d hd).1 rfl, fun c hc => (h c hc).2⟩

end Blanks

section Feeds

/-- Line feeds behind others stay exactly when there are at most two in a row. -/
theorem limitFeeds_eq_self_iff {seen : Nat} (hseen : seen ≤ 2) {s : Text} :
    limitFeeds seen s = s ↔
      ¬List.replicate (3 - seen) '\n' <+: s ∧ ¬['\n', '\n', '\n'] <:+: s := by
  induction s generalizing seen with
  | nil =>
      have hpos : 3 - seen ≠ 0 := by omega
      simp [limitFeeds, hpos]
  | cons c s ih =>
      obtain ⟨left, hleft⟩ : ∃ left, 3 - seen = left + 1 := ⟨2 - seen, by omega⟩
      rw [limitFeeds, List.infix_cons_iff, hleft, List.replicate_succ, List.cons_prefix_cons,
        List.cons_prefix_cons]
      by_cases hfeed : c = '\n'
      · subst hfeed
        by_cases hlow : seen < 2
        · have hnext : 3 - (seen + 1) = left := by omega
          -- Two line feeds behind this one are also as many as may not follow it.
          have hshort : ['\n', '\n'] <+: s → List.replicate left '\n' <+: s := by
            apply List.IsPrefix.trans
            refine ⟨List.replicate seen '\n', ?_⟩
            rw [List.replicate_append_replicate, show left + seen = 2 by omega]
            rfl
          rw [if_pos rfl, if_pos hlow, List.cons.injEq, ih (by omega), hnext]
          simp only [true_and, not_or]
          constructor
          · rintro ⟨hmany, hthree⟩
            exact ⟨hmany, fun htwo => hmany (hshort htwo), hthree⟩
          · rintro ⟨hmany, -, hthree⟩
            exact ⟨hmany, hthree⟩
        · have hlength := length_limitFeeds_le seen s
          have hne : limitFeeds seen s ≠ '\n' :: s := by
            intro he
            rw [he, List.length_cons] at hlength
            omega
          have hnone : left = 0 := by omega
          simp [hlow, hne, hnone]
      · have hother : ('\n' = c) = False := eq_false (Ne.symm hfeed)
        rw [if_neg hfeed, List.cons.injEq, ih (Nat.zero_le 2)]
        simp only [true_and, hother, false_and, not_false_iff, false_or]
        constructor
        · exact fun h => h.2
        · intro hthree
          exact ⟨fun h => hthree h.isInfix, hthree⟩

/-- Tidying leaves a text alone exactly when it is tidy. -/
theorem tidy_eq_self_iff {s : Text} : tidy s = s ↔ Tidy s := by
  constructor
  · intro h
    have htrimmed : Trimmed s := h ▸ (trimmed_trimLines s).limitFeeds 0
    rw [tidy, htrimmed.trimLines_eq] at h
    exact ⟨trimmed_iff.1 htrimmed, ((limitFeeds_eq_self_iff (Nat.zero_le 2)).1 h).2⟩
  · rintro ⟨hblanks, hfeeds⟩
    rw [tidy, (trimmed_iff.2 hblanks).trimLines_eq, limitFeeds_eq_self_iff (Nat.zero_le 2)]
    exact ⟨fun h => hfeeds h.isInfix, hfeeds⟩

end Feeds

section Lines

theorem splitOn_eq (separator : Char) (s : Text) :
    splitOn separator s = List.splitOn separator s := by
  induction s with
  | nil => rfl
  | cons c s ih =>
      obtain ⟨line, lines, hlines, -⟩ := exists_splitOn_eq_cons separator s
      change _ = List.splitOnP (· == separator) (c :: s)
      rw [List.splitOnP_cons_eq_if_modifyHead, splitOn, ← show _ = List.splitOnP _ s from ih,
        hlines]
      simp

theorem notMem_of_mem_splitOn {separator : Char} {s piece : Text}
    (h : piece ∈ splitOn separator s) : separator ∉ piece := by
  induction s generalizing piece with
  | nil =>
      rw [List.mem_singleton.1 h]
      exact List.not_mem_nil
  | cons c s ih =>
      obtain ⟨line, lines, hlines, hline⟩ := exists_splitOn_eq_cons separator s
      rw [splitOn, hlines] at h
      split at h
      · rcases List.mem_cons.1 h with rfl | h
        · exact List.not_mem_nil
        · exact ih (hlines ▸ h)
      next hc =>
        rcases List.mem_cons.1 h with rfl | h
        · exact List.not_mem_cons_of_ne_of_not_mem (Ne.symm hc) hline
        · exact ih (hlines ▸ List.mem_cons_of_mem _ h)

theorem trimRight_eq (s : Text) :
    trimRight isTrailingBlank s = s.rdropWhile (· ∈ lineBlanks) := by
  have hclass : isTrailingBlank = fun c => decide (c ∈ lineBlanks) := by
    funext c
    rw [Bool.eq_iff_iff, isTrailingBlank_iff, decide_eq_true_iff]
  rw [trimRight, hclass, List.rdropWhile]

/-- The lines of a text that are not empty. -/
def fullLines (s : Text) : List Text :=
  (List.splitOn '\n' s).filter (· ≠ [])

theorem fullLines_of_notMem {line : Text} (h : '\n' ∉ line) :
    fullLines line = [line].filter (· ≠ []) := by
  rw [fullLines, ← splitOn_eq, splitOn_of_notMem h]

/-- What stands behind the first line feed of a text gives its other lines. -/
theorem fullLines_append {line : Text} (h : '\n' ∉ line) (s : Text) :
    fullLines (line ++ '\n' :: s) = [line].filter (· ≠ []) ++ fullLines s := by
  rw [fullLines, fullLines, ← splitOn_eq, ← splitOn_eq, splitOn_append h, ← List.filter_append,
    List.singleton_append]

/-- A line feed is counted from the last line that is not empty. -/
theorem limitFeeds_append {line : Text} (h : '\n' ∉ line) (hne : line ≠ []) (seen : Nat)
    (s : Text) : limitFeeds seen (line ++ s) = line ++ limitFeeds 0 s := by
  induction line generalizing seen with
  | nil => exact absurd rfl hne
  | cons c line ih =>
      have hc : c ≠ '\n' := (List.ne_of_not_mem_cons h).symm
      rw [List.cons_append, limitFeeds, if_neg hc, List.cons_append]
      by_cases hline : line = []
      · rw [hline, List.nil_append, List.nil_append]
      · rw [ih (List.not_mem_of_not_mem_cons h) hline]

/-- Leaving out line feeds loses empty lines only. -/
theorem fullLines_limitFeeds {lines : List Text} (h : ∀ line ∈ lines, '\n' ∉ line) (seen : Nat) :
    fullLines (limitFeeds seen (join ['\n'] lines)) = lines.filter (· ≠ []) := by
  induction lines generalizing seen with
  | nil => rfl
  | cons line lines ih =>
      obtain ⟨hline, hlines⟩ := List.forall_mem_cons.1 h
      rw [join_cons, behindLine, ← List.singleton_append (l := lines), List.filter_append]
      split
      next hlast =>
        rw [List.append_nil, limitFeeds_of_notMem hline, fullLines_of_notMem hline, hlast,
          List.filter_nil, List.append_nil]
      next hnext =>
        by_cases hempty : line = []
        · subst hempty
          rw [List.nil_append, limitFeeds, if_pos rfl]
          split
          · rw [← List.nil_append ('\n' :: _), fullLines_append hline, ih hlines]
          · rw [ih hlines]
            rfl
        · rw [limitFeeds_append hline hempty, limitFeeds, if_pos rfl, if_pos (by decide),
            fullLines_append hline, ih hlines]

end Lines

/-- Tidying is a normal form that keeps what a text says. Tidying again changes nothing, what it
gives is tidy, and it leaves alone exactly the texts that are tidy. The lines that are not empty
are those of the text without the blanks at their ends, in the same order. -/
theorem tidy_normal (t : Text) :
    tidy (tidy t) = tidy t ∧ Tidy (tidy t) ∧ (tidy t = t ↔ Tidy t) ∧
      fullLines (tidy t) =
        ((List.splitOn '\n' t).map (List.rdropWhile (· ∈ lineBlanks))).filter (· ≠ []) := by
  refine ⟨tidy_tidy t, tidy_eq_self_iff.1 (tidy_tidy t), tidy_eq_self_iff, ?_⟩
  have hlines : ∀ line ∈ (splitOn '\n' t).map (trimRight isTrailingBlank), '\n' ∉ line := by
    intro line hline hfeed
    obtain ⟨whole, hwhole, rfl⟩ := List.mem_map.1 hline
    rw [trimRight_eq] at hfeed
    have hkept : whole.rdropWhile (· ∈ lineBlanks) <+: whole := List.rdropWhile_prefix _ _
    exact notMem_of_mem_splitOn hwhole (hkept.subset hfeed)
  rw [tidy, trimLines, fullLines_limitFeeds hlines, splitOn_eq, funext trimRight_eq]

end BlockWeave.Text
