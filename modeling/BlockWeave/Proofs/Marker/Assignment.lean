import BlockWeave.Marker.Assignment
import Mathlib.Data.List.TakeWhile
import Mathlib.Tactic.IntervalCases

/-!
# Reading spaced assignments

The grammar of attributes is stated on the parts of an assignment. The reader of one
assignment and the reader of a run of them accept exactly what the grammar writes:
what follows a name is a blank or the equals sign, so a name is read to its end, and
a run of assignments stops where none starts.
-/

namespace BlockWeave

/-- A text of blanks only. -/
def Blanks (s : Text) : Prop :=
  ∀ c ∈ s, Text.isAsciiBlank c = true

/-- A text of name characters, at least one of them. -/
def IsName (s : Text) : Prop :=
  s ≠ [] ∧ ∀ c ∈ s, isNameChar c = true

theorem not_isNameChar_of_isAsciiBlank {c : Char} (h : Text.isAsciiBlank c = true) :
    isNameChar c = false := by
  have hcode : c.toNat = 32 ∨ (9 ≤ c.toNat ∧ c.toNat ≤ 13) := by
    simp only [Text.isAsciiBlank, Bool.or_eq_true, beq_iff_eq, Bool.and_eq_true,
      decide_eq_true_eq] at h
    rcases h with rfl | h
    · exact Or.inl (by decide)
    · exact Or.inr h
  have hc : c = Char.ofNat c.toNat := (Char.ofNat_toNat c).symm
  rcases hcode with h32 | ⟨hlow, hhigh⟩
  · rw [hc, h32]
    decide
  · rw [hc]
    generalize c.toNat = n at hlow hhigh
    interval_cases n <;> decide

theorem not_isAsciiBlank_of_isNameChar {c : Char} (h : isNameChar c = true) :
    Text.isAsciiBlank c = false := by
  by_contra hb
  have hn := not_isNameChar_of_isAsciiBlank (Bool.eq_true_of_not_eq_false hb)
  rw [h] at hn
  exact Bool.noConfusion hn

section Runs

variable {p : Char → Bool} {s rest : Text}

/-- A run of characters of a class is taken whole when no such character follows. -/
theorem takeWhile_run (hs : ∀ c ∈ s, p c = true) (hrest : rest.head?.all (!p ·) = true) :
    (s ++ rest).takeWhile p = s := by
  rw [List.takeWhile_append_of_pos hs]
  cases rest with
  | nil => simp
  | cons c rest => simp_all

/-- A run of characters of a class is dropped whole when no such character follows. -/
theorem dropWhile_run (hs : ∀ c ∈ s, p c = true) (hrest : rest.head?.all (!p ·) = true) :
    (s ++ rest).dropWhile p = rest := by
  rw [List.dropWhile_append_of_pos hs]
  cases rest with
  | nil => simp
  | cons c rest => simp_all

end Runs

namespace Assignment

/-- The grammar of an assignment: a name, blanks around the sign, and a value that is
neither empty nor holds a quote. -/
structure Proper (a : Assignment) : Prop where
  name : IsName a.name
  gapBefore : Blanks a.gapBefore
  gapAfter : Blanks a.gapAfter
  value_ne_nil : a.value ≠ []
  value_quote : '"' ∉ a.value

/-- The text of an assignment starts with a name character. -/
theorem Proper.head?_text {a : Assignment} (h : a.Proper) (rest : Text) :
    (a.text ++ rest).head?.all (!Text.isAsciiBlank ·) = true := by
  obtain ⟨hne, hchars⟩ := h.name
  obtain ⟨c, name, hname⟩ := List.exists_cons_of_ne_nil hne
  have hc := not_isAsciiBlank_of_isNameChar (hchars c (by simp [hname]))
  simp [text, hname, hc]

/-- A proper assignment is read back from the start of any text that continues it. -/
theorem read?_text {a : Assignment} (h : a.Proper) (rest : Text) :
    read? (a.text ++ rest) = some (a, rest) := by
  have hsplit : a.text ++ rest =
      a.name ++ (a.gapBefore ++ '=' :: (a.gapAfter ++ '"' :: (a.value ++ '"' :: rest))) := by
    simp [text]
  have hgap : (a.gapBefore ++ '=' :: (a.gapAfter ++ '"' :: (a.value ++ '"' :: rest))).head?.all
      (!isNameChar ·) = true := by
    cases hb : a.gapBefore with
    | nil => simp; decide
    | cons c gap =>
        have hc := h.gapBefore c (by simp [hb])
        simp [not_isNameChar_of_isAsciiBlank hc]
  have hequals : ('=' :: (a.gapAfter ++ '"' :: (a.value ++ '"' :: rest))).head?.all
      (!Text.isAsciiBlank ·) = true := by
    simp; decide
  have hquote : ('"' :: (a.value ++ '"' :: rest)).head?.all (!Text.isAsciiBlank ·) = true := by
    simp; decide
  have hvalue : ∀ c ∈ a.value, (c != '"') = true := by
    intro c hc
    simp only [bne_iff_ne, ne_eq]
    rintro rfl
    exact h.value_quote hc
  have hend : ('"' :: rest).head?.all (fun c => !(c != '"')) = true := by simp
  rw [hsplit]
  simp only [read?, dropWhile_run h.name.2 hgap, takeWhile_run h.name.2 hgap,
    dropWhile_run h.gapBefore hequals, takeWhile_run h.gapBefore hequals,
    dropWhile_run h.gapAfter hquote, takeWhile_run h.gapAfter hquote,
    dropWhile_run hvalue hend, takeWhile_run hvalue hend,
    h.name.1, h.value_ne_nil, or_self, if_false]

/-- Whatever is read is a proper assignment. -/
theorem proper_of_read? {s rest : Text} {a : Assignment} (h : read? s = some (a, rest)) :
    a.Proper := by
  simp only [read?] at h
  split at h
  next s₂ h₁ =>
    split at h
    next s₃ h₂ =>
      split at h
      next r h₃ =>
        split at h
        · simp at h
        next hne =>
          simp only [Option.some.injEq, Prod.mk.injEq] at h
          obtain ⟨rfl, rfl⟩ := h
          push Not at hne
          refine ⟨⟨hne.1, ?_⟩, ?_, ?_, hne.2, ?_⟩
          · exact fun c hc => List.mem_takeWhile_imp hc
          · exact fun c hc => List.mem_takeWhile_imp hc
          · exact fun c hc => List.mem_takeWhile_imp hc
          · intro hq
            have := List.mem_takeWhile_imp hq
            simp at this
      · simp at h
    · simp at h
  · simp at h

/-- No assignment starts where neither a blank nor the sign follows the name. -/
theorem read?_eq_none {name rest : Text} {c : Char} (hname : ∀ d ∈ name, isNameChar d = true)
    (hc : isNameChar c = false) (hblank : Text.isAsciiBlank c = false) (hsign : c ≠ '=') :
    read? (name ++ c :: rest) = none := by
  have hstop : (c :: rest).head?.all (!isNameChar ·) = true := by simp [hc]
  simp only [read?, dropWhile_run hname hstop]
  simp [hblank, hsign]

end Assignment

/-- The grammar of the items behind a tag. -/
def ProperItems (items : List (Text × Assignment)) : Prop :=
  ∀ item ∈ items, Blanks item.1 ∧ item.2.Proper

/-- The grammar of an attribute text: nothing, or proper assignments with blanks in
front of each. -/
def IsAttributeText (s : Text) : Prop :=
  ∃ items, ProperItems items ∧ s = attributeText items

/-- What is read behind a tag consists of proper assignments. -/
theorem properItems_attributeList (s : Text) : ProperItems (attributeList s).1 := by
  fun_induction attributeList s with
  | case1 s a rest h items last hrec ih =>
      rw [hrec] at ih
      intro item hitem
      rcases List.mem_cons.1 hitem with rfl | hmem
      · exact ⟨fun c hc => List.mem_takeWhile_imp hc, Assignment.proper_of_read? h⟩
      · exact ih item hmem
  | case2 s h =>
      intro item hitem
      simp at hitem

/-- Proper assignments are read back, up to a place where none starts. -/
theorem attributeList_attributeText {items : List (Text × Assignment)} (h : ProperItems items)
    {rest : Text} (hrest : Assignment.read? (rest.dropWhile Text.isAsciiBlank) = none) :
    attributeList (attributeText items ++ rest) = (items, rest) := by
  induction items with
  | nil =>
      rw [attributeList]
      split
      next a r hr => simp [attributeText, hrest] at hr
      next => simp [attributeText]
  | cons item items ih =>
      obtain ⟨hblanks, hproper⟩ := h item (by simp)
      have hitems : ProperItems items := fun other ho => h other (by simp [ho])
      have hsplit : attributeText (item :: items) ++ rest =
          item.1 ++ (item.2.text ++ (attributeText items ++ rest)) := by
        simp [attributeText]
      have hstop := hproper.head?_text (attributeText items ++ rest)
      have hread := Assignment.read?_text hproper (attributeText items ++ rest)
      rw [← dropWhile_run hblanks hstop] at hread
      rw [hsplit, attributeList]
      split
      next a r hr =>
        rw [hread] at hr
        simp only [Option.some.injEq, Prod.mk.injEq] at hr
        obtain ⟨rfl, rfl⟩ := hr
        rw [ih hitems, takeWhile_run hblanks hstop]
      next hr =>
        rw [hread] at hr
        simp at hr

end BlockWeave
