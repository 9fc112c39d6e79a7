import BlockWeave.Shorthand
import Mathlib.Data.List.Infix
import Mathlib.Data.List.TakeWhile

/-!
# Where shorthands stand

The two shorthands are given by what they are written like. A text in which neither stands is
not changed by expanding them, and neither is any part of it. Where shorthands do stand, a part
of the text is copied when none of them reaches into it.
-/

namespace BlockWeave

namespace Text

variable {read? : Text → Option (Text × Text)}

/-- What a reader leaves is the end of what it has read. -/
def LeavesEnd (read? : Text → Option (Text × Text)) : Prop :=
  ∀ {s found left : Text}, read? s = some (found, left) → left <:+ s

/-- No place that a reader accepts reaches into a part of a text, in front of what stands
behind that part. -/
def Spares (read? : Text → Option (Text × Text)) (text part behind : Text) : Prop :=
  ∀ rest found left, rest <:+ text → read? rest = some (found, left) →
    rest.length ≤ behind.length ∨ (part ++ behind).length ≤ left.length

theorem spares_iff_all {text part behind : Text} :
    Spares read? text part behind ↔ text.tails.all fun rest => (read? rest).all fun result =>
      rest.length ≤ behind.length || (part ++ behind).length ≤ result.2.length := by
  simp only [Spares, List.all_eq_true, List.mem_tails, Option.all_eq_true, Bool.or_eq_true,
    decide_eq_true_eq, Prod.forall]
  exact ⟨fun h rest hrest found left => h rest found left hrest,
    fun h rest found left hrest => h rest hrest found left⟩

instance (text part behind : Text) : Decidable (Spares read? text part behind) :=
  decidable_of_iff _ spares_iff_all.symm

theorem Spares.of_suffix {text tail part behind : Text} (h : Spares read? text part behind)
    (htail : tail <:+ text) : Spares read? tail part behind :=
  fun rest found left hrest => h rest found left (hrest.trans htail)

/-- A character stays where the reader takes nothing. -/
theorem substitute_cons_of_le {c : Char} {s : Text}
    (h : ∀ found left, read? (c :: s) = some (found, left) → (c :: s).length ≤ left.length) :
    substitute read? (c :: s) = c :: substitute read? s := by
  rw [substitute]
  split
  next found left hread => rw [dif_neg (Nat.not_lt.2 (h found left hread))]
  next => rfl

/-- Where the reader takes something, the replacement stands, and the pass goes on behind it. -/
theorem substitute_of_lt {s found left : Text} (h : read? s = some (found, left))
    (hshort : left.length < s.length) :
    substitute read? s = found ++ substitute read? left := by
  cases s with
  | nil => cases hshort
  | cons c s =>
      rw [substitute, h]
      exact dif_pos hshort

/-- A part that is spared is copied, with what is behind it. -/
theorem Spares.substitute_eq {part behind : Text}
    (h : Spares read? (part ++ behind) part behind) :
    substitute read? (part ++ behind) = part ++ substitute read? behind := by
  -- The induction is on what is left of the part: a place that starts there takes nothing.
  have hcopies (done rest : Text) (hpart : part = done ++ rest) :
      substitute read? (rest ++ behind) = rest ++ substitute read? behind := by
    induction rest generalizing done with
    | nil => rfl
    | cons c rest ih =>
        have hstep : substitute read? (c :: (rest ++ behind)) =
            c :: substitute read? (rest ++ behind) := by
          refine substitute_cons_of_le fun found left hread => ?_
          have hplace : c :: (rest ++ behind) <:+ part ++ behind :=
            ⟨done, by rw [hpart, List.append_assoc, List.cons_append]⟩
          have hshort := hplace.length_le
          rcases h _ found left hplace hread with hbehind | hfar
          · simp only [List.length_cons, List.length_append] at hbehind
            omega
          · exact Nat.le_trans hshort hfar
        rw [List.cons_append, hstep, ih (done ++ [c]) (by simp [hpart]), List.cons_append]
  exact hcopies [] part rfl

/-- A part that is spared is copied, wherever it stands. -/
theorem Spares.exists_substitute_eq (hleaves : LeavesEnd read?) {before part behind : Text}
    (h : Spares read? (before ++ (part ++ behind)) part behind) :
    ∃ lead, substitute read? (before ++ (part ++ behind)) =
      lead ++ (part ++ substitute read? behind) := by
  induction hn : before.length using Nat.strong_induction_on generalizing before with
  | _ n ih =>
      subst hn
      cases before with
      | nil =>
          rw [List.nil_append] at h ⊢
          exact ⟨[], h.substitute_eq⟩
      | cons c before =>
          have hnext (rest : Text) (hrest : rest <:+ before) :
              ∃ lead, substitute read? (rest ++ (part ++ behind)) =
                lead ++ (part ++ substitute read? behind) := by
            have hshort := hrest.length_le
            refine ih rest.length (by rw [List.length_cons]; omega) (h.of_suffix ?_) rfl
            obtain ⟨skipped, rfl⟩ := hrest
            exact ⟨c :: skipped, by simp⟩
          rw [List.cons_append, substitute]
          split
          next found left hread =>
            split
            next hless =>
              rcases h _ found left (List.suffix_refl _) hread with hbehind | hfar
              · simp only [List.cons_append, List.length_cons, List.length_append] at hbehind
                omega
              · -- The place ends in front of the part, so what is left has the part in it.
                have hleft : left <:+ before ++ (part ++ behind) := by
                  rcases List.suffix_cons_iff.1 (hleaves hread) with rfl | hleft
                  · exact absurd hless (Nat.lt_irrefl _)
                  · exact hleft
                obtain ⟨rest, rfl⟩ := List.suffix_of_suffix_length_le
                  (List.suffix_append before (part ++ behind)) hleft hfar
                have hrest : rest <:+ before := by
                  obtain ⟨skipped, hskipped⟩ := hleft
                  rw [← List.append_assoc] at hskipped
                  exact ⟨skipped, List.append_cancel_right hskipped⟩
                obtain ⟨lead, hlead⟩ := hnext rest hrest
                exact ⟨found ++ lead, by rw [hlead, List.append_assoc]⟩
            next =>
              obtain ⟨lead, hlead⟩ := hnext before (List.suffix_refl _)
              exact ⟨c :: lead, by rw [hlead, List.cons_append]⟩
          next =>
            obtain ⟨lead, hlead⟩ := hnext before (List.suffix_refl _)
            exact ⟨c :: lead, by rw [hlead, List.cons_append]⟩

end Text

namespace Shorthand

open Text (isBlank isWord dropLead? substitute)

/-- A text of blanks of any script. -/
def Spaces (s : Text) : Prop :=
  ∀ c ∈ s, isBlank c = true

/-- Leads in a row, each of them behind blanks. -/
inductive Tokens : List Text → Text → Prop
  | nil : Tokens [] []
  | cons {lead leads blanks rest} (hblanks : Spaces blanks) (h : Tokens leads rest) :
      Tokens (lead :: leads) (blanks ++ (lead ++ rest))

/-- How a comment function is written: a function without a name and parameters behind
`/*#*/`, whose body is a comment and may go on with blanks and semicolons. -/
inductive CommentFunction : Text → Prop
  | mk {head body ending}
      (hhead : Tokens [functionWord, ['('], [')'], ['\x7b'], ['/', '*']] head)
      (hending : ∀ c ∈ ending, (isBlank c || c == ';') = true) :
      CommentFunction (['/', '*', '#', '*', '/'] ++
        (head ++ (body ++ (['*', '/'] ++ (ending ++ ['\x7d'])))))

/-- The name of a function with the blanks in front of it, or nothing. -/
inductive OptionalName : Text → Prop
  | none : OptionalName []
  | name {blanks word} (hblanks : Spaces blanks) (hne : blanks ≠ [])
      (hword : ∀ c ∈ word, (isWord c || c == '$') = true) (hsome : word ≠ []) :
      OptionalName (blanks ++ word)

/-- How a signature function is written: the head of a function behind `/*,*/`, with
something between its parentheses. -/
inductive SignatureFunction : Text → Prop
  | mk {blanks name gap inside} (hblanks : Spaces blanks) (hname : OptionalName name)
      (hgap : Spaces gap) (hinside : ∀ c ∈ inside, c ≠ '(' ∧ c ≠ ')') (hne : inside ≠ []) :
      SignatureFunction (['/', '*', ',', '*', '/'] ++ (blanks ++ (functionWord ++
        (name ++ (gap ++ (['('] ++ (inside ++ [')'])))))))

/-- No shorthand stands in a text. -/
def Free (s : Text) : Prop :=
  ∀ place, place <:+: s → ¬CommentFunction place ∧ ¬SignatureFunction place

theorem Free.of_infix {s part : Text} (h : Free s) (hpart : part <:+: s) : Free part :=
  fun place hplace => h place (hplace.trans hpart)

/-- Where neither of the comments stands that a shorthand starts with, no shorthand does. -/
theorem free_of_not_infix {s : Text} (hcomment : ¬['/', '*', '#', '*', '/'] <:+: s)
    (hsignature : ¬['/', '*', ',', '*', '/'] <:+: s) : Free s := by
  intro place hplace
  constructor
  · rintro ⟨-, -⟩
    exact hcomment ((List.prefix_append _ _).isInfix.trans hplace)
  · rintro ⟨-, -, -, -, -⟩
    exact hsignature ((List.prefix_append _ _).isInfix.trans hplace)

/-- Each of these comments has a character of its own. -/
theorem free_of_notMem {s : Text} (hhash : '#' ∉ s) (hcomma : ',' ∉ s) : Free s :=
  free_of_not_infix (fun hlead => hhash (hlead.subset (by simp)))
    (fun hlead => hcomma (hlead.subset (by simp)))

theorem spaces_takeWhile (s : Text) : Spaces (s.takeWhile isBlank) :=
  fun _ hc => List.mem_takeWhile_imp hc

/-- Blanks and what is behind them are the whole text. -/
theorem exists_spaces (s : Text) : ∃ blanks, Spaces blanks ∧ s = blanks ++ skipBlanks s :=
  ⟨_, spaces_takeWhile s, List.takeWhile_append_dropWhile.symm⟩

theorem exists_of_token? {lead s rest : Text} (h : token? lead s = some rest) :
    ∃ blanks, Spaces blanks ∧ s = blanks ++ (lead ++ rest) := by
  obtain ⟨blanks, hblanks, hs⟩ := exists_spaces s
  rw [token?, Text.dropLead?_eq_some_iff] at h
  exact ⟨blanks, hblanks, h ▸ hs⟩

theorem exists_of_commentBody? {s body rest : Text} (h : commentBody? s = some (body, rest)) :
    ∃ ending, (∀ c ∈ ending, (isBlank c || c == ';') = true) ∧
      s = body ++ (['*', '/'] ++ (ending ++ (['\x7d'] ++ rest))) := by
  induction s generalizing body with
  | nil => cases h
  | cons c s ih =>
      simp only [commentBody?, Option.bind_eq_bind] at h
      split at h
      next found hhere =>
        obtain ⟨behind, hstar, hbrace⟩ := Option.bind_eq_some_iff.1 hhere
        cases h
        refine ⟨behind.takeWhile fun d => isBlank d || d == ';', fun d hd =>
          List.mem_takeWhile_imp (p := fun d => isBlank d || d == ';') hd, ?_⟩
        rw [Text.dropLead?_eq_some_iff.1 hstar, ← Text.dropLead?_eq_some_iff.1 hbrace,
          List.takeWhile_append_dropWhile, List.nil_append]
      next =>
        obtain ⟨⟨inner, behind⟩, hinner, he⟩ := Option.map_eq_some_iff.1 h
        cases he
        obtain ⟨ending, hending, hs⟩ := ih hinner
        exact ⟨ending, hending, congrArg (c :: ·) hs⟩

/-- What is read as a comment function is one. -/
theorem exists_of_commentFunction? {s found rest : Text}
    (h : commentFunction? s = some (found, rest)) :
    ∃ place, CommentFunction place ∧ s = place ++ rest := by
  simp only [commentFunction?, Option.bind_eq_bind, Option.bind_eq_some_iff, Option.pure_def,
    Option.some.injEq] at h
  obtain ⟨s₁, h₁, s₂, h₂, s₃, h₃, s₄, h₄, s₅, h₅, s₆, h₆, ⟨body, rest'⟩, h₇, he⟩ := h
  cases he
  obtain ⟨b₂, hb₂, e₂⟩ := exists_of_token? h₂
  obtain ⟨b₃, hb₃, e₃⟩ := exists_of_token? h₃
  obtain ⟨b₄, hb₄, e₄⟩ := exists_of_token? h₄
  obtain ⟨b₅, hb₅, e₅⟩ := exists_of_token? h₅
  obtain ⟨b₆, hb₆, e₆⟩ := exists_of_token? h₆
  obtain ⟨ending, hending, e₇⟩ := exists_of_commentBody? h₇
  -- An exclamation mark in front of the comment's text counts as part of the comment.
  obtain ⟨mark, hmark⟩ : ∃ mark, s₆ = mark ++ (dropLead? ['!'] s₆).getD s₆ := by
    cases hdrop : dropLead? ['!'] s₆ with
    | none => exact ⟨[], rfl⟩
    | some behind => exact ⟨['!'], Text.dropLead?_eq_some_iff.1 hdrop⟩
  refine ⟨_, @CommentFunction.mk _ (mark ++ body) _
    (.cons hb₂ (.cons hb₃ (.cons hb₄ (.cons hb₅ (.cons hb₆ .nil))))) hending, ?_⟩
  rw [Text.dropLead?_eq_some_iff.1 h₁, e₂, e₃, e₄, e₅, e₆]
  conv => lhs; rw [hmark, e₇]
  simp only [List.append_assoc, List.append_nil]

theorem exists_of_skipName (s : Text) : ∃ name, OptionalName name ∧ s = name ++ skipName s := by
  rw [skipName]
  split
  next h =>
    simp only [Bool.and_eq_true, decide_eq_true_eq] at h
    obtain ⟨hhead, hlength⟩ := h
    have hword := List.takeWhile_append_dropWhile (p := fun c => isWord c || c == '$')
      (l := skipBlanks s)
    refine ⟨s.takeWhile isBlank ++ (skipBlanks s).takeWhile fun c => isWord c || c == '$',
      .name (spaces_takeWhile s) ?_ (fun c hc =>
        List.mem_takeWhile_imp (p := fun c => isWord c || c == '$') hc) ?_, ?_⟩
    · cases s with
      | nil => cases hhead
      | cons c s =>
          have hc : isBlank c = true := by simpa using hhead
          simp [hc]
    · intro hnil
      rw [hnil, List.nil_append] at hword
      rw [hword] at hlength
      exact Nat.lt_irrefl _ hlength
    · rw [List.append_assoc, hword, skipBlanks, List.takeWhile_append_dropWhile]
  next => exact ⟨[], .none, rfl⟩

/-- What is read as a signature function is one. -/
theorem exists_of_signatureFunction? {s found rest : Text}
    (h : signatureFunction? s = some (found, rest)) :
    ∃ place, SignatureFunction place ∧ s = place ++ rest := by
  simp only [signatureFunction?, functionHead?, Option.bind_eq_bind, Option.bind_eq_some_iff,
    Option.pure_def, Option.some.injEq] at h
  obtain ⟨s₁, h₁, ⟨params, rest'⟩, ⟨s₂, h₂, s₃, h₃, s₄, h₄, hinside⟩, he⟩ := h
  split at hinside
  · cases hinside
  next hne =>
    cases hinside
    cases he
    obtain ⟨blanks, hblanks, e₁⟩ := exists_spaces s₁
    obtain ⟨name, hname, e₂⟩ := exists_of_skipName s₂
    obtain ⟨gap, hgap, e₃⟩ := exists_of_token? h₃
    refine ⟨_, .mk hblanks hname hgap (fun c hc => ?_) hne, ?_⟩
    · simpa using List.mem_takeWhile_imp hc
    · have hsplit := List.takeWhile_append_dropWhile (p := fun c => c != '(' && c != ')') (l := s₃)
      rw [Text.dropLead?_eq_some_iff.1 h₄] at hsplit
      rw [Text.dropLead?_eq_some_iff.1 h₁, e₁, Text.dropLead?_eq_some_iff.1 h₂, e₂, e₃]
      conv => lhs; rw [← hsplit]
      simp only [List.append_assoc]

theorem leavesEnd_commentFunction? : Text.LeavesEnd commentFunction? := by
  intro s found left h
  obtain ⟨place, -, hs⟩ := exists_of_commentFunction? h
  exact ⟨place, hs.symm⟩

theorem leavesEnd_signatureFunction? : Text.LeavesEnd signatureFunction? := by
  intro s found left h
  obtain ⟨place, -, hs⟩ := exists_of_signatureFunction? h
  exact ⟨place, hs.symm⟩

/-- A text has nothing to replace when nothing stands in it that the reader takes. -/
theorem substitute_eq_of_forall_not {read? : Text → Option (Text × Text)} {IsPlace : Text → Prop}
    (hread : ∀ {s found rest}, read? s = some (found, rest) →
      ∃ place, IsPlace place ∧ s = place ++ rest) {s : Text}
    (h : ∀ place, place <:+: s → ¬IsPlace place) : substitute read? s = s := by
  refine Text.substitute_eq_self fun before rest hrest => ?_
  rw [Option.eq_none_iff_forall_ne_some]
  rintro ⟨found, left⟩ hfound
  obtain ⟨place, hplace, rfl⟩ := hread hfound
  exact h place ⟨before, left, by rw [hrest, List.append_assoc]⟩ hplace

/-- A text in which no shorthand stands has nothing to expand. -/
theorem Free.expand_eq {s : Text} (h : Free s) : expand s = s := by
  have hcomment : substitute commentFunction? s = s :=
    substitute_eq_of_forall_not exists_of_commentFunction? fun place hplace => (h place hplace).1
  have hsignature : substitute signatureFunction? s = s :=
    substitute_eq_of_forall_not exists_of_signatureFunction? fun place hplace =>
      (h place hplace).2
  rw [expand, hcomment, hsignature]

/-- No shorthand reaches into a part of a text: no comment function, and no signature function
once the comment functions are expanded. -/
def Spares (before part behind : Text) : Prop :=
  Text.Spares commentFunction? (before ++ (part ++ behind)) part behind ∧
    Text.Spares signatureFunction? (substitute commentFunction? (before ++ (part ++ behind))) part
      (substitute commentFunction? behind)

instance (before part behind : Text) : Decidable (Spares before part behind) :=
  inferInstanceAs (Decidable (_ ∧ _))

/-- A part that is spared is still there when the shorthands are expanded. -/
theorem Spares.infix_expand {before part behind : Text} (h : Spares before part behind) :
    part <:+: expand (before ++ (part ++ behind)) := by
  obtain ⟨hcomment, hsignature⟩ := h
  obtain ⟨lead, hlead⟩ := hcomment.exists_substitute_eq leavesEnd_commentFunction?
  rw [hlead] at hsignature
  obtain ⟨front, hfront⟩ := hsignature.exists_substitute_eq leavesEnd_signatureFunction?
  rw [expand, hlead, hfront]
  exact ⟨front, _, List.append_assoc front part _⟩

end Shorthand
end BlockWeave
