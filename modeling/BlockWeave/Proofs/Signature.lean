import BlockWeave.Proofs.Shorthand
import BlockWeave.Proofs.Text.Blank
import Mathlib.Data.List.Chain

/-!
# Signature functions are expanded once and for all

The names that are written in front of a signature function come from its own parameters, and
parameters may hold anything but parentheses, the start of another signature function included.
Still no signature function stands in the result: it would have to start in a list, where no
comma follows an asterisk, or in a function, where no parenthesis is opened any more, or to
reach over a list, behind which a parenthesis is opened before one is closed.
-/

namespace BlockWeave.Shorthand

open Text (isBlank isWord dropLead? substitute)

/-- The comment in front of a signature function. -/
def signatureLead : Text := ['/', '*', ',', '*', '/']

/-- The head of a function, from its first word to the parenthesis that closes its parameters,
and what stands between its parentheses. -/
inductive FunctionHead : Text → Text → Prop
  | mk {name gap inside} (hname : OptionalName name) (hgap : Spaces gap)
      (hinside : ∀ c ∈ inside, c ≠ '(' ∧ c ≠ ')') (hne : inside ≠ []) :
      FunctionHead (functionWord ++ (name ++ (gap ++ (['('] ++ (inside ++ [')']))))) inside

theorem signatureFunction_iff {place : Text} :
    SignatureFunction place ↔ ∃ blanks head inside, Spaces blanks ∧ FunctionHead head inside ∧
      place = signatureLead ++ (blanks ++ head) := by
  constructor
  · rintro ⟨hblanks, hname, hgap, hinside, hne⟩
    exact ⟨_, _, _, hblanks, .mk hname hgap hinside hne, rfl⟩
  · rintro ⟨blanks, _, inside, hblanks, ⟨hname, hgap, hinside, hne⟩, rfl⟩
    exact .mk hblanks hname hgap hinside hne

section Reading

variable {blanks name gap head inside s : Text} {c : Char}

theorem wordRanges_apart : ∀ blank ∈ Text.blankRanges, ∀ word ∈ Text.wordRanges,
    word.2 < blank.1 ∨ blank.2 < word.1 := by
  decide +kernel

/-- The digits come first among the letters, digits and the underscore of ASCII. -/
theorem le_toNat_of_isAsciiWord (h : Text.isAsciiWord c = true) : 48 ≤ c.toNat := by
  rcases Bool.or_eq_true_iff.1 h with halphanum | hunderscore
  · rcases Bool.or_eq_true_iff.1 halphanum with halpha | hdigit
    · rcases Bool.or_eq_true_iff.1 halpha with hupper | hlower
      · have hle := (of_decide_eq_true hupper).1
        exact Nat.le_trans (by decide) (UInt32.le_iff_toNat_le.1 hle)
      · have hle := of_decide_eq_true (Bool.and_eq_true_iff.1 hlower).1
        exact Nat.le_trans (by decide) (UInt32.le_iff_toNat_le.1 hle)
    · exact (Char.isDigit_iff_toNat.1 hdigit).1
  · obtain rfl := eq_of_beq hunderscore
    decide

/-- No blank belongs to a name. -/
theorem isBlank_eq_false_of_isName (h : (isWord c || c == '$') = true) : isBlank c = false := by
  rw [Bool.eq_false_iff]
  intro hblank
  rcases Bool.or_eq_true_iff.1 h with hword | hdollar
  · rw [isWord] at hword
    split at hword
    next hascii =>
      have hle := le_toNat_of_isAsciiWord hword
      simp only [isBlank, Bool.or_eq_true, Bool.and_eq_true, decide_eq_true_eq, beq_iff_eq]
        at hblank
      omega
    next hother =>
      obtain ⟨blank, hrange, hlow, hhigh⟩ := Text.isBlank_iff.1 hblank
      obtain ⟨word, hword, hfirst, hlast⟩ := (Text.inRanges_iff _ _).1 hword
      rcases wordRanges_apart blank hrange word hword with h | h <;> omega
  · obtain rfl := eq_of_beq hdollar
    exact absurd hblank (by decide)

theorem skipBlanks_append (h : Spaces blanks) (s : Text) :
    skipBlanks (blanks ++ s) = skipBlanks s := by
  rw [skipBlanks, List.dropWhile_append_of_pos h, skipBlanks]

theorem skipBlanks_cons (h : isBlank c = false) : skipBlanks (c :: s) = c :: s := by
  rw [skipBlanks, List.dropWhile_cons_of_neg (by simp [h])]

/-- Behind blanks, no name goes on in front of an opening parenthesis. -/
theorem dropWhile_name_open (hgap : Spaces gap) :
    (gap ++ '(' :: s).dropWhile (fun c => isWord c || c == '$') = gap ++ '(' :: s := by
  cases gap with
  | nil => rw [List.nil_append, List.dropWhile_cons_of_neg (by decide)]
  | cons c gap =>
      rw [List.cons_append, List.dropWhile_cons_of_neg]
      intro hname
      have hblank := hgap c (by simp)
      rw [isBlank_eq_false_of_isName hname] at hblank
      cases hblank

/-- The optional name of a function is passed over. -/
theorem skipName_append (hname : OptionalName name) (hgap : Spaces gap) :
    skipName (name ++ (gap ++ '(' :: s)) = gap ++ '(' :: s := by
  cases hname with
  | none =>
      have hskip : skipBlanks (gap ++ '(' :: s) = '(' :: s := by
        rw [skipBlanks_append hgap, skipBlanks_cons (by decide)]
      have hword : ('(' :: s).dropWhile (fun c => isWord c || c == '$') = '(' :: s :=
        List.dropWhile_cons_of_neg (by decide)
      rw [List.nil_append, skipName, hskip, hword]
      simp
  | @name blanks word hblanks hne hword hsome =>
      obtain ⟨c, blanks, rfl⟩ := List.exists_cons_of_ne_nil hne
      obtain ⟨d, word, rfl⟩ := List.exists_cons_of_ne_nil hsome
      have hskip : skipBlanks ((c :: blanks) ++ (d :: word) ++ (gap ++ '(' :: s)) =
          (d :: word) ++ (gap ++ '(' :: s) := by
        rw [List.append_assoc, skipBlanks_append hblanks, List.cons_append,
          skipBlanks_cons (isBlank_eq_false_of_isName (hword d (by simp)))]
      have hshorter : (gap ++ '(' :: s).length < ((d :: word) ++ (gap ++ '(' :: s)).length := by
        simp only [List.length_append, List.length_cons]
        omega
      rw [skipName, hskip, List.dropWhile_append_of_pos hword, dropWhile_name_open hgap,
        if_pos]
      rw [decide_eq_true hshorter]
      simp [hblanks c (by simp)]

/-- The head of a function is read whatever follows it. -/
theorem functionHead?_append (h : FunctionHead head inside) (rest : Text) :
    functionHead? (head ++ rest) = some (parameterText inside, rest) := by
  obtain @⟨name, gap, inside, hname, hgap, hinside, hne⟩ := h
  have hclass : ∀ c ∈ inside, (c != '(' && c != ')') = true := by simpa using hinside
  have hword : dropLead? functionWord (functionWord ++ (name ++ (gap ++ '(' :: (inside ++ ')' ::
      rest)))) = some (name ++ (gap ++ '(' :: (inside ++ ')' :: rest))) :=
    Text.dropLead?_eq_some_iff.2 rfl
  have hopen : token? ['('] (gap ++ '(' :: (inside ++ ')' :: rest)) =
      some (inside ++ ')' :: rest) := by
    rw [token?, skipBlanks_append hgap, skipBlanks_cons (by decide), Text.dropLead?_eq_some_iff]
    rfl
  have htake : (inside ++ ')' :: rest).takeWhile (fun c => c != '(' && c != ')') = inside := by
    rw [List.takeWhile_append_of_pos hclass, List.takeWhile_cons_of_neg (by decide),
      List.append_nil]
  have hdrop : (inside ++ ')' :: rest).dropWhile (fun c => c != '(' && c != ')') =
      ')' :: rest := by
    rw [List.dropWhile_append_of_pos hclass, List.dropWhile_cons_of_neg (by decide)]
  have hclose : dropLead? [')'] (')' :: rest) = some rest := Text.dropLead?_eq_some_iff.2 rfl
  simp only [functionHead?, List.append_assoc, List.cons_append, List.nil_append, hword,
    skipName_append hname hgap, hopen, htake, hdrop, hclose, hne, Option.bind_eq_bind,
    Option.bind_some, if_false, Option.pure_def]

/-- What is written in front of a function: the list of its parameters. -/
def listing (inside : Text) : Text :=
  '[' :: (quoteNames false (parameterText inside) ++ [']', ',', ' '])

/-- A signature function is read whatever follows it. -/
theorem signatureFunction?_append (hblanks : Spaces blanks) (hhead : FunctionHead head inside)
    (rest : Text) :
    signatureFunction? (signatureLead ++ (blanks ++ (head ++ rest))) =
      some (listing inside ++ head, rest) := by
  have hlead : dropLead? ['/', '*', ',', '*', '/'] (signatureLead ++ (blanks ++ (head ++ rest))) =
      some (blanks ++ (head ++ rest)) := Text.dropLead?_eq_some_iff.2 rfl
  have hskip : skipBlanks (blanks ++ (head ++ rest)) = head ++ rest := by
    rw [skipBlanks_append hblanks]
    obtain ⟨-, -, -, -⟩ := hhead
    exact skipBlanks_cons (by decide)
  have htake : (head ++ rest).take ((head ++ rest).length - rest.length) = head := by
    rw [List.length_append, Nat.add_sub_cancel, List.take_left]
  simp only [signatureFunction?, hlead, hskip, functionHead?_append hhead, htake, listing,
    Option.bind_eq_bind, Option.bind_some, Option.pure_def, List.cons_append]

end Reading

section Parentheses

variable {place copied more front head inside name s t : Text} {c : Char}

theorem Spaces.notMem (h : Spaces s) (hc : isBlank c = false) : c ∉ s := by
  intro hmem
  rw [h c hmem] at hc
  cases hc

theorem OptionalName.notMem (h : OptionalName name) (hblank : isBlank c = false)
    (hword : (isWord c || c == '$') = false) : c ∉ name := by
  cases h with
  | none => exact List.not_mem_nil
  | @name blanks word hblanks _ hletters _ =>
      rw [List.mem_append, not_or]
      refine ⟨hblanks.notMem hblank, fun hmem => ?_⟩
      rw [hletters c hmem] at hword
      cases hword

/-- A text without parentheses. -/
def NoParen (s : Text) : Prop :=
  '(' ∉ s ∧ ')' ∉ s

/-- The first parenthesis of a text. -/
def firstParen (s : Text) : Option Char :=
  s.find? fun c => c == '(' || c == ')'

theorem NoParen.of_subset (h : NoParen s) (hpart : front ⊆ s) : NoParen front :=
  ⟨fun hopen => h.1 (hpart hopen), fun hclose => h.2 (hpart hclose)⟩

theorem NoParen.firstParen_append (h : NoParen front) (s : Text) :
    firstParen (front ++ s) = firstParen s := by
  have hnone : front.find? (fun c => c == '(' || c == ')') = none := by
    rw [List.find?_eq_none]
    intro c hc hparen
    rw [Bool.or_eq_true, beq_iff_eq, beq_iff_eq] at hparen
    rcases hparen with rfl | rfl
    · exact h.1 hc
    · exact h.2 hc
  rw [firstParen, List.find?_append, hnone, Option.none_or, firstParen]

/-- The head of a function is an opening, in which no parenthesis, no bracket and no slash stands,
and its parameters between parentheses. -/
theorem FunctionHead.exists_opening (h : FunctionHead head inside) :
    ∃ opening, head = opening ++ '(' :: (inside ++ [')']) ∧ NoParen opening ∧ '[' ∉ opening ∧
      '/' ∉ opening ∧ NoParen inside := by
  obtain @⟨name, gap, inside, hname, hgap, hinside, -⟩ := h
  have hfree {c : Char} (hfunction : c ∉ functionWord) (hblank : isBlank c = false)
      (hword : (isWord c || c == '$') = false) : c ∉ functionWord ++ (name ++ gap) := by
    rw [List.mem_append, List.mem_append, not_or, not_or]
    exact ⟨hfunction, hname.notMem hblank hword, hgap.notMem hblank⟩
  refine ⟨functionWord ++ (name ++ gap), by simp, ⟨?_, ?_⟩, ?_, ?_, ?_, ?_⟩
  · exact hfree (by decide) (by decide) (by decide)
  · exact hfree (by decide) (by decide) (by decide)
  · exact hfree (by decide) (by decide) (by decide)
  · exact hfree (by decide) (by decide) (by decide)
  · exact fun hmem => (hinside _ hmem).1 rfl
  · exact fun hmem => (hinside _ hmem).2 rfl

/-- In a signature function, one parenthesis is opened and closed, and no bracket stands in front
of it. -/
theorem SignatureFunction.exists_opening (h : SignatureFunction place) :
    ∃ opening inside, place = opening ++ '(' :: (inside ++ [')']) ∧ NoParen opening ∧
      '[' ∉ opening ∧ NoParen inside := by
  obtain ⟨blanks, head, inside, hblanks, hhead, rfl⟩ := signatureFunction_iff.1 h
  obtain ⟨opening, rfl, hparen, hbracket, -, hinside⟩ := hhead.exists_opening
  have hfree {c : Char} (hlead : c ∉ signatureLead) (hblank : isBlank c = false)
      (hopening : c ∉ opening) : c ∉ signatureLead ++ (blanks ++ opening) := by
    rw [List.mem_append, List.mem_append, not_or, not_or]
    exact ⟨hlead, hblanks.notMem hblank, hopening⟩
  refine ⟨signatureLead ++ (blanks ++ opening), inside, by simp, ⟨?_, ?_⟩, ?_, hinside⟩
  · exact hfree (by decide) (by decide) hparen.1
  · exact hfree (by decide) (by decide) hparen.2
  · exact hfree (by decide) (by decide) hbracket

/-- The first parenthesis behind the start of a signature function is an opening one. -/
theorem SignatureFunction.firstParen_eq (h : SignatureFunction place) (hstart : place <+: s) :
    firstParen s = some '(' := by
  obtain ⟨opening, inside, rfl, hopening, -, -⟩ := h.exists_opening
  obtain ⟨rest, rfl⟩ := hstart
  rw [List.append_assoc, hopening.firstParen_append]
  rfl

/-- A part in which a character does not stand ends in front of every place of it. -/
theorem exists_append_of_notMem {opening behind before after : Text} (hc : c ∉ opening)
    (h : opening ++ behind = before ++ c :: after) :
    ∃ skipped, before = opening ++ skipped ∧ behind = skipped ++ c :: after := by
  rcases List.append_eq_append_iff.1 h with ⟨skipped, hbefore, hbehind⟩ | ⟨more, hopening, hafter⟩
  · exact ⟨skipped, hbefore, hbehind⟩
  · cases more with
    | nil => exact ⟨[], by simpa using hopening.symm, by simpa using hafter.symm⟩
    | cons d more =>
        rw [List.cons_append, List.cons.injEq] at hafter
        exact absurd (hopening ▸ hafter.1 ▸ by simp) hc

/-- A signature function does not reach into a text that starts with a bracket and in which a
parenthesis is opened before one is closed. -/
theorem SignatureFunction.prefix_of_firstParen (h : SignatureFunction place)
    (hbracket : more.head? = some '[') (hparen : firstParen more = some '(')
    (hstart : place <+: copied ++ more) : place <+: copied := by
  obtain ⟨opening, inside, rfl, -, hopening, hinside⟩ := h.exists_opening
  rcases List.prefix_or_prefix_of_prefix hstart (List.prefix_append copied more) with hin | hover
  · exact hin
  obtain ⟨excess, hover⟩ := hover
  cases excess with
  | nil => exact ⟨[], by rw [← hover, List.append_nil, List.append_nil]⟩
  | cons c excess =>
      exfalso
      obtain ⟨rest, hrest⟩ := hstart
      rw [← hover, List.append_assoc, List.append_cancel_left_eq] at hrest
      obtain rfl : c = '[' := by simpa [← hrest] using hbracket
      -- The bracket is not in the opening of the function, so it is between its parentheses.
      obtain ⟨skipped, rfl, hskipped⟩ := exists_append_of_notMem hopening hover.symm
      cases skipped with
      | nil => simp at hskipped
      | cons d skipped =>
          rw [List.cons_append, List.cons.injEq] at hskipped
          obtain ⟨-, hskipped⟩ := hskipped
          have hfree : NoParen skipped := by
            rcases List.prefix_concat_iff.1 ⟨_, hskipped.symm⟩ with hwhole | hpart
            · simp [hwhole] at hskipped
            · exact hinside.of_subset hpart.subset
          have hclosed : firstParen (skipped ++ more) = some ')' := by
            rw [← hrest, ← List.append_assoc, ← hskipped, List.append_assoc,
              hinside.firstParen_append]
            rfl
          rw [hfree.firstParen_append, hparen] at hclosed
          exact absurd hclosed (by decide)

end Parentheses

section Listing

variable {place blanks head inside s t : Text}

theorem mem_of_mem_quoteNames {inName : Bool} {c : Char} (h : c ∈ quoteNames inName s) :
    c = Text.singleQuote ∨ c ∈ s := by
  induction s generalizing inName with
  | nil =>
      cases inName with
      | false => cases h
      | true => exact Or.inl (List.mem_singleton.1 h)
  | cons d s ih =>
      have hnext {inName : Bool} (h : c ∈ d :: quoteNames inName s) :
          c = Text.singleQuote ∨ c ∈ d :: s := by
        rcases List.mem_cons.1 h with rfl | h
        · exact Or.inr List.mem_cons_self
        · exact (ih h).imp_right (List.mem_cons_of_mem d)
      rw [quoteNames] at h
      split_ifs at h with hseparator hname hname
      · exact (List.mem_cons.1 h).elim Or.inl hnext
      · exact hnext h
      · exact hnext h
      · exact (List.mem_cons.1 h).elim Or.inl hnext

/-- Two characters that are not an asterisk with a comma behind it. -/
def NoLead (c d : Char) : Prop :=
  c = '*' → d ≠ ','

/-- A quote stands behind each name, so no comma follows an asterisk in a list of names. -/
theorem isChain_quoteNames {inName : Bool} {c : Char} (hc : inName = false → c ≠ '*') :
    (c :: quoteNames inName s).IsChain NoLead := by
  induction s generalizing inName c with
  | nil =>
      cases inName with
      | false => exact .singleton c
      | true => exact .cons_cons (fun _ => by decide) (.singleton _)
  | cons d s ih =>
      have hseparated (h : (isBlank d || d == ',') = true) : d ≠ '*' := by
        rintro rfl
        exact absurd h (by decide)
      have hletter (h : ¬(isBlank d || d == ',') = true) : d ≠ ',' := by
        rintro rfl
        exact h (by decide)
      rw [quoteNames]
      split_ifs with hseparator hname hname
      · exact .cons_cons (fun _ => by decide) (.cons_cons (fun h => absurd h (by decide))
          (ih fun _ => hseparated hseparator))
      · exact .cons_cons (fun h => absurd h (hc (by simpa using hname)))
          (ih fun _ => hseparated hseparator)
      · exact .cons_cons (fun _ => hletter hseparator) (ih (by simp))
      · exact .cons_cons (fun _ => by decide) (.cons_cons (fun h => absurd h (by decide))
          (ih (by simp)))

theorem parameterText_suffix (inside : Text) : parameterText inside <:+ inside := by
  rw [parameterText]
  split
  · exact List.drop_suffix _ _
  next params _ => exact List.dropWhile_suffix _

/-- A list has the parentheses of its parameters only. -/
theorem NoParen.listing (h : NoParen inside) : NoParen (listing inside) := by
  have hfree {c : Char} (hinside : c ∉ inside) (hquote : c ≠ Text.singleQuote)
      (hother : c ∉ ['[', ']', ',', ' ']) : c ∉ Shorthand.listing inside := by
    intro hmem
    simp only [Shorthand.listing, List.mem_cons, List.mem_append, List.not_mem_nil, or_false,
      not_or] at hmem hother
    rcases hmem with hbracket | hquoted | hend
    · exact hother.1 hbracket
    · rcases mem_of_mem_quoteNames hquoted with hsingle | hparams
      · exact hquote hsingle
      · exact hinside ((parameterText_suffix inside).subset hparams)
    · tauto
  exact ⟨hfree h.1 (by decide) (by decide), hfree h.2 (by decide) (by decide)⟩

theorem isChain_listing (inside : Text) : (listing inside).IsChain NoLead := by
  rw [listing, ← List.cons_append, List.isChain_append]
  refine ⟨isChain_quoteNames fun _ => by decide, ?_, ?_⟩
  · exact .cons_cons (fun h => absurd h (by decide)) (.cons_cons (fun h => absurd h (by decide))
      (.singleton _))
  · simp [NoLead]

/-- No signature function starts in a list. -/
theorem not_lead_prefix_of_suffix {part rest : Text} (hpart : part <:+ listing inside)
    (hne : part ≠ []) : ¬signatureLead <+: part ++ rest := by
  intro hlead
  rcases List.prefix_or_prefix_of_prefix hlead (List.prefix_append part rest) with hin | hover
  · have hchain : signatureLead.IsChain NoLead :=
      List.IsChain.prefix ((isChain_listing inside).suffix hpart) hin
    simp [signatureLead, NoLead] at hchain
  · have hend : listing inside = '[' :: (quoteNames false (parameterText inside) ++ [']', ',']) ++
        [' '] := by simp [listing]
    rw [hend, List.suffix_concat_iff] at hpart
    rcases hpart with hnil | ⟨front, rfl, -⟩
    · exact hne hnil
    · have hblank : ' ' ∈ signatureLead := hover.subset (by simp)
      exact absurd hblank (by decide)

end Listing

section Places

variable {place part head inside s t : Text}

/-- A place that starts nowhere in a part is behind it. -/
theorem infix_of_infix_append
    (hpart : ∀ c tail, c :: tail <:+ part → ¬place <+: c :: tail ++ t)
    (h : place <:+: part ++ t) : place <:+: t := by
  induction part with
  | nil => exact h
  | cons c part ih =>
      rcases List.infix_cons_iff.1 h with hhere | hlater
      · exact absurd hhere (hpart c part (List.suffix_refl _))
      · exact ih (fun d tail hd => hpart d tail (hd.trans (List.suffix_cons c part))) hlater

theorem SignatureFunction.lead_starts (h : SignatureFunction place) : signatureLead <+: place := by
  obtain ⟨blanks, head, -, -, -, rfl⟩ := signatureFunction_iff.1 h
  exact List.prefix_append _ _

theorem SignatureFunction.eq_slash {c : Char} (h : SignatureFunction place)
    (hstart : place <+: c :: s) : c = '/' :=
  (List.cons_prefix_cons.1 (h.lead_starts.trans hstart)).1.symm

/-- A signature function does not start in the head of a function: no slash stands in front of the
parameters, and the next parenthesis behind any of them is a closing one. -/
theorem SignatureFunction.infix_of_infix_head (h : SignatureFunction place)
    (hhead : FunctionHead head inside) (hplace : place <:+: head ++ t) : place <:+: t := by
  obtain ⟨opening, rfl, -, -, hslash, hinside⟩ := hhead.exists_opening
  have hsplit : opening ++ '(' :: (inside ++ [')']) ++ t =
      (opening ++ ['(']) ++ ((inside ++ [')']) ++ t) := by simp
  rw [hsplit] at hplace
  have hbehind : place <:+: (inside ++ [')']) ++ t := by
    refine infix_of_infix_append (fun c tail hc hstart => ?_) hplace
    obtain rfl := h.eq_slash hstart
    rcases List.mem_append.1 (hc.subset List.mem_cons_self) with hmem | hmem
    · exact hslash hmem
    · exact absurd hmem (by decide)
  refine infix_of_infix_append (fun c tail hc hstart => ?_) hbehind
  obtain hnil | ⟨params, hparams, hsuffix⟩ := List.suffix_concat_iff.1 hc
  · cases hnil
  have hopen := h.firstParen_eq hstart
  rw [hparams, List.append_assoc, (hinside.of_subset hsuffix.subset).firstParen_append] at hopen
  exact absurd hopen (by simp [firstParen])

/-- Nor does it start in the list in front of a function. -/
theorem SignatureFunction.infix_of_infix_listing (h : SignatureFunction place)
    (hplace : place <:+: listing inside ++ t) : place <:+: t := by
  refine infix_of_infix_append (fun c tail hc hstart => ?_) hplace
  exact not_lead_prefix_of_suffix hc (List.cons_ne_nil c tail) (h.lead_starts.trans hstart)

end Places

/-- A text in which the parameters of every signature function have been listed, in one pass from
left to right: a character at which none starts is copied, and behind one the pass goes on. -/
inductive Listed : Text → Text → Prop
  | nil : Listed [] []
  | copy {c s t} (hnone : ∀ place, SignatureFunction place → ¬place <+: c :: s) (h : Listed s t) :
      Listed (c :: s) (c :: t)
  | list {blanks head inside s t} (hblanks : Spaces blanks) (hhead : FunctionHead head inside)
      (h : Listed s t) :
      Listed (signatureLead ++ (blanks ++ (head ++ s))) (listing inside ++ (head ++ t))

namespace Listed

variable {place s t : Text}

/-- What stands in front of the first list is copied. -/
theorem exists_copied (h : Listed s t) :
    ∃ copied more, t = copied ++ more ∧ copied <+: s ∧
      (more = [] ∨ more.head? = some '[' ∧ firstParen more = some '(') := by
  induction h with
  | nil => exact ⟨[], [], rfl, List.prefix_rfl, Or.inl rfl⟩
  | @copy c s t hnone h ih =>
      obtain ⟨copied, more, rfl, hcopied, hmore⟩ := ih
      exact ⟨c :: copied, more, rfl, List.cons_prefix_cons.2 ⟨rfl, hcopied⟩, hmore⟩
  | @list blanks head inside s t hblanks hhead h ih =>
      obtain ⟨opening, rfl, hopening, -, -, hinside⟩ := hhead.exists_opening
      refine ⟨[], listing inside ++ (opening ++ '(' :: (inside ++ [')']) ++ t), rfl,
        List.nil_prefix, Or.inr ⟨rfl, ?_⟩⟩
      rw [hinside.listing.firstParen_append, List.append_assoc, hopening.firstParen_append]
      rfl

/-- A signature function at the start of the listed text stands at the start of the text. -/
theorem starts_of_starts (h : Listed s t) (hplace : SignatureFunction place)
    (hstart : place <+: t) : place <+: s := by
  obtain ⟨copied, more, rfl, hcopied, rfl | ⟨hbracket, hparen⟩⟩ := h.exists_copied
  · rw [List.append_nil] at hstart
    exact hstart.trans hcopied
  · exact (hplace.prefix_of_firstParen hbracket hparen hstart).trans hcopied

/-- In the listed text, no signature function stands. -/
theorem stands_nowhere (h : Listed s t) (hplace : SignatureFunction place) : ¬place <:+: t := by
  induction h with
  | nil =>
      intro hnil
      have hlead := hplace.lead_starts
      rw [List.infix_nil.1 hnil] at hlead
      exact absurd hlead (by decide)
  | copy hnone h ih =>
      rw [List.infix_cons_iff]
      rintro (hhere | hlater)
      · exact hnone place hplace ((copy hnone h).starts_of_starts hplace hhere)
      · exact ih hlater
  | list hblanks hhead h ih =>
      intro hin
      exact ih (hplace.infix_of_infix_head hhead (hplace.infix_of_infix_listing hin))

end Listed

/-- Replacing the signature functions of a text lists their parameters. -/
theorem listed_substitute (s : Text) : Listed s (substitute signatureFunction? s) := by
  induction hn : s.length using Nat.strong_induction_on generalizing s with
  | _ n ih =>
      subst hn
      cases s with
      | nil =>
          rw [substitute]
          exact .nil
      | cons c s =>
          cases hread : signatureFunction? (c :: s) with
          | none =>
              have hcopy : substitute signatureFunction? (c :: s) =
                  c :: substitute signatureFunction? s :=
                Text.substitute_cons_of_le fun found left h => by cases hread.symm.trans h
              rw [hcopy]
              refine .copy (fun place hplace hstart => ?_) (ih _ (by simp) s rfl)
              obtain ⟨blanks, head, inside, hblanks, hhead, rfl⟩ := signatureFunction_iff.1 hplace
              obtain ⟨rest, hrest⟩ := hstart
              rw [← hrest, List.append_assoc, List.append_assoc,
                signatureFunction?_append hblanks hhead] at hread
              cases hread
          | some result =>
              obtain ⟨found, left⟩ := result
              obtain ⟨place, hplace, hs⟩ := exists_of_signatureFunction? hread
              obtain ⟨blanks, head, inside, hblanks, hhead, rfl⟩ := signatureFunction_iff.1 hplace
              rw [List.append_assoc, List.append_assoc] at hs
              have hshort : left.length < (signatureLead ++ (blanks ++ (head ++ left))).length := by
                simp only [signatureLead, List.length_append, List.length_cons]
                omega
              rw [hs] at ih ⊢
              rw [Text.substitute_of_lt (signatureFunction?_append hblanks hhead left) hshort,
                List.append_assoc]
              exact .list hblanks hhead (ih _ hshort left rfl)

/-- Signature functions are fully expanded in one pass, which lists the parameters of each of them
from left to right once the comment functions are expanded: none stands in the result, so another
pass over it changes nothing. -/
theorem expand_lists_signatures (s : Text) :
    Listed (substitute commentFunction? s) (expand s) ∧
      (¬∃ place, place <:+: expand s ∧ SignatureFunction place) ∧
      substitute signatureFunction? (expand s) = expand s := by
  have hlisted : Listed (substitute commentFunction? s) (expand s) := listed_substitute _
  have hnone (place : Text) (hin : place <:+: expand s) : ¬SignatureFunction place :=
    fun hplace => hlisted.stands_nowhere hplace hin
  refine ⟨hlisted, ?_, substitute_eq_of_forall_not exists_of_signatureFunction? hnone⟩
  rintro ⟨place, hin, hplace⟩
  exact hnone place hin hplace

-- The start of another signature function among the parameters is taken apart at its comma.
example : expand "/*,*/function(a, /*,*/function)".toList =
    "['a', '/*','*/function'], function(a, /*,*/function)".toList := by
  with_unfolding_all rfl

end BlockWeave.Shorthand
