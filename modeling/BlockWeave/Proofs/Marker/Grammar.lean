import BlockWeave.Marker.Grammar
import BlockWeave.Proofs.Marker.Assignment

/-!
# The grammar of markers

`Written` says, for each of the six rules, how the parts of a marker may be written.
A rule reads a marker at the start of a text exactly when some marker that it allows
stands there. The tag is the only part with a choice: once it is fixed, attributes,
opening and body can be read in one way only.

## Implementation notes

`Written` does not mention the readers. A body may hold anything, also its own closing;
that the reader ends it at the first closing is stated apart, in `Rule.Reads`.
-/

namespace BlockWeave

namespace Text

/-- A needle that stands somewhere is found, and not behind that place. -/
theorem exists_cutFirst? (needle before after : Text) :
    ∃ first rest, cutFirst? needle (before ++ needle ++ after) = some (first, rest) ∧
      first.length ≤ before.length := by
  induction before with
  | nil =>
      have hlead : dropLead? needle (needle ++ after) = some after :=
        dropLead?_eq_some_iff.2 rfl
      refine ⟨[], after, ?_, Nat.le_refl _⟩
      cases hs : needle ++ after with
      | nil =>
          obtain ⟨rfl, rfl⟩ := List.append_eq_nil_iff.1 hs
          simp [cutFirst?, dropLead?]
      | cons c s =>
          rw [hs] at hlead
          simp [cutFirst?, hs, hlead]
  | cons c before ih =>
      obtain ⟨first, rest, hcut, hle⟩ := ih
      cases hlead : dropLead? needle (c :: (before ++ needle ++ after)) with
      | some rest => exact ⟨[], rest, by simp_all [cutFirst?], Nat.zero_le _⟩
      | none =>
          refine ⟨c :: first, rest, ?_, by simpa using hle⟩
          simp only [List.append_assoc, List.cons_append] at hlead hcut ⊢
          simp [cutFirst?, hlead, hcut]

/-- The part before the first place of a needle is the shortest before any place. -/
theorem cutFirst?_length_le {needle s first rest before after : Text}
    (h : cutFirst? needle s = some (first, rest)) (hs : s = before ++ needle ++ after) :
    first.length ≤ before.length := by
  obtain ⟨other, tail, hcut, hle⟩ := exists_cutFirst? needle before after
  rw [← hs, h] at hcut
  simp only [Option.some.injEq, Prod.mk.injEq] at hcut
  obtain ⟨rfl, -⟩ := hcut
  exact hle

end Text

/-- The choices of a tag are the names at the start of a text. -/
theorem mem_nameChoices_iff {s : Text} {choice : Text × Text} :
    choice ∈ nameChoices s ↔ IsName choice.1 ∧ s = choice.1 ++ choice.2 := by
  obtain ⟨name, rest⟩ := choice
  induction s generalizing name with
  | nil =>
      constructor
      · intro h
        simp [nameChoices] at h
      · rintro ⟨⟨hne, -⟩, hs⟩
        exact absurd (List.append_eq_nil_iff.1 hs.symm).1 hne
  | cons c s ih =>
      by_cases hc : isNameChar c = true
      · simp only [nameChoices, hc, if_true, List.mem_append, List.mem_map, List.mem_singleton,
          Prod.mk.injEq]
        constructor
        · rintro (⟨⟨inner, tail⟩, hm, rfl, rfl⟩ | ⟨rfl, rfl⟩)
          · obtain ⟨⟨-, hchars⟩, rfl⟩ := (ih inner).1 hm
            refine ⟨⟨by simp, ?_⟩, rfl⟩
            intro d hd
            rcases List.mem_cons.1 hd with rfl | hd
            · exact hc
            · exact hchars d hd
          · exact ⟨⟨by simp, by simpa using hc⟩, rfl⟩
        · rintro ⟨⟨hne, hchars⟩, hs⟩
          obtain ⟨d, inner, rfl⟩ := List.exists_cons_of_ne_nil hne
          simp only [List.cons_append, List.cons.injEq] at hs
          obtain ⟨rfl, rfl⟩ := hs
          by_cases hinner : inner = []
          · subst hinner
            exact Or.inr ⟨rfl, rfl⟩
          · refine Or.inl ⟨(inner, rest), (ih inner).2 ⟨⟨hinner, ?_⟩, rfl⟩, rfl, rfl⟩
            exact fun e he => hchars e (by simp [he])
      · constructor
        · intro h
          simp [nameChoices, hc] at h
        · rintro ⟨⟨hne, hchars⟩, hs⟩
          obtain ⟨d, inner, rfl⟩ := List.exists_cons_of_ne_nil hne
          simp only [List.cons_append, List.cons.injEq] at hs
          exact absurd (hs.1 ▸ hchars d (by simp)) hc

/-- How the parts of a marker are written under each rule. -/
inductive Written : Rule → Marker → Prop
  /-- An `include`, its attributes, and an ending that may have a slash. -/
  | selfClosing {family attrText blanks closing offset}
      (hattr : IsAttributeText attrText) (hblanks : Blanks blanks)
      (hclosing : closing = blanks ++ '/' :: family.ending ∨ closing = blanks ++ family.ending) :
      Written ⟨family, .selfClosing⟩
        { family, shape := .selfClosing, tag := includeTag, attrText, openingClose := [],
          body := [], closing, offset }
  /-- A name, its attributes, the ending of the comment, a body, and a closing marker
  that repeats the name. -/
  | markerPair {family tag attrText blanks body offset}
      (htag : IsName tag) (hattr : IsAttributeText attrText) (hblanks : Blanks blanks) :
      Written ⟨family, .markerPair⟩
        { family, shape := .markerPair, tag, attrText, openingClose := blanks ++ family.ending,
          body, closing := family.closingMarker tag, offset }
  /-- A name, its attributes, an angle, a body, and a closing tag that repeats the name
  and ends the comment. -/
  | tagPair {family tag attrText blanks body offset}
      (htag : IsName tag) (hattr : IsAttributeText attrText) (hblanks : Blanks blanks) :
      Written ⟨family, .tagPair⟩
        { family, shape := .tagPair, tag, attrText, openingClose := blanks ++ ['>'], body,
          closing := family.closingTag tag, offset }

/-- Some marker that the rule allows stands at the start of the text. -/
def Rule.Accepts (rule : Rule) (s : Text) : Prop :=
  ∃ m rest, Written rule m ∧ s = m.text ++ rest

/-- An ending at which blanks and attributes stop. -/
structure Stops (ending : Text) : Prop where
  head : ∀ rest, (ending ++ rest).head?.all (!Text.isAsciiBlank ·) = true
  noItem : ∀ rest, Assignment.read? (ending ++ rest) = none

theorem Family.stops_ending (family : Family) : Stops family.ending := by
  cases family with
  | html =>
      refine ⟨fun rest => rfl, fun rest => ?_⟩
      have hname : ∀ d ∈ ['-', '-'], isNameChar d = true := by
        simp only [List.mem_cons, List.not_mem_nil, or_false, or_self, forall_eq]
        rfl
      exact @Assignment.read?_eq_none ['-', '-'] rest '>' hname rfl rfl (by decide)
  | block =>
      refine ⟨fun rest => rfl, fun rest => ?_⟩
      exact @Assignment.read?_eq_none [] _ '>' (by simp) rfl rfl (by decide)

theorem Family.stops_slash_ending (family : Family) : Stops ('/' :: family.ending) :=
  ⟨fun rest => rfl, fun rest =>
    @Assignment.read?_eq_none [] _ '/' (by simp) rfl rfl (by decide)⟩

theorem stops_angle : Stops ['>'] :=
  ⟨fun rest => rfl, fun rest =>
    @Assignment.read?_eq_none [] _ '>' (by simp) rfl rfl (by decide)⟩

theorem Shape.stops_openingEnd (shape : Shape) (family : Family) :
    Stops (shape.openingEnd family) := by
  cases shape with
  | selfClosing => exact family.stops_ending
  | markerPair => exact family.stops_ending
  | tagPair => exact stops_angle

/-- Blanks and an ending are found exactly where they are written. -/
theorem blanksThen?_eq_some_iff {ending s piece rest : Text} (hstop : Stops ending) :
    blanksThen? ending s = some (piece, rest) ↔
      ∃ blanks, Blanks blanks ∧ piece = blanks ++ ending ∧ s = piece ++ rest := by
  constructor
  · intro h
    have hs := blanksThen?_append h
    simp only [blanksThen?, Option.bind_eq_bind, Option.bind_eq_some_iff, Option.pure_def,
      Option.some.injEq, Prod.mk.injEq] at h
    obtain ⟨r, -, rfl, -⟩ := h
    exact ⟨_, fun c hc => List.mem_takeWhile_imp hc, rfl, hs⟩
  · rintro ⟨blanks, hblanks, rfl, rfl⟩
    have hhead := hstop.head rest
    have hlead : Text.dropLead? ending (ending ++ rest) = some rest :=
      Text.dropLead?_eq_some_iff.2 rfl
    simp only [blanksThen?, List.append_assoc, dropWhile_run hblanks hhead,
      takeWhile_run hblanks hhead, hlead]
    rfl

/-- Proper attributes are read up to blanks and an ending. -/
theorem attributeList_stops {items : List (Text × Assignment)} (hitems : ProperItems items)
    {blanks ending : Text} (hblanks : Blanks blanks) (hstop : Stops ending) (rest : Text) :
    attributeList (attributeText items ++ (blanks ++ ending ++ rest)) =
      (items, blanks ++ ending ++ rest) := by
  apply attributeList_attributeText hitems
  rw [List.append_assoc, dropWhile_run hblanks (hstop.head rest)]
  exact hstop.noItem rest

/-- The end of a marker without a body is found exactly where it is written. -/
theorem selfClosing?_eq_some_iff {family : Family} {s piece rest : Text} :
    selfClosing? family s = some (piece, rest) ↔
      ∃ blanks, Blanks blanks ∧
        (piece = blanks ++ '/' :: family.ending ∨ piece = blanks ++ family.ending) ∧
        s = piece ++ rest := by
  have hslash := @blanksThen?_eq_some_iff _ s piece rest family.stops_slash_ending
  have hplain := @blanksThen?_eq_some_iff _ s piece rest family.stops_ending
  constructor
  · intro h
    rcases Option.or_eq_some_iff.1 h with h | ⟨-, h⟩
    · obtain ⟨blanks, hb, hp, hs⟩ := hslash.1 h
      exact ⟨blanks, hb, Or.inl hp, hs⟩
    · obtain ⟨blanks, hb, hp, hs⟩ := hplain.1 h
      exact ⟨blanks, hb, Or.inr hp, hs⟩
  · rintro ⟨blanks, hb, hp | hp, hs⟩
    · exact Option.or_eq_some_iff.2 (Or.inl (hslash.2 ⟨blanks, hb, hp, hs⟩))
    · have hfound := hplain.2 ⟨blanks, hb, hp, hs⟩
      refine Option.or_eq_some_iff.2 (Or.inr ⟨?_, hfound⟩)
      -- Behind the blanks stands the ending itself, which starts with no slash.
      have hhead := family.stops_ending.head rest
      rw [hs, hp]
      simp only [blanksThen?, List.append_assoc, dropWhile_run hb hhead]
      cases family <;> rfl

namespace Rule

/-- What a rule reads is written as the rule says, and its body ends at the first
closing behind the opening. -/
def Reads (rule : Rule) (s : Text) (m : Marker) : Prop :=
  Written rule m ∧ ∃ behind, s = m.head ++ behind ∧
    ∀ before after, behind = before ++ m.closing ++ after → m.body.length ≤ before.length

theorem reads_of_readSelfClosing? {family : Family} {offset : Int} {s : Text} {m : Marker}
    (h : readSelfClosing? family offset s = some m) : Reads ⟨family, .selfClosing⟩ s m := by
  obtain ⟨rest, htext⟩ := readSelfClosing?_append h
  simp only [readSelfClosing?, Option.bind_eq_bind, Option.bind_eq_some_iff, Option.pure_def,
    Option.some.injEq] at h
  obtain ⟨afterOpening, h₁, afterTag, h₂, ⟨closing, rest'⟩, h₃, rfl⟩ := h
  obtain ⟨blanks, hb, hclosing, -⟩ := selfClosing?_eq_some_iff.1 h₃
  refine ⟨.selfClosing ⟨_, properItems_attributeList afterTag, rfl⟩ hb hclosing,
    closing ++ rest, ?_, fun _ _ _ => Nat.zero_le _⟩
  simpa [Marker.text, Marker.rebuild] using htext

theorem reads_of_readTagged? {rule : Rule} (hshape : rule.shape ≠ .selfClosing) {offset : Int}
    {choice : Text × Text} (hname : IsName choice.1) {m : Marker}
    (h : rule.readTagged? offset choice = some m) :
    Reads rule (rule.family.opening ++ (choice.1 ++ choice.2)) m := by
  simp only [readTagged?, Option.bind_eq_bind, Option.bind_eq_some_iff, Option.pure_def,
    Option.some.injEq] at h
  obtain ⟨⟨openingClose, behind⟩, h₁, ⟨body, rest⟩, h₂, rfl⟩ := h
  obtain ⟨blanks, hb, hopen, hbehind⟩ :=
    (blanksThen?_eq_some_iff (rule.shape.stops_openingEnd rule.family)).1 h₁
  have hopening : openingClose = _ := hopen
  have hattr : IsAttributeText (attributeText (attributeList choice.2).1) :=
    ⟨_, properItems_attributeList choice.2, rfl⟩
  refine ⟨?_, behind, ?_, fun before after hs => Text.cutFirst?_length_le h₂ hs⟩
  · subst hopening
    obtain ⟨family, shape⟩ := rule
    cases shape with
    | selfClosing => exact absurd rfl hshape
    | markerPair => exact .markerPair hname hattr hb
    | tagPair => exact .tagPair hname hattr hb
  · have hsplit : choice.2 =
        attributeText (attributeList choice.2).1 ++ (openingClose ++ behind) :=
      (attributeList_append choice.2).trans (by rw [hbehind])
    conv => lhs; rw [hsplit]
    simp [Marker.head, Marker.opening]

/-- Whatever a rule reads, it reads as it should. -/
theorem reads_of_read? {rule : Rule} {offset : Int} {s : Text} {m : Marker}
    (h : rule.read? offset s = some m) : rule.Reads s m := by
  have tagged (hshape : rule.shape ≠ .selfClosing)
      (h : ((Text.dropLead? rule.family.opening s).bind fun afterOpening =>
        (nameChoices afterOpening).findSome? (rule.readTagged? offset)) = some m) :
      rule.Reads s m := by
    obtain ⟨afterOpening, h₁, h₂⟩ := Option.bind_eq_some_iff.1 h
    obtain ⟨choice, hc, h₃⟩ := List.exists_of_findSome?_eq_some h₂
    obtain ⟨hname, hsplit⟩ := mem_nameChoices_iff.1 hc
    rw [Text.dropLead?_eq_some_iff.1 h₁, hsplit]
    exact reads_of_readTagged? hshape hname h₃
  obtain ⟨family, shape⟩ := rule
  cases shape with
  | selfClosing => exact reads_of_readSelfClosing? h
  | markerPair => exact tagged (by simp) h
  | tagPair => exact tagged (by simp) h

/-- What a rule reads keeps the offset it was asked with. -/
theorem offset_of_read? {rule : Rule} {offset : Int} {s : Text} {m : Marker}
    (h : rule.read? offset s = some m) : m.offset = offset := by
  have tagged (h : ((Text.dropLead? rule.family.opening s).bind fun afterOpening =>
      (nameChoices afterOpening).findSome? (rule.readTagged? offset)) = some m) :
      m.offset = offset := by
    obtain ⟨afterOpening, -, h₂⟩ := Option.bind_eq_some_iff.1 h
    obtain ⟨choice, -, h₃⟩ := List.exists_of_findSome?_eq_some h₂
    simp only [readTagged?, Option.bind_eq_bind, Option.bind_eq_some_iff, Option.pure_def,
      Option.some.injEq] at h₃
    obtain ⟨_, -, _, -, rfl⟩ := h₃
    rfl
  obtain ⟨family, shape⟩ := rule
  cases shape with
  | selfClosing =>
      simp only [read?, readSelfClosing?, Option.bind_eq_bind, Option.bind_eq_some_iff,
        Option.pure_def, Option.some.injEq] at h
      obtain ⟨_, -, _, -, _, -, rfl⟩ := h
      rfl
  | markerPair => exact tagged h
  | tagPair => exact tagged h

/-- With its tag chosen, a marker with a body is read wherever it is written. -/
theorem exists_readTagged? (rule : Rule) (offset : Int) {attrText blanks : Text}
    (hattr : IsAttributeText attrText) (hblanks : Blanks blanks) (tag body rest : Text) :
    ∃ m, rule.readTagged? offset (tag, attrText ++
      (blanks ++ rule.shape.openingEnd rule.family ++
        (body ++ rule.shape.bodyEnd rule.family tag ++ rest))) = some m := by
  obtain ⟨items, hitems, rfl⟩ := hattr
  have hstop := rule.shape.stops_openingEnd rule.family
  have hopen := (@blanksThen?_eq_some_iff _ _ _
    (body ++ rule.shape.bodyEnd rule.family tag ++ rest) hstop).2 ⟨blanks, hblanks, rfl, rfl⟩
  obtain ⟨first, last, hcut, -⟩ :=
    Text.exists_cutFirst? (rule.shape.bodyEnd rule.family tag) body rest
  simp only [readTagged?, attributeList_stops hitems hblanks hstop, hopen, hcut,
    Option.bind_eq_bind, Option.bind_some, Option.pure_def]
  exact ⟨_, rfl⟩

/-- A marker with a body is read, perhaps with another tag, wherever one is written. -/
theorem exists_read?_tagged (rule : Rule) (hshape : rule.shape ≠ .selfClosing) (offset : Int)
    {tag attrText blanks : Text} (htag : IsName tag) (hattr : IsAttributeText attrText)
    (hblanks : Blanks blanks) (body rest : Text) :
    ∃ m, rule.read? offset (rule.family.opening ++ (tag ++ (attrText ++
      (blanks ++ rule.shape.openingEnd rule.family ++
        (body ++ rule.shape.bodyEnd rule.family tag ++ rest))))) = some m := by
  obtain ⟨m, hm⟩ := rule.exists_readTagged? offset hattr hblanks tag body rest
  have hchoice := (@mem_nameChoices_iff _ (tag, attrText ++
    (blanks ++ rule.shape.openingEnd rule.family ++
      (body ++ rule.shape.bodyEnd rule.family tag ++ rest)))).2 ⟨htag, rfl⟩
  have hfound := List.findSome?_isSome_iff.2 ⟨_, hchoice, Option.isSome_iff_exists.2 ⟨m, hm⟩⟩
  obtain ⟨family, shape⟩ := rule
  cases shape with
  | selfClosing => exact absurd rfl hshape
  | markerPair =>
      simpa [read?, Text.dropLead?_eq_some_iff.2 rfl, Option.isSome_iff_exists] using hfound
  | tagPair =>
      simpa [read?, Text.dropLead?_eq_some_iff.2 rfl, Option.isSome_iff_exists] using hfound

/-- An `include` without a body is read back as it is written. -/
theorem readSelfClosing?_text {family : Family} {items : List (Text × Assignment)}
    {blanks closing : Text} (hitems : ProperItems items) (hblanks : Blanks blanks)
    (hclosing : closing = blanks ++ '/' :: family.ending ∨ closing = blanks ++ family.ending)
    (offset : Int) (rest : Text) :
    readSelfClosing? family offset
        (family.opening ++ (includeTag ++ (attributeText items ++ (closing ++ rest)))) =
      some { family, shape := .selfClosing, tag := includeTag, attrText := attributeText items,
             openingClose := [], body := [], closing, offset } := by
  have hread : attributeList (attributeText items ++ (closing ++ rest)) =
      (items, closing ++ rest) := by
    rcases hclosing with rfl | rfl
    · exact attributeList_stops hitems hblanks family.stops_slash_ending rest
    · exact attributeList_stops hitems hblanks family.stops_ending rest
  have hclose := (@selfClosing?_eq_some_iff _ _ _ rest).2 ⟨blanks, hblanks, hclosing, rfl⟩
  simp only [readSelfClosing?, Text.dropLead?_eq_some_iff.2 rfl, hread, hclose,
    Option.bind_eq_bind, Option.bind_some, Option.pure_def]

/-- A rule reads something exactly where a marker that it allows stands. -/
theorem exists_read?_iff {rule : Rule} {offset : Int} {s : Text} :
    (∃ m, rule.read? offset s = some m) ↔ rule.Accepts s := by
  constructor
  · rintro ⟨m, hm⟩
    obtain ⟨rest, hrest⟩ := read?_append hm
    exact ⟨m, rest, (reads_of_read? hm).1, hrest⟩
  · rintro ⟨m, rest, hwritten, rfl⟩
    cases hwritten with
    | @selfClosing family attrText blanks closing _ hattr hblanks hclosing =>
        obtain ⟨items, hitems, rfl⟩ := hattr
        have hread := readSelfClosing?_text hitems hblanks hclosing offset rest
        refine ⟨{ family, shape := .selfClosing, tag := includeTag,
                  attrText := attributeText items, openingClose := [], body := [], closing,
                  offset }, ?_⟩
        simpa [read?, Marker.text, Marker.rebuild, Marker.head, Marker.opening] using hread
    | @markerPair family tag attrText blanks body _ htag hattr hblanks =>
        obtain ⟨m, hm⟩ := exists_read?_tagged ⟨family, .markerPair⟩ (by simp) offset htag hattr
          hblanks body rest
        refine ⟨m, ?_⟩
        simpa [Marker.text, Marker.rebuild, Marker.head, Marker.opening, Shape.openingEnd,
          Shape.bodyEnd] using hm
    | @tagPair family tag attrText blanks body _ htag hattr hblanks =>
        obtain ⟨m, hm⟩ := exists_read?_tagged ⟨family, .tagPair⟩ (by simp) offset htag hattr
          hblanks body rest
        refine ⟨m, ?_⟩
        simpa [Marker.text, Marker.rebuild, Marker.head, Marker.opening, Shape.openingEnd,
          Shape.bodyEnd] using hm

end Rule

/-- A place of a content holds a marker exactly when one of the six rules allows a
marker there. The marker is then of the first such rule, it is written as the rule
says, its parts make up the text at that place, and its body is the shortest. -/
theorem markerAt?_grammar (content : Text) (pointer : Nat) (base : Int) :
    ((∃ m, markerAt? content pointer base = some m) ↔
        ∃ rule ∈ rules, rule.Accepts (content.drop pointer)) ∧
      ∀ m, markerAt? content pointer base = some m →
        (∃ earlier later, rules = earlier ++ ⟨m.family, m.shape⟩ :: later ∧
          ∀ rule ∈ earlier, ¬ rule.Accepts (content.drop pointer)) ∧
        Written ⟨m.family, m.shape⟩ m ∧
        m.opening ++ m.tag ++ m.attrText ++ m.openingClose ++ m.body ++ m.closing = m.text ∧
        (content.drop pointer).take m.text.length = m.text ∧
        m.rebuild m.body = m.text ∧
        m.offset = base + pointer ∧
        ∀ before after,
          content.drop (pointer + m.head.length) = before ++ m.closing ++ after →
            m.body.length ≤ before.length := by
  have hdrop : (pointer : Int).toNat = pointer := rfl
  constructor
  · simp only [markerAt?, readMarker?, hdrop, ← Option.isSome_iff_exists,
      List.findSome?_isSome_iff]
    refine exists_congr fun rule => and_congr_right fun _ => ?_
    rw [Option.isSome_iff_exists, Rule.exists_read?_iff]
  · intro m hm
    obtain ⟨earlier, rule, later, hrules, hread, hnone⟩ := List.findSome?_eq_some_iff.1 hm
    obtain ⟨hwritten, behind, hsplit, hshort⟩ := Rule.reads_of_read? hread
    obtain ⟨rest, htext⟩ := Rule.read?_append hread
    have hrule : rule = ⟨m.family, m.shape⟩ := by cases hwritten <;> rfl
    subst hrule
    rw [hdrop] at hsplit htext hnone
    refine ⟨⟨earlier, later, hrules, fun rule hr haccepts => ?_⟩, hwritten, ?_, ?_, rfl,
      Rule.offset_of_read? hread, fun before after hs => ?_⟩
    · obtain ⟨other, hother⟩ := Rule.exists_read?_iff.2 haccepts
      rw [hnone rule hr] at hother
      simp at hother
    · simp [Marker.text, Marker.rebuild, Marker.head]
    · rw [htext, List.take_left]
    · rw [← List.drop_drop, hsplit, List.drop_left] at hs
      exact hshort before after hs

end BlockWeave
