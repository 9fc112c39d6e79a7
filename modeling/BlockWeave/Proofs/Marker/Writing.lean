import BlockWeave.Marker.Attributes
import BlockWeave.Proofs.Failure
import BlockWeave.Proofs.Marker.Grammar
import BlockWeave.Proofs.Text.Entity
import Mathlib.Data.List.Induction

/-!
# Markers as they are written

A marker is written from its tag, a list of names with values, and a body. Whatever the
values are, the marker is read back at the place where it is written, and its attributes
are the names with their last values.

## Implementation notes

The tag is the part of a marker that may be read in several ways: it could end earlier, or
take the hyphens of `-->` with it. The attributes start with a blank, so a tag with
attributes ends where it should; without attributes the longer choices of the tag leave
no ending behind.
-/

namespace BlockWeave

namespace Table

variable {κ β : Type} [DecidableEq κ] [BEq κ] [LawfulBEq κ]

omit [BEq κ] [LawfulBEq κ] in
theorem ofList_concat (bindings : List (κ × β)) (binding : κ × β) :
    ofList (bindings ++ [binding]) = (ofList bindings).put binding.1 binding.2 := by
  simp [ofList]

/-- The names of a list of bindings, in the order in which they were first bound. -/
theorem names_ofList (bindings : List (κ × β)) :
    (ofList bindings).names = (bindings.map Prod.fst).eraseDups := by
  induction bindings using List.reverseRecOn with
  | nil => rfl
  | append_singleton bindings binding ih =>
      rw [ofList_concat, names_put, ih, List.map_append, List.eraseDups_append]
      by_cases hmem : binding.1 ∈ bindings.map Prod.fst
      · simp [List.mem_eraseDups, hmem, List.removeAll]
      · simp [List.mem_eraseDups, hmem, List.removeAll, List.eraseDups_cons]

/-- The value of a name is the last one that it was bound to. -/
theorem get?_ofList (bindings : List (κ × β)) (name : κ) :
    (ofList bindings).get? name = bindings.reverse.lookup name := by
  induction bindings using List.reverseRecOn with
  | nil => rfl
  | append_singleton bindings binding ih =>
      rw [ofList_concat, List.reverse_append, List.reverse_singleton, List.singleton_append,
        List.lookup_cons]
      by_cases h : binding.1 = name
      · simp [h]
      · have hname : (name == binding.1) = false := by simpa using Ne.symm h
        simp [h, hname, ih]

end Table

namespace Text

/-- A needle is found where it stands first. -/
theorem cutFirst?_of_first {needle before : Text}
    (h : ∀ first after, before ++ needle = first ++ needle ++ after →
      before.length ≤ first.length) (rest : Text) :
    cutFirst? needle (before ++ needle ++ rest) = some (before, rest) := by
  obtain ⟨first, last, hcut, hle⟩ := exists_cutFirst? needle before rest
  have hsplit := cutFirst?_append hcut
  have hfits : (first ++ needle).length ≤ (before ++ needle).length := by simpa using hle
  obtain ⟨after, hafter⟩ : first ++ needle <+: before ++ needle :=
    List.prefix_of_prefix_length_le ⟨last, hsplit.symm⟩ ⟨rest, rfl⟩ hfits
  have hlength : first.length = before.length := Nat.le_antisymm hle (h first after hafter.symm)
  rw [List.append_assoc, List.append_assoc] at hsplit
  obtain ⟨rfl, htail⟩ := List.append_inj hsplit hlength.symm
  rw [hcut, List.append_cancel_left htail]

end Text

namespace Assignment

/-- No assignment starts at a character that is in no name. -/
theorem read?_of_not_isNameChar {c : Char} (h : isNameChar c = false) (s : Text) :
    read? (c :: s) = none := by
  have hname : (c :: s).takeWhile isNameChar = [] := by simp [h]
  simp only [read?, hname, true_or, if_true]
  split
  · split
    · split <;> rfl
    · rfl
  · rfl

/-- No assignment starts where a second name follows the first one over blanks. -/
theorem read?_of_gap {name gap rest : Text} {c : Char} (hname : ∀ d ∈ name, isNameChar d = true)
    (hgap : Blanks gap) (hne : gap ≠ []) (hc : isNameChar c = true) :
    read? (name ++ (gap ++ c :: rest)) = none := by
  have hsign : c ≠ '=' := by
    rintro rfl
    exact Bool.noConfusion hc
  have hblank : (c :: rest).head?.all (!Text.isAsciiBlank ·) = true := by
    simp [not_isAsciiBlank_of_isNameChar hc]
  have hstop : (gap ++ c :: rest).head?.all (!isNameChar ·) = true := by
    obtain ⟨d, tail, rfl⟩ := List.exists_cons_of_ne_nil hne
    simp [not_isNameChar_of_isAsciiBlank (hgap d (by simp))]
  simp only [read?, dropWhile_run hname hstop, dropWhile_run hgap hblank]
  split
  next he => exact absurd (List.cons.inj he).1 hsign
  next => rfl

end Assignment

/-- The assignments of a text behind blanks. -/
theorem findAssignments_blanks {blanks : Text} (h : Blanks blanks) (s : Text) :
    findAssignments (blanks ++ s) = findAssignments s := by
  induction blanks with
  | nil => rfl
  | cons c blanks ih =>
      have hc := not_isNameChar_of_isAsciiBlank (h c (by simp))
      rw [List.cons_append, findAssignments]
      split
      next hread =>
        rw [Assignment.read?_of_not_isNameChar hc] at hread
        cases hread
      next => exact ih fun d hd => h d (by simp [hd])

/-- The assignments of a text that starts with one. -/
theorem findAssignments_text {a : Assignment} (h : a.Proper) (s : Text) :
    findAssignments (a.text ++ s) = a :: findAssignments s := by
  have hread := Assignment.read?_text h s
  obtain ⟨c, tail, hcons⟩ : ∃ c tail, a.text ++ s = c :: tail := by
    apply List.exists_cons_of_ne_nil
    simp [Assignment.text]
  rw [hcons] at hread ⊢
  rw [findAssignments]
  split
  next b rest hsome =>
    rw [hread] at hsome
    cases hsome
    rfl
  next hnone =>
    rw [hread] at hnone
    cases hnone

/-- The assignments of an attribute text are those that it is made of. -/
theorem findAssignments_attributeText {items : List (Text × Assignment)} (h : ProperItems items) :
    findAssignments (attributeText items) = items.map Prod.snd := by
  induction items with
  | nil => rw [attributeText, List.map_nil, List.flatten_nil, findAssignments, List.map_nil]
  | cons item items ih =>
      obtain ⟨hblanks, hproper⟩ := h item (by simp)
      have hsplit : attributeText (item :: items) =
          item.1 ++ (item.2.text ++ attributeText items) := by
        simp [attributeText]
      rw [hsplit, findAssignments_blanks hblanks, findAssignments_text hproper,
        ih fun other ho => h other (by simp [ho]), List.map_cons]

/-- Behind a place where no assignment starts there are no items. -/
theorem attributeList_of_none {s : Text}
    (h : Assignment.read? (s.dropWhile Text.isAsciiBlank) = none) : attributeList s = ([], s) := by
  have hnone := @attributeList_attributeText [] (by simp [ProperItems]) s h
  simpa [attributeText] using hnone

namespace Marker

/-- The `include` without a body that ends with a slash. -/
def single (family : Family) (attrText : Text) (offset : Int) : Marker where
  family := family
  shape := .selfClosing
  tag := includeTag
  attrText := attrText
  openingClose := []
  body := []
  closing := '/' :: family.ending
  offset := offset

/-- The marker whose body is ended by a closing marker, without blanks before its ending. -/
def pair (family : Family) (tag attrText body : Text) (offset : Int) : Marker where
  family := family
  shape := .markerPair
  tag := tag
  attrText := attrText
  openingClose := family.ending
  body := body
  closing := family.closingMarker tag
  offset := offset

theorem single_text (family : Family) (attrText : Text) (offset : Int) :
    (single family attrText offset).text =
      family.opening ++ includeTag ++ attrText ++ '/' :: family.ending := by
  simp [single, text, rebuild, head, opening]

theorem pair_text (family : Family) (tag attrText body : Text) (offset : Int) :
    (pair family tag attrText body offset).text =
      family.opening ++ tag ++ attrText ++ family.ending ++ body ++ family.closingMarker tag := by
  simp [pair, text, rebuild, head, opening]

end Marker

/-- A marker is read by the rules of the family that it starts with. -/
theorem readMarker?_family (family : Family) (offset : Int) (s : Text) :
    readMarker? offset (family.opening ++ s) =
      [Shape.selfClosing, .markerPair, .tagPair].findSome? fun shape =>
        Rule.read? ⟨family, shape⟩ offset (family.opening ++ s) := by
  cases family with
  | html =>
      have hnone (shape : Shape) :
          Rule.read? ⟨.block, shape⟩ offset (Family.html.opening ++ s) = none := by
        cases shape <;> rfl
      simp [readMarker?, rules, List.findSome?_cons, hnone]
  | block =>
      have hnone (shape : Shape) :
          Rule.read? ⟨.html, shape⟩ offset (Family.block.opening ++ s) = none := by
        cases shape <;> rfl
      simp [readMarker?, rules, List.findSome?_cons, hnone]

/-- The choices of a tag that starts with a name: those that go on, then the name itself. -/
theorem nameChoices_name {tag : Text} (h : IsName tag) (s : Text) :
    ∃ shorter, nameChoices (tag ++ s) =
      (nameChoices s).map (fun choice => (tag ++ choice.1, choice.2)) ++ (tag, s) :: shorter := by
  obtain ⟨hne, hchars⟩ := h
  induction tag with
  | nil => exact absurd rfl hne
  | cons c tag ih =>
      have hc := hchars c (by simp)
      by_cases htag : tag = []
      · subst htag
        exact ⟨[], by simp [nameChoices, hc]⟩
      · obtain ⟨shorter, hshorter⟩ := ih htag fun d hd => hchars d (by simp [hd])
        refine ⟨shorter.map (fun choice => (c :: choice.1, choice.2)) ++ [([c], tag ++ s)], ?_⟩
        simp [nameChoices, hc, hshorter]

/-- Items that are set off by blanks. -/
def Spaced (items : List (Text × Assignment)) : Prop :=
  ∀ item ∈ items, item.1 ≠ []

section Pair

variable {family : Family} {items : List (Text × Assignment)} (hitems : ProperItems items)
  (hspaced : Spaced items)
include hitems hspaced

/-- What follows a tag: at once the ending, or a blank and the name of an attribute. -/
theorem attributeText_cases (s : Text) :
    (items = [] ∧ attributeText items ++ s = s) ∨
      ∃ gap c rest, Blanks gap ∧ gap ≠ [] ∧ isNameChar c = true ∧
        attributeText items ++ s = gap ++ c :: rest := by
  cases items with
  | nil => exact Or.inl ⟨rfl, rfl⟩
  | cons item items =>
      obtain ⟨hblanks, hproper⟩ := hitems item (by simp)
      obtain ⟨c, name, hname⟩ := List.exists_cons_of_ne_nil hproper.name.1
      refine Or.inr ⟨item.1, c, (c :: name ++ item.2.text.drop (c :: name).length ++
        attributeText items ++ s).tail, hblanks, hspaced item (by simp),
        hproper.name.2 c (by simp [hname]), ?_⟩
      simp [attributeText, Assignment.text, hname]

/-- No longer tag leaves the ending of the comment behind it. -/
theorem readTagged?_longer (offset : Int) {tag s : Text} {choice : Text × Text}
    (h : choice ∈ nameChoices (attributeText items ++ (family.ending ++ s))) :
    Rule.readTagged? ⟨family, .markerPair⟩ offset (tag ++ choice.1, choice.2) = none := by
  rcases attributeText_cases hitems hspaced (family.ending ++ s) with
    ⟨-, he⟩ | ⟨gap, c, rest, hgap, hne, -, he⟩
  · rw [he] at h
    cases family with
    | html =>
        have hchoices : nameChoices (Family.html.ending ++ s) =
            [(['-', '-'], '>' :: s), (['-'], '-' :: '>' :: s)] := rfl
        simp only [hchoices, List.mem_cons, List.not_mem_nil, or_false] at h
        rcases h with rfl | rfl
        · have hlist := @attributeList_of_none ('>' :: s)
            (Assignment.read?_of_not_isNameChar rfl s)
          simp only [Rule.readTagged?, hlist]
          rfl
        · have hlist := @attributeList_of_none ('-' :: '>' :: s)
            (@Assignment.read?_eq_none ['-'] s '>' (by simp; rfl) rfl rfl (by decide))
          simp only [Rule.readTagged?, hlist]
          rfl
    | block =>
        have hchoices : nameChoices (Family.block.ending ++ s) = [] := rfl
        rw [hchoices] at h
        cases h
  · obtain ⟨d, tail, rfl⟩ := List.exists_cons_of_ne_nil hne
    have hd := not_isNameChar_of_isAsciiBlank (hgap d (by simp))
    rw [he, List.cons_append, nameChoices, hd] at h
    cases h

/-- Where a name goes on from `include`, no assignment starts. -/
theorem read?_longer {more s : Text} (hmore : IsName more) :
    Assignment.read? (more ++ (attributeText items ++ (family.ending ++ s))) = none := by
  rcases attributeText_cases hitems hspaced (family.ending ++ s) with
    ⟨-, he⟩ | ⟨gap, c, rest, hgap, hne, hc, he⟩
  · rw [he]
    cases family with
    | html =>
        have hname : ∀ d ∈ more ++ ['-', '-'], isNameChar d = true := by
          intro d hd
          rcases List.mem_append.1 hd with hd | hd
          · exact hmore.2 d hd
          · simp only [List.mem_cons, List.not_mem_nil, or_false, or_self] at hd
            exact hd ▸ rfl
        have hnone := @Assignment.read?_eq_none _ s '>' hname rfl rfl (by decide)
        simpa [Family.ending] using hnone
    | block => exact @Assignment.read?_eq_none _ _ '>' hmore.2 rfl rfl (by decide)
  · rw [he]
    exact Assignment.read?_of_gap hmore.2 hgap hne hc

/-- What follows a tag does not start as an ending does behind its first characters. -/
theorem head?_attributeText (s : Text) {c : Char} {rest : Text}
    (h : attributeText items ++ (family.ending ++ s) = c :: rest) :
    Text.isAsciiBlank c = true ∨ c :: rest = family.ending ++ s := by
  rcases attributeText_cases hitems hspaced (family.ending ++ s) with
    ⟨-, he⟩ | ⟨gap, d, tail, hgap, hne, -, he⟩
  · exact Or.inr (h.symm.trans he)
  · obtain ⟨b, gap, rfl⟩ := List.exists_cons_of_ne_nil hne
    rw [he, List.cons_append] at h
    exact Or.inl ((List.cons.inj h).1 ▸ hgap b (by simp))

/-- A name takes the start of an ending with it, but not all of it. -/
theorem ending_longer {more s rest : Text} (hmore : IsName more) :
    more ++ (attributeText items ++ (family.ending ++ s)) ≠ family.ending ++ rest := by
  intro h
  obtain ⟨hne, hchars⟩ := hmore
  have hangle : '>' ∉ more := by
    intro hmem
    exact Bool.noConfusion (hchars '>' hmem)
  cases family with
  | block =>
      obtain ⟨c, more, rfl⟩ := List.exists_cons_of_ne_nil hne
      exact hangle (by simp [(List.cons.inj h).1])
  | html =>
      rcases List.append_eq_append_iff.1 h with ⟨left, hending, hbehind⟩ | ⟨left, rfl, -⟩
      · -- What is left of the ending stands where the attributes or the ending should.
        have hleft : left = ['-', '>'] ∨ left = ['>'] := by
          match more, hne with
          | [c], _ => simp_all [Family.ending]
          | [c, d], _ => simp_all [Family.ending]
          | c :: d :: e :: more, _ => simp_all [Family.ending]
        rcases hleft with rfl | rfl
        · rcases head?_attributeText hitems hspaced s hbehind with hblank | he
          · cases hblank
          · simp [Family.ending] at he
        · rcases head?_attributeText hitems hspaced s hbehind with hblank | he
          · cases hblank
          · simp [Family.ending] at he
      · exact hangle (by simp [Family.ending])

/-- A name that goes on from `include` does not end a marker without a body. -/
theorem selfClosing?_longer {more s : Text} (hmore : IsName more) :
    selfClosing? family (more ++ (attributeText items ++ (family.ending ++ s))) = none := by
  by_contra hsome
  obtain ⟨⟨piece, rest⟩, hread⟩ := Option.ne_none_iff_exists'.1 hsome
  obtain ⟨blanks, hblanks, hpiece, hsplit⟩ := selfClosing?_eq_some_iff.1 hread
  obtain ⟨c, tail, hcons⟩ := List.exists_cons_of_ne_nil hmore.1
  have hc := hmore.2 c (by simp [hcons])
  have hstart {d : Char} {t : Text} (he : piece ++ rest = d :: t) : isNameChar d = true := by
    rw [← hsplit, hcons] at he
    exact (List.cons.inj he).1 ▸ hc
  cases blanks with
  | cons b blanks =>
      have hb := not_isNameChar_of_isAsciiBlank (hblanks b (by simp))
      have hname : isNameChar b = true := by
        rcases hpiece with rfl | rfl
        · exact hstart rfl
        · exact hstart rfl
      rw [hname] at hb
      cases hb
  | nil =>
      rcases hpiece with rfl | rfl
      · exact Bool.noConfusion (hstart (d := '/') rfl)
      · exact ending_longer hitems hspaced hmore hsplit

/-- A marker with another tag is no marker without a body. -/
theorem readSelfClosing?_other (offset : Int) {tag s : Text} (htag : IsName tag)
    (hother : tag ≠ includeTag) :
    Rule.readSelfClosing? family offset
      (family.opening ++ (tag ++ (attributeText items ++ (family.ending ++ s)))) = none := by
  have hopening (t : Text) : Text.dropLead? family.opening (family.opening ++ t) = some t :=
    Text.dropLead?_eq_some_iff.2 rfl
  simp only [Rule.readSelfClosing?, hopening, Option.bind_eq_bind, Option.bind_some]
  cases hlead : Text.dropLead? includeTag (tag ++ (attributeText items ++ (family.ending ++ s))) with
  | none => rfl
  | some rest =>
      rcases List.append_eq_append_iff.1 (Text.dropLead?_eq_some_iff.1 hlead) with
        ⟨more, hinclude, hbehind⟩ | ⟨more, rfl, rfl⟩
      · -- The tag is too short, and a letter of `include` would have to follow it.
        cases more with
        | nil => exact absurd (by simpa using hinclude.symm) hother
        | cons c more =>
            have hletter : ∀ d ∈ includeTag, Text.isAsciiBlank d = false ∧ d ≠ '-' ∧ d ≠ '>' := by
              simp [includeTag, Text.isAsciiBlank]
            obtain ⟨hblank, hhyphen, hangle⟩ := hletter c (by simp [hinclude])
            rcases head?_attributeText hitems hspaced s hbehind with hc | he
            · rw [hblank] at hc
              cases hc
            · cases family with
              | html => exact absurd (List.cons.inj he).1 hhyphen
              | block => exact absurd (List.cons.inj he).1 hangle
      · have hmore : IsName more := by
          refine ⟨?_, fun c hc => htag.2 c (by simp [hc])⟩
          rintro rfl
          exact hother (List.append_nil includeTag)
        obtain ⟨c, tail, hcons⟩ := List.exists_cons_of_ne_nil hmore.1
        have hblank := not_isAsciiBlank_of_isNameChar (hmore.2 c (by simp [hcons]))
        have hread := @read?_longer family _ hitems hspaced _ s hmore
        have hlist : attributeList (more ++ (attributeText items ++ (family.ending ++ s))) =
            ([], more ++ (attributeText items ++ (family.ending ++ s))) := by
          apply attributeList_of_none
          rw [← hread]
          congr 1
          simp [hcons, hblank]
        simp only [Option.bind_some, hlist, selfClosing?_longer hitems hspaced hmore,
          Option.bind_none]

/-- A marker with a body is read back where it is written, if its closing does not stand
earlier. -/
theorem readMarker?_markerPair (offset : Int) {tag body : Text} (htag : IsName tag)
    (hother : tag ≠ includeTag)
    (hbody : ∀ before after,
      body ++ family.closingMarker tag = before ++ family.closingMarker tag ++ after →
        body.length ≤ before.length) (rest : Text) :
    readMarker? offset ((Marker.pair family tag (attributeText items) body offset).text ++ rest) =
      some (Marker.pair family tag (attributeText items) body offset) := by
  obtain ⟨behind, hbehind⟩ :
      ∃ behind, behind = body ++ family.closingMarker tag ++ rest := ⟨_, rfl⟩
  have hlist := @attributeList_stops _ hitems [] family.ending (by simp [Blanks])
    family.stops_ending behind
  have hopen := (@blanksThen?_eq_some_iff _ _ _ behind family.stops_ending).2
    ⟨[], by simp [Blanks], rfl, rfl⟩
  rw [List.nil_append] at hlist hopen
  have hcut : Text.cutFirst? (family.closingMarker tag) behind = some (body, rest) := by
    rw [hbehind, Text.cutFirst?_of_first hbody rest]
  have hchosen : Rule.readTagged? ⟨family, .markerPair⟩ offset
      (tag, attributeText items ++ (family.ending ++ behind)) =
        some (Marker.pair family tag (attributeText items) body offset) := by
    simp only [Rule.readTagged?, Shape.openingEnd, Shape.bodyEnd, hlist, hopen, hcut,
      Option.bind_eq_bind, Option.bind_some, Option.pure_def]
    rfl
  obtain ⟨shorter, hchoices⟩ :=
    nameChoices_name htag (attributeText items ++ (family.ending ++ behind))
  have hlonger : ((nameChoices (attributeText items ++ (family.ending ++ behind))).map
      fun choice => (tag ++ choice.1, choice.2)).findSome?
        (Rule.readTagged? ⟨family, .markerPair⟩ offset) = none := by
    rw [List.findSome?_eq_none_iff]
    intro choice hchoice
    obtain ⟨longer, hmem, rfl⟩ := List.mem_map.1 hchoice
    exact readTagged?_longer hitems hspaced offset hmem
  have hself := @readSelfClosing?_other family _ hitems hspaced offset _ behind htag hother
  have htext : (Marker.pair family tag (attributeText items) body offset).text ++ rest =
      family.opening ++ (tag ++ (attributeText items ++ (family.ending ++ behind))) := by
    simp [Marker.pair_text, hbehind]
  rw [htext, readMarker?_family]
  simp only [List.findSome?_cons, Rule.read?, hself, Text.dropLead?_eq_some_iff.2 rfl,
    Option.bind_eq_bind, Option.bind_some, hchoices, List.findSome?_append, hlonger,
    Option.none_or, hchosen]

end Pair

/-- An `include` without a body is read back where it is written. -/
theorem readMarker?_selfClosing {family : Family} {items : List (Text × Assignment)}
    (hitems : ProperItems items) (offset : Int) (rest : Text) :
    readMarker? offset ((Marker.single family (attributeText items) offset).text ++ rest) =
      some (Marker.single family (attributeText items) offset) := by
  have hread := @Rule.readSelfClosing?_text family items [] _ hitems (by simp [Blanks])
    (Or.inl rfl) offset rest
  have htext : (Marker.single family (attributeText items) offset).text ++ rest =
      family.opening ++ (includeTag ++ (attributeText items ++ ('/' :: family.ending ++ rest))) := by
    simp [Marker.single_text]
  rw [List.nil_append] at hread
  rw [htext, readMarker?_family]
  simp only [List.findSome?_cons, Rule.read?, hread]
  rfl

/-- Names with values as attributes: each behind a blank, its value encoded and quoted. -/
def writtenAttributes (pairs : List (Text × Text)) : Text :=
  pairs.flatMap fun (name, value) =>
    ' ' :: name ++ '=' :: '"' :: Text.encodeEntities value ++ ['"']

/-- Names can be written, and values are not empty. -/
def Writable (pairs : List (Text × Text)) : Prop :=
  ∀ pair ∈ pairs, IsName pair.1 ∧ pair.2 ≠ []

/-- A name with its value as an item of an attribute text. -/
def writtenItem (pair : Text × Text) : Text × Assignment :=
  ([' '], { name := pair.1, gapBefore := [], gapAfter := [],
            value := Text.encodeEntities pair.2 })

/-- The items of parsed attributes are the decoded ones. -/
theorem Attributes.items_eq_of_parse {directory attrText : Text} {attributes : Attributes}
    {items : Table Text Text} (h : Attributes.parse directory attrText = .ok attributes)
    (hitems : Attributes.decodeItems attrText = .ok items) : attributes.items = items := by
  obtain ⟨decoded, hdecoded, h⟩ := ok_of_bind h
  obtain ⟨filePath, -, h⟩ := ok_of_bind h
  obtain ⟨exportPath, -, h⟩ := ok_of_bind h
  cases h
  exact Except.ok.inj (hdecoded.symm.trans hitems)

section Written

variable {pairs : List (Text × Text)}

theorem writtenAttributes_eq (pairs : List (Text × Text)) :
    writtenAttributes pairs = attributeText (pairs.map writtenItem) := by
  induction pairs with
  | nil => rfl
  | cons pair pairs ih =>
      rw [writtenAttributes] at ih
      rw [writtenAttributes, List.flatMap_cons, ih]
      simp [attributeText, writtenItem, Assignment.text]

theorem Writable.proper (h : Writable pairs) : ProperItems (pairs.map writtenItem) := by
  intro item hitem
  obtain ⟨pair, hpair, rfl⟩ := List.mem_map.1 hitem
  obtain ⟨hname, hvalue⟩ := h pair hpair
  have hblank : Blanks [' '] := by
    intro c hc
    exact List.mem_singleton.1 hc ▸ rfl
  have hnil : Blanks [] := by
    intro c hc
    cases hc
  exact ⟨hblank, hname, hnil, hnil, Text.encodeEntities_ne_nil hvalue,
    Text.notMem_encodeEntities pair.2⟩

theorem spaced_written (pairs : List (Text × Text)) : Spaced (pairs.map writtenItem) := by
  intro item hitem
  obtain ⟨pair, -, rfl⟩ := List.mem_map.1 hitem
  simp [writtenItem]

/-- Decoding gives the names with their values back. -/
theorem Writable.decodeItems (h : Writable pairs) :
    Attributes.decodeItems (writtenAttributes pairs) = .ok (Table.ofList pairs) := by
  have hdecode : (pairs.map writtenItem |>.map Prod.snd).mapM (fun a => do
      return (a.name, ← Text.decodeEntities a.value)) = (.ok pairs : Except Error _) := by
    clear h
    induction pairs with
    | nil => rfl
    | cons pair pairs ih =>
        rw [List.map_cons, List.map_cons, List.mapM_cons, ih]
        simp only [writtenItem, Text.decodeEntities_encodeEntities]
        rfl
  rw [Attributes.decodeItems, writtenAttributes_eq, findAssignments_attributeText h.proper, hdecode]
  rfl

end Written

/-- Markers are read back as they are written. Whatever the values are, and whatever
follows: an `include` without a body and a marker around a body that does not hold its
closing are found with their own parts and text, in both families. The attributes are
the names in the order in which they first appear, each with its last value, whenever the
paths among the values can be resolved. -/
theorem markers_read_back {pairs : List (Text × Text)} (hpairs : Writable pairs) (family : Family) :
    (∀ rest base, ∃ m,
      markerAt? (family.opening ++ includeTag ++ writtenAttributes pairs ++ '/' :: family.ending ++
        rest) 0 base = some m ∧
      m.family = family ∧ m.shape = .selfClosing ∧ m.attrText = writtenAttributes pairs ∧
      m.text = family.opening ++ includeTag ++ writtenAttributes pairs ++ '/' :: family.ending) ∧
    (∀ tag body rest base, IsName tag → tag ≠ includeTag →
      (∀ before after,
        body ++ family.closingMarker tag = before ++ family.closingMarker tag ++ after →
          body.length ≤ before.length) → ∃ m,
      markerAt? (family.opening ++ tag ++ writtenAttributes pairs ++ family.ending ++ body ++
        family.closingMarker tag ++ rest) 0 base = some m ∧
      m.family = family ∧ m.shape = .markerPair ∧ m.tag = tag ∧
      m.attrText = writtenAttributes pairs ∧ m.body = body ∧
      m.text = family.opening ++ tag ++ writtenAttributes pairs ++ family.ending ++ body ++
        family.closingMarker tag) ∧
    ∃ items, Attributes.decodeItems (writtenAttributes pairs) = .ok items ∧
      items.names = (pairs.map Prod.fst).eraseDups ∧
      (∀ name, items.get? name = pairs.reverse.lookup name) ∧
      ∀ directory attributes,
        Attributes.parse directory (writtenAttributes pairs) = .ok attributes →
          attributes.items = items := by
  have hproper := hpairs.proper
  have hspaced := spaced_written pairs
  refine ⟨?_, ?_, Table.ofList pairs, hpairs.decodeItems, Table.names_ofList pairs,
    Table.get?_ofList pairs, ?_⟩
  · intro rest base
    refine ⟨.single family (writtenAttributes pairs) base, ?_, rfl, rfl, rfl,
      Marker.single_text family _ base⟩
    have hread := @readMarker?_selfClosing family _ hproper base rest
    rw [← writtenAttributes_eq, Marker.single_text] at hread
    simpa [markerAt?] using hread
  · intro tag body rest base htag hother hbody
    refine ⟨.pair family tag (writtenAttributes pairs) body base, ?_, rfl, rfl, rfl, rfl, rfl,
      Marker.pair_text family tag _ body base⟩
    have hread := readMarker?_markerPair hproper hspaced base htag hother hbody rest
    rw [← writtenAttributes_eq, Marker.pair_text] at hread
    simpa [markerAt?] using hread
  · intro directory attributes hparse
    exact Attributes.items_eq_of_parse hparse hpairs.decodeItems

/-- A value that closes its quotes and its comment, and a name given twice, around a body. -/
theorem markers_read_back_quoted :
    ∃ pairs, pairs = [("file".toList, "a\"-->".toList), ("file".toList, "b&quot;".toList)] ∧
      Writable pairs ∧ (∃ m, markerAt? (Family.html.opening ++ "t-".toList ++
        writtenAttributes pairs ++ Family.html.ending ++ "x".toList ++
        Family.html.closingMarker "t-".toList ++ []) 0 5 = some m ∧ m.body = "x".toList) ∧
      ∃ items, Attributes.decodeItems (writtenAttributes pairs) = .ok items ∧
        items.names = ["file".toList] ∧ items.get? "file".toList = some "b&quot;".toList := by
  have hpairs : Writable [("file".toList, "a\"-->".toList), ("file".toList, "b&quot;".toList)] := by
    intro pair hpair
    simp only [List.mem_cons, List.not_mem_nil, or_false] at hpair
    rcases hpair with rfl | rfl
    · exact ⟨⟨by decide, List.all_eq_true.1 rfl⟩, by decide⟩
    · exact ⟨⟨by decide, List.all_eq_true.1 rfl⟩, by decide⟩
  have hfirst (before after : Text) (h : "x".toList ++ Family.html.closingMarker "t-".toList =
      before ++ Family.html.closingMarker "t-".toList ++ after) : 1 ≤ before.length := by
    cases before with
    | nil => exact absurd (List.cons.inj h).1 (by decide)
    | cons c before => simp
  obtain ⟨-, hpair, items, hitems, hnames, hlookup, -⟩ := markers_read_back hpairs .html
  obtain ⟨m, hm, -, -, -, -, hbody, -⟩ :=
    hpair "t-".toList "x".toList [] 5 ⟨by decide, List.all_eq_true.1 rfl⟩ (by decide) hfirst
  exact ⟨_, rfl, hpairs, ⟨m, hm, hbody⟩, items, hitems, hnames.trans (by decide),
    (hlookup _).trans (by decide)⟩

end BlockWeave
