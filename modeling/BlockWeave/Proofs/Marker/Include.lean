import BlockWeave.Marker.Attributes
import BlockWeave.Marker.Segment
import BlockWeave.Proofs.Marker.Grammar
import BlockWeave.Proofs.Path
import BlockWeave.Shorthand

/-!
# Markers that include whole files

A text is plain when no marker and no shorthand can start in it. Texts that are made of
plain pieces and of markers that include files are cut just there, whatever the pieces
are: a plain piece only makes the literal before the next marker longer.
-/

namespace BlockWeave

/-- A text without the characters that markers are made of. -/
structure IsPlain (s : Text) : Prop where
  angle : '<' ∉ s
  slash : '/' ∉ s
  star : '*' ∉ s

namespace IsPlain

theorem nil : IsPlain [] := ⟨by simp, by simp, by simp⟩

theorem append {s t : Text} (hs : IsPlain s) (ht : IsPlain t) : IsPlain (s ++ t) := by
  refine ⟨?_, ?_, ?_⟩
  · simpa using ⟨hs.angle, ht.angle⟩
  · simpa using ⟨hs.slash, ht.slash⟩
  · simpa using ⟨hs.star, ht.star⟩

theorem tail {c : Char} {s : Text} (h : IsPlain (c :: s)) : IsPlain s :=
  ⟨List.not_mem_of_not_mem_cons h.angle, List.not_mem_of_not_mem_cons h.slash,
    List.not_mem_of_not_mem_cons h.star⟩

end IsPlain

/-- The name of a file: letters and digits of ASCII. -/
structure IsFileName (name : Text) : Prop where
  ne_nil : name ≠ []
  length_le : name.length ≤ 255
  chars : ∀ c ∈ name, c.isAlphanum = true

namespace IsFileName

variable {name : Text}

theorem notMem (h : IsFileName name) {c : Char} (hc : c.isAlphanum = false) : c ∉ name := by
  intro hmem
  rw [h.chars c hmem] at hc
  cases hc

theorem isPart (h : IsFileName name) : Path.IsPart name := by
  have hdot : '.' ∉ name := h.notMem rfl
  refine ⟨h.ne_nil, ?_, ?_, h.notMem rfl, h.notMem rfl⟩
  · rintro rfl
    simp [Path.here] at hdot
  · rintro rfl
    simp [Path.up] at hdot

theorem not_isVariantName (h : IsFileName name) : isVariantName name = false := by
  obtain ⟨c, rest, rfl⟩ := List.exists_cons_of_ne_nil h.ne_nil
  have hhash : '#' ∉ c :: rest := h.notMem rfl
  simpa [isVariantName] using Ne.symm (List.ne_of_not_mem_cons hhash)

end IsFileName

/-- The assignment that names a file. -/
def fileAssignment (name : Text) : Assignment where
  name := Attributes.fileName
  gapBefore := []
  gapAfter := []
  value := name

/-- The marker that includes a file. -/
def includeMarker (name : Text) (offset : Int) : Marker where
  family := .block
  shape := .selfClosing
  tag := includeTag
  attrText := attributeText [([' '], fileAssignment name)]
  openingClose := []
  body := []
  closing := '/' :: Family.block.ending
  offset := offset

/-- The marker that includes a file, as it is written. -/
def includeText (name : Text) : Text :=
  ['/', '*', '<', 'i', 'n', 'c', 'l', 'u', 'd', 'e', ' ', 'f', 'i', 'l', 'e', '=', '"'] ++ name ++
    ['"', '/', '>', '*', '/']

theorem includeMarker_text (name : Text) (offset : Int) :
    (includeMarker name offset).text = includeText name := by
  simp [includeText, includeMarker, Marker.text, Marker.rebuild, Marker.head, Marker.opening,
    Family.opening, Family.ending, includeTag, attributeText, fileAssignment,
    Attributes.fileName, Assignment.text]

theorem fileAssignment_proper {name : Text} (h : IsFileName name) :
    (fileAssignment name).Proper := by
  refine ⟨⟨by simp [fileAssignment, Attributes.fileName], ?_⟩, ?_, ?_, h.ne_nil, h.notMem rfl⟩
  · intro c hc
    simp only [fileAssignment, Attributes.fileName, List.mem_cons, List.not_mem_nil,
      or_false] at hc
    rcases hc with rfl | rfl | rfl | rfl <;> rfl
  · intro c hc
    simp [fileAssignment] at hc
  · intro c hc
    simp [fileAssignment] at hc

theorem fileItem_proper {name : Text} (h : IsFileName name) :
    ProperItems [([' '], fileAssignment name)] := by
  intro item hitem
  rw [List.mem_singleton.1 hitem]
  refine ⟨?_, fileAssignment_proper h⟩
  intro c hc
  rw [List.mem_singleton.1 hc]
  rfl

/-- A marker that includes a file is read where it is written. -/
theorem readMarker?_includeText {name : Text} (h : IsFileName name) (offset : Int) (rest : Text) :
    readMarker? offset (includeText name ++ rest) = some (includeMarker name offset) := by
  have hread := @Rule.readSelfClosing?_text .block _ [] _ (fileItem_proper h) (by simp [Blanks])
    (Or.inl rfl) offset rest
  have hsplit : includeText name ++ rest = Family.block.opening ++ (includeTag ++
      (attributeText [([' '], fileAssignment name)] ++
        ([] ++ '/' :: Family.block.ending ++ rest))) := by
    rw [← includeMarker_text name offset]
    simp [includeMarker, Marker.text, Marker.rebuild, Marker.head, Marker.opening]
  have hhtml : Text.dropLead? Family.html.opening (includeText name ++ rest) = none := by
    rw [hsplit]
    rfl
  have hnone (shape : Shape) :
      Rule.read? ⟨.html, shape⟩ offset (includeText name ++ rest) = none := by
    cases shape with
    | selfClosing => simp [Rule.read?, Rule.readSelfClosing?, hhtml]
    | markerPair => simp [Rule.read?, hhtml]
    | tagPair => simp [Rule.read?, hhtml]
  have hsome : Rule.read? ⟨.block, .selfClosing⟩ offset (includeText name ++ rest) =
      some (includeMarker name offset) := by
    rw [hsplit]
    exact hread
  simp only [readMarker?, rules, List.findSome?_cons, hnone, hsome]

section Pieces

variable {offset : Int} {content rest : Text} {c : Char}

theorem segments_of_nil (h : (splitAtOpening content).2 = []) :
    segments offset content = [.literal (splitAtOpening content).1] := by
  rw [segments]
  split
  next => rfl
  next c rest hcons =>
    rw [h] at hcons
    cases hcons

theorem segments_of_some (h : (splitAtOpening content).2 = c :: rest) {marker : Marker}
    (hread : readMarker? (offset + (splitAtOpening content).1.length) (c :: rest) = some marker) :
    segments offset content = .literal (splitAtOpening content).1 :: .marker marker ::
      segments (offset + (splitAtOpening content).1.length + marker.text.length)
        ((c :: rest).drop marker.text.length) := by
  rw [segments]
  split
  next hnil =>
    rw [h] at hnil
    cases hnil
  next c' rest' hcons =>
    rw [h] at hcons
    cases hcons
    simp only [hread]

theorem segments_of_none (h : (splitAtOpening content).2 = c :: rest)
    (hread : readMarker? (offset + (splitAtOpening content).1.length) (c :: rest) = none) :
    segments offset content = .literal ((splitAtOpening content).1 ++ [c]) ::
      segments (offset + (splitAtOpening content).1.length + 1) rest := by
  rw [segments]
  split
  next hnil =>
    rw [h] at hnil
    cases hnil
  next c' rest' hcons =>
    rw [h] at hcons
    cases hcons
    simp only [hread]

end Pieces

/-- No opening stands in a plain text. -/
theorem splitAtOpening_plain {s : Text} (h : IsPlain s) (rest : Text) :
    splitAtOpening (s ++ rest) = (s ++ (splitAtOpening rest).1, (splitAtOpening rest).2) := by
  induction s with
  | nil => rfl
  | cons c s ih =>
      have hangle : '<' ≠ c := List.ne_of_not_mem_cons h.angle
      have hslash : '/' ≠ c := List.ne_of_not_mem_cons h.slash
      have hopening : atOpening (c :: (s ++ rest)) = false := by
        simp [atOpening, Text.startsWith, Family.opening, Text.dropLead?, hangle, hslash]
      simp [splitAtOpening, hopening, ih h.tail]

/-- A plain text makes the literal in front longer. -/
theorem segments_plain {s : Text} (h : IsPlain s) (offset : Int) (rest : Text) :
    ∃ literal tail, segments (offset + s.length) rest = .literal literal :: tail ∧
      segments offset (s ++ rest) = .literal (s ++ literal) :: tail := by
  have hbefore : (splitAtOpening (s ++ rest)).1 = s ++ (splitAtOpening rest).1 := by
    rw [splitAtOpening_plain h]
  have hbehind : (splitAtOpening (s ++ rest)).2 = (splitAtOpening rest).2 := by
    rw [splitAtOpening_plain h]
  have hstart : offset + ((splitAtOpening (s ++ rest)).1.length : Int) =
      offset + s.length + (splitAtOpening rest).1.length := by
    simp [hbefore, Int.add_assoc]
  cases hrest : (splitAtOpening rest).2 with
  | nil =>
      refine ⟨_, _, segments_of_nil hrest, ?_⟩
      rw [segments_of_nil (hbehind.trans hrest), hbefore]
  | cons c tail =>
      cases hread : readMarker? (offset + s.length + (splitAtOpening rest).1.length)
          (c :: tail) with
      | none =>
          refine ⟨_, _, segments_of_none hrest hread, ?_⟩
          rw [segments_of_none (hbehind.trans hrest) (hstart ▸ hread), hstart, hbefore,
            List.append_assoc]
      | some marker =>
          refine ⟨_, _, segments_of_some hrest hread, ?_⟩
          rw [segments_of_some (hbehind.trans hrest) (hstart ▸ hread), hstart, hbefore]

/-- A marker that includes a file is a piece of its own. -/
theorem segments_includeText {name : Text} (h : IsFileName name) (offset : Int) (rest : Text) :
    segments offset (includeText name ++ rest) =
      .literal [] :: .marker (includeMarker name offset) ::
        segments (offset + (includeText name).length) rest := by
  have hsplit : splitAtOpening (includeText name ++ rest) = ([], includeText name ++ rest) := by
    simp [includeText, splitAtOpening, atOpening, Text.startsWith, Family.opening, Text.dropLead?]
  have hread := readMarker?_includeText h offset rest
  obtain ⟨c, tail, hcons⟩ : ∃ c tail, includeText name ++ rest = c :: tail := ⟨_, _, rfl⟩
  have hbehind : (splitAtOpening (includeText name ++ rest)).2 = c :: tail := by
    rw [hsplit, hcons]
  have hstart : offset + ((splitAtOpening (includeText name ++ rest)).1.length : Int) = offset := by
    simp [hsplit]
  rw [segments_of_some hbehind (by rw [hstart, ← hcons, hread]), hstart, ← hcons, hsplit,
    includeMarker_text, List.drop_left]

section Replace

variable {m : Type → Type} [Monad m] [LawfulMonad m] (handler : Marker → m Text)

theorem replaceMarkers_nil (offset : Int) : replaceMarkers handler offset [] = pure [] := by
  have hsegments : segments offset [] = [.literal []] := segments_of_nil rfl
  simp [replaceMarkers, hsegments]

/-- A plain text stays. -/
theorem replaceMarkers_plain {s : Text} (h : IsPlain s) (offset : Int) (rest : Text) :
    replaceMarkers handler offset (s ++ rest) = do
      let out ← replaceMarkers handler (offset + s.length) rest
      return s ++ out := by
  obtain ⟨literal, tail, hrest, hwhole⟩ := segments_plain h offset rest
  simp [replaceMarkers, hrest, hwhole]

/-- A marker that includes a file is replaced by what the handler gives for it. -/
theorem replaceMarkers_includeText {name : Text} (h : IsFileName name) (offset : Int)
    (rest : Text) :
    replaceMarkers handler offset (includeText name ++ rest) = do
      let text ← handler (includeMarker name offset)
      let out ← replaceMarkers handler (offset + (includeText name).length) rest
      return text ++ out := by
  simp [replaceMarkers, segments_includeText h]

end Replace

theorem markers_nil (offset : Int) : markers offset [] = [] := by
  have hsegments : segments offset [] = [.literal []] := segments_of_nil rfl
  simp [markers, hsegments, Segment.marker?]

theorem markers_plain {s : Text} (h : IsPlain s) (offset : Int) (rest : Text) :
    markers offset (s ++ rest) = markers (offset + s.length) rest := by
  obtain ⟨literal, tail, hrest, hwhole⟩ := segments_plain h offset rest
  simp [markers, hrest, hwhole, List.filterMap_cons, Segment.marker?]

theorem markers_includeText {name : Text} (h : IsFileName name) (offset : Int) (rest : Text) :
    markers offset (includeText name ++ rest) =
      includeMarker name offset :: markers (offset + (includeText name).length) rest := by
  simp [markers, segments_includeText h, List.filterMap_cons, Segment.marker?]

/-- A text without ampersands has no references. -/
theorem decodeEntities_of_notMem {s : Text} (h : '&' ∉ s) : Text.decodeEntities s = .ok s := by
  induction s with
  | nil => rw [Text.decodeEntities]
  | cons c s ih =>
      have hc : c ≠ '&' := (List.ne_of_not_mem_cons h).symm
      rw [Text.decodeEntities, if_neg hc, ih (List.not_mem_of_not_mem_cons h)]
      rfl

/-- The attribute text of a marker that includes a file has one assignment. -/
theorem findAssignments_includeMarker {name : Text} (h : IsFileName name) (offset : Int) :
    findAssignments (includeMarker name offset).attrText = [fileAssignment name] := by
  have hread := Assignment.read?_text (fileAssignment_proper h) []
  obtain ⟨c, rest, htext⟩ : ∃ c rest, (fileAssignment name).text = c :: rest := ⟨_, _, rfl⟩
  have hblank : Assignment.read? (' ' :: (fileAssignment name).text) = none := by
    simp [Assignment.read?, fileAssignment, Assignment.text, Attributes.fileName, isNameChar,
      Text.isAsciiWord, Text.isAsciiBlank]
  have hattr : (includeMarker name offset).attrText = ' ' :: (fileAssignment name).text := by
    simp [includeMarker, attributeText]
  rw [List.append_nil] at hread
  rw [hattr, findAssignments]
  split
  next hsome =>
    rw [hblank] at hsome
    cases hsome
  next =>
    rw [htext] at hread ⊢
    rw [findAssignments]
    split
    next a tail hsome =>
      rw [hread] at hsome
      cases hsome
      rw [findAssignments]
    next hnone =>
      rw [hread] at hnone
      cases hnone

/-- The attributes of a marker that includes a file of its own directory. -/
def includeAttributes (above : List Text) (name : Text) : Attributes where
  items := [(Attributes.fileName, name)]
  filePath := some (Path.absolute (above ++ [name]))
  exportPath := none

namespace includeAttributes

variable (above : List Text) (name : Text)

/-- No attribute is given but the file. -/
theorem given?_eq_none {other : Text} (h : Attributes.fileName ≠ other) :
    (includeAttributes above name).given? other = none := by
  simp [Attributes.given?, Attributes.get?, includeAttributes, Table.get?, h]

theorem file {name : Text} (h : IsFileName name) :
    (includeAttributes above name).file = some name := by
  simp [Attributes.file, Attributes.given?, Attributes.get?, includeAttributes, Table.get?,
    h.ne_nil]

theorem block : (includeAttributes above name).block = none :=
  given?_eq_none above name (by decide)

theorem encoding : (includeAttributes above name).encoding = none :=
  given?_eq_none above name (by decide)

theorem slice : (includeAttributes above name).slice = none :=
  given?_eq_none above name (by decide)

theorem exportTarget : (includeAttributes above name).exportTarget = none :=
  given?_eq_none above name (by decide)

theorem excludes (trigger : Option Text) :
    (includeAttributes above name).excludes trigger = false := by
  have htrigger : (includeAttributes above name).trigger = none :=
    given?_eq_none above name (by decide)
  rw [Attributes.excludes, htrigger]

end includeAttributes

theorem parse_includeMarker {above : List Text} (habove : ∀ part ∈ above, Path.IsPart part)
    {name : Text} (h : IsFileName name) (offset : Int) :
    Attributes.parse (Path.absolute above) (includeMarker name offset).attrText =
      .ok (includeAttributes above name) := by
  have hdecode : Text.decodeEntities name = .ok name := decodeEntities_of_notMem (h.notMem rfl)
  have hitems : Attributes.decodeItems (includeMarker name offset).attrText =
      .ok [(Attributes.fileName, name)] := by
    simp [Attributes.decodeItems, findAssignments_includeMarker h, fileAssignment, hdecode, bind,
      Except.bind, pure, Except.pure, Table.ofList, Table.put]
  have hpath : Attributes.resolveFile (Path.absolute above) (some name) =
      .ok (some (Path.absolute (above ++ [name]))) := by
    simp [Attributes.resolveFile, h.ne_nil, h.not_isVariantName,
      Path.resolve_absolute habove h.isPart, Except.map]
  have hfile : Table.get? [(Attributes.fileName, name)] Attributes.fileName = some name := by
    simp [Table.get?]
  have hexport : Table.get? [(Attributes.fileName, name)] Attributes.exportName = none := by
    simp [Table.get?, Attributes.fileName, Attributes.exportName]
  have hnone : Attributes.resolveFile (Path.absolute above) none = .ok none := rfl
  simp only [Attributes.parse, hitems, hfile, hexport, hpath, hnone, bind, Except.bind, pure,
    Except.pure, includeAttributes]

/-- A lead has characters that have to stand in the text. -/
theorem Text.dropLead?_eq_none {lead s : Text} {c : Char} (hc : c ∈ lead) (h : c ∉ s) :
    dropLead? lead s = none := by
  rw [Option.eq_none_iff_forall_ne_some]
  intro rest hrest
  rw [dropLead?_eq_some_iff.1 hrest] at h
  exact h (List.mem_append_left rest hc)

/-- Where neither of the comments that a shorthand starts with can stand, no shorthand does. -/
theorem Shorthand.expand_of_notMem {s : Text} {c d : Char} (hc : c ∈ ['/', '*', '#', '*', '/'])
    (hd : d ∈ ['/', '*', ',', '*', '/']) (h : c ∉ s) (h' : d ∉ s) : Shorthand.expand s = s := by
  have hbehind {c : Char} (h : c ∉ s) {before rest : Text} (he : s = before ++ rest) :
      c ∉ rest := by
    intro hmem
    exact h (by simp [he, hmem])
  have hcomment : Text.substitute commentFunction? s = s :=
    Text.substitute_eq_self fun before rest he => by
      simp [commentFunction?, Text.dropLead?_eq_none hc (hbehind h he)]
  have hsignature : Text.substitute signatureFunction? s = s :=
    Text.substitute_eq_self fun before rest he => by
      simp [signatureFunction?, Text.dropLead?_eq_none hd (hbehind h' he)]
  rw [expand, hcomment, hsignature]

theorem Shorthand.expand_plain {s : Text} (h : IsPlain s) : Shorthand.expand s = s :=
  expand_of_notMem (by simp) (by simp) h.slash h.slash

end BlockWeave
