import BlockWeave.Discovery
import BlockWeave.Proofs.Marker.Scan
import Mathlib.Data.List.Basic
import Mathlib.Data.List.Pairwise
import Mathlib.Data.Set.List

/-!
# Markers inside markers

Discovery looks into the body of every marker that is for the active trigger. What it
finds in a text is a forest of markers, told in document order. `Marks` says which markers
belong to this forest and nothing about the search; the search is then shown to tell each
of them once, at the place where it stands in the whole text.
-/

namespace BlockWeave

namespace Marker

/-- The marker as an occurrence of its block. -/
def occurrence (m : Marker) (attributes : Attributes) : Occurrence where
  offset := m.offset
  attributes := attributes
  body := m.body

/-- Position behind the last character in the outermost text. -/
def stop (m : Marker) : Int :=
  m.offset + m.text.length

/-- A marker ends where another one starts, or earlier. -/
def Before (m other : Marker) : Prop :=
  m.stop ≤ other.offset

/-- A marker lies in the body of another one. -/
def Within (m outer : Marker) : Prop :=
  outer.bodyOffset ≤ m.offset ∧ m.stop ≤ outer.bodyOffset + outer.body.length

/-- Two markers have no character in common, or one lies in the body of the other. -/
def Apart (m other : Marker) : Prop :=
  m.Before other ∨ other.Before m ∨ m.Within other ∨ other.Within m

theorem offset_lt_bodyOffset (m : Marker) : m.offset < m.bodyOffset := by
  have hpos := List.length_pos_iff.2 m.family.opening_ne_nil
  simp only [bodyOffset, head, opening, List.length_append]
  omega

theorem body_stop_le (m : Marker) : m.bodyOffset + m.body.length ≤ m.stop := by
  simp only [bodyOffset, stop, text, rebuild, List.length_append]
  omega

theorem offset_lt_stop (m : Marker) : m.offset < m.stop := by
  have hpos := m.text_length_pos
  simp only [stop]
  omega

theorem Before.offset_lt {m other : Marker} (h : m.Before other) : m.offset < other.offset :=
  Int.lt_of_lt_of_le m.offset_lt_stop h

theorem Within.offset_lt {m outer : Marker} (h : m.Within outer) : outer.offset < m.offset :=
  Int.lt_of_lt_of_le outer.offset_lt_bodyOffset h.1

theorem Within.trans_before {m outer other : Marker} (h : m.Within outer)
    (hbefore : outer.Before other) : m.Before other :=
  (h.2.trans outer.body_stop_le).trans hbefore

theorem Before.trans_within {m outer other : Marker} (h : other.Before outer)
    (hwithin : m.Within outer) : other.Before m :=
  h.trans hwithin.offset_lt.le

/-- Markers that are apart start at different places. -/
theorem Apart.offset_ne {m other : Marker} (h : m.Apart other) : m.offset ≠ other.offset := by
  rcases h with h | h | h | h
  · exact h.offset_lt.ne
  · exact h.offset_lt.ne'
  · exact h.offset_lt.ne'
  · exact h.offset_lt.ne

/-- A marker that has been read has a tag. -/
theorem tag_ne_nil_of_readMarker? {offset : Int} {s : Text} {marker : Marker}
    (h : readMarker? offset s = some marker) : marker.tag ≠ [] := by
  obtain ⟨rule, -, hread⟩ := List.exists_of_findSome?_eq_some h
  cases (Rule.reads_of_read? hread).1 with
  | selfClosing => simp [includeTag]
  | markerPair htag => exact htag.1
  | tagPair htag => exact htag.1

end Marker

namespace Discovery

/-- A marker in a file is for the active trigger, and has these attributes. -/
structure Live (file : Text) (trigger : Option Text) (marker : Marker)
    (attributes : Attributes) : Prop where
  parse : Attributes.parse (Path.parent file) marker.attrText = .ok attributes
  excludes : attributes.excludes trigger = false

/-- The forest of a text: the markers that are for the active trigger, and those in the
bodies of such markers, with their attributes. -/
inductive Marks (file : Text) (trigger : Option Text) :
    Int → Text → Marker → Attributes → Prop
  | shown {offset content marker attributes} (hmarker : marker ∈ markers offset content)
      (hlive : Live file trigger marker attributes) :
      Marks file trigger offset content marker attributes
  | inside {offset content outer around marker attributes}
      (houter : outer ∈ markers offset content) (hlive : Live file trigger outer around)
      (h : Marks file trigger outer.bodyOffset outer.body marker attributes) :
      Marks file trigger offset content marker attributes

section Forest

variable {file : Text} {trigger : Option Text} {offset : Int} {content : Text}
  {marker other : Marker} {attributes others : Attributes}

theorem Live.unique (h : Live file trigger marker attributes)
    (h' : Live file trigger marker others) : attributes = others :=
  Except.ok.inj (h.parse.symm.trans h'.parse)

theorem Marks.live (h : Marks file trigger offset content marker attributes) :
    Live file trigger marker attributes := by
  induction h with
  | shown _ hlive => exact hlive
  | inside _ _ _ ih => exact ih

/-- A marker of the forest stands in the text at its offset, at any depth. -/
theorem Marks.exists_place (h : Marks file trigger offset content marker attributes) :
    ∃ before rest, content = before ++ (marker.text ++ rest) ∧
      marker.offset = offset + before.length ∧ marker.tag ≠ [] := by
  induction h with
  | @shown offset content marker attributes hmarker hlive =>
      obtain ⟨before, rest, hcontent, hread⟩ := exists_place_of_mem_markers hmarker
      exact ⟨before, rest, hcontent, offset_of_readMarker? hread,
        Marker.tag_ne_nil_of_readMarker? hread⟩
  | @inside offset content outer around marker attributes houter hlive _ ih =>
      obtain ⟨before, rest, hcontent, hread⟩ := exists_place_of_mem_markers houter
      obtain ⟨lead, tail, hbody, hoffset, htag⟩ := ih
      refine ⟨before ++ (outer.head ++ lead), tail ++ (outer.closing ++ rest), ?_, ?_, htag⟩
      · rw [hcontent, Marker.text, Marker.rebuild, hbody]
        simp only [List.append_assoc]
      · rw [hoffset, Marker.bodyOffset, offset_of_readMarker? hread]
        simp only [List.length_append]
        omega

theorem Marks.offset_le (h : Marks file trigger offset content marker attributes) :
    offset ≤ marker.offset := by
  obtain ⟨before, rest, -, hoffset, -⟩ := h.exists_place
  omega

theorem Marks.stop_le (h : Marks file trigger offset content marker attributes) :
    marker.stop ≤ offset + content.length := by
  obtain ⟨before, rest, hcontent, hoffset, -⟩ := h.exists_place
  rw [Marker.stop, hoffset, hcontent]
  simp only [List.length_append]
  omega

/-- A marker of the forest of a body lies in this body. -/
theorem Marks.within {outer : Marker}
    (h : Marks file trigger outer.bodyOffset outer.body marker attributes) :
    marker.Within outer :=
  ⟨h.offset_le, h.stop_le⟩

/-- Of two markers that a text shows, one ends before the other starts. -/
theorem markers_apart (hmarker : marker ∈ markers offset content)
    (hother : other ∈ markers offset content) :
    marker = other ∨ marker.Before other ∨ other.Before marker := by
  have hsymm : Std.Symm fun m m' : Marker => m.Before m' ∨ m'.Before m := ⟨fun _ _ => Or.symm⟩
  have hpairs := (markers_pairwise offset content).imp
    (S := fun m m' : Marker => m.Before m' ∨ m'.Before m) Or.inl
  by_cases heq : marker = other
  · exact Or.inl heq
  · exact Or.inr (hpairs.forall hmarker hother heq)

/-- Two markers of the forest are the same, or apart. -/
theorem Marks.apart (h : Marks file trigger offset content marker attributes)
    (h' : Marks file trigger offset content other others) :
    (marker = other ∧ attributes = others) ∨ marker.Apart other := by
  -- Both lie under markers that the text shows. Where these differ, what lies under them is
  -- as far apart; where they are one, the two are compared inside it.
  induction h with
  | @shown offset content marker attributes hmarker hlive =>
      cases h' with
      | shown hother hlive' =>
          rcases markers_apart hmarker hother with rfl | hbefore | hbehind
          · exact Or.inl ⟨rfl, hlive.unique hlive'⟩
          · exact Or.inr (Or.inl hbefore)
          · exact Or.inr (Or.inr (Or.inl hbehind))
      | inside houter _ h' =>
          rcases markers_apart hmarker houter with rfl | hbefore | hbehind
          · exact Or.inr (Or.inr (Or.inr (Or.inr h'.within)))
          · exact Or.inr (Or.inl (hbefore.trans_within h'.within))
          · exact Or.inr (Or.inr (Or.inl (h'.within.trans_before hbehind)))
  | @inside offset content outer around marker attributes houter hlive h ih =>
      cases h' with
      | shown hother _ =>
          rcases markers_apart houter hother with rfl | hbefore | hbehind
          · exact Or.inr (Or.inr (Or.inr (Or.inl h.within)))
          · exact Or.inr (Or.inl (h.within.trans_before hbefore))
          · exact Or.inr (Or.inr (Or.inl (hbehind.trans_within h.within)))
      | inside houter' _ h' =>
          rcases markers_apart houter houter' with rfl | hbefore | hbehind
          · exact ih h'
          · exact Or.inr (Or.inl ((h.within.trans_before hbefore).trans_within h'.within))
          · exact Or.inr (Or.inr (Or.inl
              ((h'.within.trans_before hbehind).trans_within h.within)))

/-- A marker of the forest is known by its offset. -/
theorem Marks.eq_of_offset_eq (h : Marks file trigger offset content marker attributes)
    (h' : Marks file trigger offset content other others) (heq : marker.offset = other.offset) :
    marker = other ∧ attributes = others := by
  rcases h.apart h' with hsame | hapart
  · exact hsame
  · exact absurd heq hapart.offset_ne

end Forest

section Search

variable {file : Text} {trigger : Option Text} {offset : Int} {content : Text}

/-- What the search finds at a marker: the marker, and what is in its body. -/
def findingsAt (file : Text) (trigger : Option Text) (marker : Marker) :
    List (Except Error Finding) :=
  match Attributes.parse (Path.parent file) marker.attrText with
  | .error e => [.error e]
  | .ok attributes =>
      if attributes.excludes trigger then []
      else
        .ok ⟨file, marker.tag, marker.occurrence attributes⟩ ::
          findings file trigger marker.bodyOffset marker.body

theorem findings_eq (file : Text) (trigger : Option Text) (offset : Int) (content : Text) :
    findings file trigger offset content =
      (markers offset content).flatMap (findingsAt file trigger) := by
  rw [findings, List.flatMap_subtype fun marker _ => rfl, List.unattach_attach]
  rfl

/-- At a marker for the active trigger, the search finds it and what is in its body. -/
theorem findingsAt_live {marker : Marker} {attributes : Attributes}
    (h : Live file trigger marker attributes) :
    findingsAt file trigger marker =
      .ok ⟨file, marker.tag, marker.occurrence attributes⟩ ::
        findings file trigger marker.bodyOffset marker.body := by
  simp [findingsAt, h.parse, h.excludes]

theorem exists_live_of_mem_findingsAt {marker : Marker} {finding : Finding}
    (h : .ok finding ∈ findingsAt file trigger marker) :
    ∃ attributes, Live file trigger marker attributes := by
  cases hparse : Attributes.parse (Path.parent file) marker.attrText with
  | error e => simp [findingsAt, hparse] at h
  | ok attributes =>
      cases hexcludes : attributes.excludes trigger with
      | true => simp [findingsAt, hparse, hexcludes] at h
      | false => exact ⟨attributes, hparse, hexcludes⟩

/-- What is found in a text are the markers of its forest. -/
theorem mem_findings_iff {finding : Finding} :
    .ok finding ∈ findings file trigger offset content ↔
      ∃ marker attributes, Marks file trigger offset content marker attributes ∧
        finding = ⟨file, marker.tag, marker.occurrence attributes⟩ := by
  constructor
  · intro h
    induction hn : content.length using Nat.strong_induction_on generalizing offset content with
    | _ n ih =>
        subst hn
        rw [findings_eq, List.mem_flatMap] at h
        obtain ⟨outer, houter, hat⟩ := h
        obtain ⟨around, hlive⟩ := exists_live_of_mem_findingsAt hat
        rw [findingsAt_live hlive, List.mem_cons] at hat
        rcases hat with hself | hbody
        · exact ⟨outer, around, .shown houter hlive, Except.ok.inj hself⟩
        · have hshorter : outer.body.length < content.length :=
            Nat.lt_of_lt_of_le outer.body_length_lt (length_text_le_of_mem_markers houter)
          obtain ⟨marker, attributes, hmarks, hfinding⟩ := ih _ hshorter hbody rfl
          exact ⟨marker, attributes, .inside houter hlive hmarks, hfinding⟩
  · rintro ⟨marker, attributes, hmarks, rfl⟩
    induction hmarks with
    | shown hmarker hlive =>
        rw [findings_eq, List.mem_flatMap]
        exact ⟨_, hmarker, by simp [findingsAt_live hlive]⟩
    | inside houter hlive _ ih =>
        rw [findings_eq, List.mem_flatMap]
        exact ⟨_, houter, by simp [findingsAt_live hlive, ih]⟩

/-- Where the search fails, attributes are malformed. -/
theorem exists_parse_of_error_mem {e : Error}
    (h : .error e ∈ findings file trigger offset content) :
    ∃ attrText, Attributes.parse (Path.parent file) attrText = .error e := by
  induction hn : content.length using Nat.strong_induction_on generalizing offset content with
  | _ n ih =>
      subst hn
      rw [findings_eq, List.mem_flatMap] at h
      obtain ⟨marker, hmarker, hat⟩ := h
      cases hparse : Attributes.parse (Path.parent file) marker.attrText with
      | error e' =>
          obtain rfl : e = e' := by simpa [findingsAt, hparse] using hat
          exact ⟨_, hparse⟩
      | ok attributes =>
          simp only [findingsAt, hparse] at hat
          split at hat
          · simp at hat
          · have hshorter : marker.body.length < content.length :=
              Nat.lt_of_lt_of_le marker.body_length_lt (length_text_le_of_mem_markers hmarker)
            exact ih _ hshorter (by simpa using hat) rfl

/-- What is found at a marker starts in its span. -/
theorem span_of_mem_findingsAt {marker : Marker} {finding : Finding}
    (h : .ok finding ∈ findingsAt file trigger marker) :
    marker.offset ≤ finding.occurrence.offset ∧ finding.occurrence.offset < marker.stop := by
  obtain ⟨attributes, hlive⟩ := exists_live_of_mem_findingsAt h
  rw [findingsAt_live hlive, List.mem_cons] at h
  rcases h with hself | hbody
  · obtain rfl := Except.ok.inj hself
    exact ⟨Int.le_refl _, marker.offset_lt_stop⟩
  · obtain ⟨inner, _, hmarks, rfl⟩ := mem_findings_iff.1 hbody
    have hwithin := hmarks.within
    have hstop := inner.offset_lt_stop.trans_le (hwithin.2.trans marker.body_stop_le)
    exact ⟨hwithin.offset_lt.le, hstop⟩

/-- What is found first stands first. -/
def Ascending (found later : Except Error Finding) : Prop :=
  ∀ f g, found = .ok f → later = .ok g → f.occurrence.offset < g.occurrence.offset

/-- The search goes through a text in document order. -/
theorem findings_ascending (file : Text) (trigger : Option Text) (offset : Int) (content : Text) :
    (findings file trigger offset content).Pairwise Ascending := by
  induction hn : content.length using Nat.strong_induction_on generalizing offset content with
  | _ n ih =>
      subst hn
      rw [findings_eq, List.pairwise_flatMap]
      constructor
      · intro marker hmarker
        have hshorter : marker.body.length < content.length :=
          Nat.lt_of_lt_of_le marker.body_length_lt (length_text_le_of_mem_markers hmarker)
        simp only [findingsAt]
        split
        · exact List.pairwise_singleton _ _
        · split
          · exact List.Pairwise.nil
          · refine List.pairwise_cons.2 ⟨?_, ih _ hshorter _ _ rfl⟩
            rintro later hlater f g hf rfl
            obtain ⟨inner, _, hmarks, rfl⟩ := mem_findings_iff.1 hlater
            obtain rfl := Except.ok.inj hf
            exact hmarks.within.offset_lt
      · refine (markers_pairwise offset content).imp ?_
        rintro marker other hbefore found hfound later hlater f g rfl rfl
        have hfirst := (span_of_mem_findingsAt hfound).2
        have hsecond := (span_of_mem_findingsAt hlater).1
        exact (hfirst.trans_le hbefore).trans_le hsecond

/-- A finding as an occurrence of a block, if it is one. -/
def occurrenceIn? (key : BlockKey) : Except Error Finding → Option Occurrence
  | .ok finding => if ⟨finding.file, finding.tag⟩ = key then some finding.occurrence else none
  | .error _ => none

/-- The occurrences of a block among findings. -/
def occurrencesIn (key : BlockKey) (found : List (Except Error Finding)) : List Occurrence :=
  found.filterMap (occurrenceIn? key)

theorem occurrenceIn?_eq_some_iff {key : BlockKey} {found : Except Error Finding}
    {occurrence : Occurrence} :
    occurrenceIn? key found = some occurrence ↔ found = .ok ⟨key.file, key.tag, occurrence⟩ := by
  cases found with
  | error e => simp [occurrenceIn?]
  | ok finding =>
      obtain ⟨file, tag, other⟩ := finding
      obtain ⟨keyFile, keyTag⟩ := key
      simp [occurrenceIn?, and_assoc]

theorem mem_occurrencesIn_iff {tag : Text} {occurrence : Occurrence} :
    occurrence ∈ occurrencesIn ⟨file, tag⟩ (findings file trigger offset content) ↔
      ∃ marker attributes, Marks file trigger offset content marker attributes ∧
        tag = marker.tag ∧ occurrence = marker.occurrence attributes := by
  simp only [occurrencesIn, List.mem_filterMap, occurrenceIn?_eq_some_iff, exists_eq_right,
    mem_findings_iff, Finding.mk.injEq, true_and]

/-- The occurrences of a block in a text ascend. -/
theorem occurrencesIn_ascending (key : BlockKey) (file : Text) (trigger : Option Text)
    (offset : Int) (content : Text) :
    (occurrencesIn key (findings file trigger offset content)).Pairwise fun a b =>
      a.offset < b.offset := by
  refine (findings_ascending file trigger offset content).filterMap _ ?_
  intro found later hascending occurrence hfound other hlater
  exact hascending _ _ (occurrenceIn?_eq_some_iff.1 hfound) (occurrenceIn?_eq_some_iff.1 hlater)

/-- The markers that open a block in a text, each once and in document order. -/
structure Lists (file : Text) (trigger : Option Text) (content tag : Text)
    (found : List (Marker × Attributes)) : Prop where
  mem_iff : ∀ marker attributes, (marker, attributes) ∈ found ↔
    Marks file trigger 0 content marker attributes ∧ marker.tag = tag
  ascending : found.Pairwise fun marker other => marker.1.offset < other.1.offset

/-- The occurrences of a block in a text are the markers that open it. -/
theorem exists_lists (file : Text) (trigger : Option Text) (content tag : Text) :
    ∃ found, Lists file trigger content tag found ∧
      occurrencesIn ⟨file, tag⟩ (findings file trigger 0 content) =
        found.map fun marker => marker.1.occurrence marker.2 := by
  let Opens := { marker : Marker × Attributes //
    Marks file trigger 0 content marker.1 marker.2 ∧ marker.1.tag = tag }
  obtain ⟨opens, hopens⟩ : occurrencesIn ⟨file, tag⟩ (findings file trigger 0 content) ∈
      Set.range (List.map fun marker : Opens => marker.1.1.occurrence marker.1.2) := by
    rw [Set.range_list_map]
    intro occurrence hoccurrence
    obtain ⟨marker, attributes, hmarks, htag, rfl⟩ := mem_occurrencesIn_iff.1 hoccurrence
    exact ⟨⟨(marker, attributes), hmarks, htag.symm⟩, rfl⟩
  refine ⟨opens.map Subtype.val, ⟨?_, ?_⟩, by rw [← hopens, List.map_map]; rfl⟩
  · intro marker attributes
    constructor
    · intro hmem
      obtain ⟨⟨_, hmarks⟩, -, rfl⟩ := List.mem_map.1 hmem
      exact hmarks
    · rintro ⟨hmarks, htag⟩
      have hmem := mem_occurrencesIn_iff.2 ⟨marker, attributes, hmarks, htag.symm, rfl⟩
      rw [← hopens, List.mem_map] at hmem
      obtain ⟨⟨⟨other, others⟩, hother, _⟩, hlisted, hsame⟩ := hmem
      obtain ⟨rfl, rfl⟩ := hother.eq_of_offset_eq hmarks (congrArg Occurrence.offset hsame)
      exact List.mem_map_of_mem hlisted
  · have hascending := occurrencesIn_ascending ⟨file, tag⟩ file trigger 0 content
    rw [← hopens, List.pairwise_map] at hascending
    rw [List.pairwise_map]
    exact hascending

end Search

end Discovery
end BlockWeave
