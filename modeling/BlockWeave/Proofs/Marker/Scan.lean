import BlockWeave.Proofs.Marker.Include

/-!
# Scanning position by position

The search for markers jumps from one opening to the next. The plain scanner knows no
openings: it tries every position, one after the other. Both make the same calls and
give the same text, since no marker stands where there is no opening and none is looked
for inside a marker that has been found.

## Implementation notes

Handlers may have effects of any kind, so the two scanners are compared as programs of an
arbitrary lawful monad. Everything else is read off the pieces of a content, by the
induction that takes a content apart as the plain scanner does (`scan_induction`).
-/

namespace BlockWeave

section Plain

variable {m : Type → Type} [Monad m] (handler : Marker → m Text) (base : Int) (content : Text)

/-- The plain scanner from a position on: where a marker stands, the handler is asked and
the marker is passed over; any other character is copied. -/
def scanFrom (position : Nat) : m Text :=
  match _hc : content[position]? with
  | none => return []
  | some c =>
      match markerAt? content position base with
      | some marker => do
          let text ← handler marker
          let rest ← scanFrom (position + marker.text.length)
          return text ++ rest
      | none => do
          let rest ← scanFrom (position + 1)
          return c :: rest
termination_by content.length - position
decreasing_by
  · have hlt := (List.getElem?_eq_some_iff.1 _hc).1
    have hpos := marker.text_length_pos
    omega
  · have hlt := (List.getElem?_eq_some_iff.1 _hc).1
    omega

end Plain

/-- A marker stands at an opening. -/
theorem atOpening_of_readMarker? {offset : Int} {s : Text} {marker : Marker}
    (h : readMarker? offset s = some marker) : atOpening s = true := by
  obtain ⟨rest, rfl⟩ := readMarker?_append h
  have hlead : Text.startsWith marker.family.opening (marker.text ++ rest) = true := by
    have hdrop : Text.dropLead? marker.family.opening (marker.text ++ rest) =
        some (marker.tag ++ marker.attrText ++ marker.openingClose ++ marker.body ++
          marker.closing ++ rest) := by
      rw [Text.dropLead?_eq_some_iff]
      simp [Marker.text, Marker.rebuild, Marker.head, Marker.opening]
    rw [Text.startsWith, hdrop]
    rfl
  rw [atOpening, Bool.or_eq_true]
  cases hfamily : marker.family with
  | html => exact Or.inl (hfamily ▸ hlead)
  | block => exact Or.inr (hfamily ▸ hlead)

theorem readMarker?_nil (offset : Int) : readMarker? offset [] = none := by
  cases h : readMarker? offset [] with
  | none => rfl
  | some marker =>
      have hopening := atOpening_of_readMarker? h
      cases hopening

/-- A marker keeps the offset that it was read with. -/
theorem offset_of_readMarker? {offset : Int} {s : Text} {marker : Marker}
    (h : readMarker? offset s = some marker) : marker.offset = offset := by
  obtain ⟨rule, -, hread⟩ := List.exists_of_findSome?_eq_some h
  exact Rule.offset_of_read? hread

/-- A content is taken apart as the plain scanner does: at its end, behind a marker, or
behind a character at which no marker stands. -/
theorem scan_induction {motive : Int → Text → Prop}
    (nil : ∀ offset, motive offset [])
    (marker : ∀ offset (marker : Marker) rest,
      readMarker? offset (marker.text ++ rest) = some marker →
        motive (offset + marker.text.length) rest → motive offset (marker.text ++ rest))
    (char : ∀ offset c rest, readMarker? offset (c :: rest) = none →
      motive (offset + 1) rest → motive offset (c :: rest))
    (offset : Int) (content : Text) : motive offset content := by
  induction hn : content.length using Nat.strong_induction_on generalizing offset content with
  | _ n ih =>
      subst hn
      cases hread : readMarker? offset content with
      | some found =>
          obtain ⟨rest, rfl⟩ := readMarker?_append hread
          refine marker offset found rest hread (ih rest.length ?_ _ rest rfl)
          have hpos := found.text_length_pos
          rw [List.length_append]
          omega
      | none =>
          cases content with
          | nil => exact nil offset
          | cons c rest => exact char offset c rest hread (ih rest.length (by simp) _ rest rfl)

/-- A marker at the start is a piece of its own. -/
theorem segments_marker {offset : Int} {marker : Marker} {rest : Text}
    (h : readMarker? offset (marker.text ++ rest) = some marker) :
    segments offset (marker.text ++ rest) =
      .literal [] :: .marker marker :: segments (offset + marker.text.length) rest := by
  obtain ⟨c, tail, hcons⟩ := List.exists_cons_of_ne_nil
    (List.append_ne_nil_of_left_ne_nil marker.text_ne_nil rest)
  have hsplit : splitAtOpening (marker.text ++ rest) = ([], marker.text ++ rest) := by
    have hopening := atOpening_of_readMarker? h
    rw [hcons] at hopening ⊢
    rw [splitAtOpening, if_pos hopening]
  have hbehind : (splitAtOpening (marker.text ++ rest)).2 = c :: tail := by rw [hsplit, hcons]
  have hstart : offset + ((splitAtOpening (marker.text ++ rest)).1.length : Int) = offset := by
    simp [hsplit]
  rw [segments_of_some hbehind (by rw [hstart, ← hcons, h]), hstart, ← hcons, List.drop_left,
    hsplit]

/-- A character at which no marker stands goes to a literal: one of its own, or the one
that starts behind it. -/
theorem segments_char {offset : Int} {c : Char} {rest : Text}
    (h : readMarker? offset (c :: rest) = none) :
    segments offset (c :: rest) = .literal [c] :: segments (offset + 1) rest ∨
      ∃ literal tail, segments (offset + 1) rest = .literal literal :: tail ∧
        segments offset (c :: rest) = .literal (c :: literal) :: tail := by
  by_cases hopening : atOpening (c :: rest) = true
  · have hsplit : splitAtOpening (c :: rest) = ([], c :: rest) := by
      rw [splitAtOpening, if_pos hopening]
    have hbehind : (splitAtOpening (c :: rest)).2 = c :: rest := by rw [hsplit]
    have hstart : offset + ((splitAtOpening (c :: rest)).1.length : Int) = offset := by
      simp [hsplit]
    left
    rw [segments_of_none hbehind (by rw [hstart, h]), hstart, hsplit, List.nil_append]
  · have hsplit : splitAtOpening (c :: rest) =
        (c :: (splitAtOpening rest).1, (splitAtOpening rest).2) := by
      rw [splitAtOpening, if_neg hopening]
    have hbehind : (splitAtOpening (c :: rest)).2 = (splitAtOpening rest).2 := by rw [hsplit]
    have hbefore : (splitAtOpening (c :: rest)).1 = c :: (splitAtOpening rest).1 := by rw [hsplit]
    have hstart : offset + ((splitAtOpening (c :: rest)).1.length : Int) =
        offset + 1 + (splitAtOpening rest).1.length := by
      rw [hbefore, List.length_cons]
      omega
    right
    cases hrest : (splitAtOpening rest).2 with
    | nil =>
        refine ⟨_, _, segments_of_nil hrest, ?_⟩
        rw [segments_of_nil (hbehind.trans hrest), hbefore]
    | cons d tail =>
        cases hread : readMarker? (offset + 1 + (splitAtOpening rest).1.length) (d :: tail) with
        | none =>
            refine ⟨_, _, segments_of_none hrest hread, ?_⟩
            rw [segments_of_none (hbehind.trans hrest) (hstart ▸ hread), hstart, hbefore,
              List.cons_append]
        | some marker =>
            refine ⟨_, _, segments_of_some hrest hread, ?_⟩
            rw [segments_of_some (hbehind.trans hrest) (hstart ▸ hread), hstart, hbefore]

section Replace

variable {m : Type → Type} [Monad m] [LawfulMonad m] (handler : Marker → m Text)

/-- A marker is replaced by what the handler gives for it. -/
theorem replaceMarkers_marker {offset : Int} {marker : Marker} {rest : Text}
    (h : readMarker? offset (marker.text ++ rest) = some marker) :
    replaceMarkers handler offset (marker.text ++ rest) = do
      let text ← handler marker
      let out ← replaceMarkers handler (offset + marker.text.length) rest
      return text ++ out := by
  simp [replaceMarkers, segments_marker h]

/-- A character at which no marker stands stays. -/
theorem replaceMarkers_char {offset : Int} {c : Char} {rest : Text}
    (h : readMarker? offset (c :: rest) = none) :
    replaceMarkers handler offset (c :: rest) = do
      let out ← replaceMarkers handler (offset + 1) rest
      return c :: out := by
  rcases segments_char h with hself | ⟨literal, tail, hrest, hself⟩
  · simp [replaceMarkers, hself]
  · simp [replaceMarkers, hself, hrest]

/-- The search by openings is the plain scanner, from any position on. -/
theorem replaceMarkers_eq_scanFrom (base : Int) (before rest : Text) :
    replaceMarkers handler (base + before.length) rest =
      scanFrom handler base (before ++ rest) before.length := by
  induction hoffset : base + before.length, rest using scan_induction generalizing before with
  | nil offset =>
      rw [scanFrom]
      split
      next => exact replaceMarkers_nil handler offset
      next c hc => simp at hc
  | marker offset marker rest hread ih =>
      have hlt : before.length < (before ++ (marker.text ++ rest)).length := by
        have hpos := marker.text_length_pos
        simp only [List.length_append]
        omega
      have hat : markerAt? (before ++ (marker.text ++ rest)) before.length base = some marker := by
        simpa [markerAt?, hoffset] using hread
      have hnext := ih (before ++ marker.text) (by rw [List.length_append]; omega)
      rw [List.append_assoc, List.length_append] at hnext
      rw [scanFrom, replaceMarkers_marker handler hread, hnext]
      split
      next hnone => rw [List.getElem?_eq_getElem hlt] at hnone; cases hnone
      next c hc => simp only [hat]
  | char offset c rest hread ih =>
      have hat : markerAt? (before ++ c :: rest) before.length base = none := by
        simpa [markerAt?, hoffset] using hread
      have hnext := ih (before ++ [c]) (by rw [List.length_append, List.length_singleton]; omega)
      rw [List.append_assoc, List.singleton_append, List.length_append,
        List.length_singleton] at hnext
      rw [scanFrom, replaceMarkers_char handler hread, hnext]
      split
      next hnone => simp at hnone
      next d hd =>
        obtain rfl : c = d := by simpa using hd
        simp only [hat]

end Replace

section Markers

variable {offset : Int} {content : Text} {marker other : Marker}

theorem markers_marker {rest : Text}
    (h : readMarker? offset (marker.text ++ rest) = some marker) :
    markers offset (marker.text ++ rest) =
      marker :: markers (offset + marker.text.length) rest := by
  simp [markers, segments_marker h, List.filterMap_cons, Segment.marker?]

theorem markers_char {c : Char} {rest : Text} (h : readMarker? offset (c :: rest) = none) :
    markers offset (c :: rest) = markers (offset + 1) rest := by
  rcases segments_char h with hself | ⟨literal, tail, hrest, hself⟩
  · simp [markers, hself, List.filterMap_cons, Segment.marker?]
  · simp [markers, hself, hrest, List.filterMap_cons, Segment.marker?]

/-- A marker of a content stands there at its offset. -/
theorem exists_place_of_mem_markers (h : marker ∈ markers offset content) :
    ∃ before rest, content = before ++ (marker.text ++ rest) ∧
      readMarker? (offset + before.length) (marker.text ++ rest) = some marker := by
  induction offset, content using scan_induction with
  | nil offset => simp [markers_nil] at h
  | marker offset first rest hread ih =>
      rw [markers_marker hread] at h
      rcases List.mem_cons.1 h with rfl | h
      · exact ⟨[], rest, rfl, by simpa using hread⟩
      · obtain ⟨before, tail, rfl, hplace⟩ := ih h
        refine ⟨first.text ++ before, tail, by simp, ?_⟩
        rw [List.length_append, Int.natCast_add, ← Int.add_assoc]
        exact hplace
  | char offset c rest hread ih =>
      rw [markers_char hread] at h
      obtain ⟨before, tail, rfl, hplace⟩ := ih h
      refine ⟨c :: before, tail, rfl, ?_⟩
      rw [List.length_cons, Int.natCast_add, Int.add_comm (before.length : Int), ← Int.add_assoc]
      exact hplace

/-- A marker of a content lies inside it. -/
theorem span_of_mem_markers (h : marker ∈ markers offset content) :
    offset ≤ marker.offset ∧
      marker.offset + marker.text.length ≤ offset + content.length := by
  obtain ⟨before, rest, rfl, hread⟩ := exists_place_of_mem_markers h
  rw [offset_of_readMarker? hread]
  simp only [List.length_append]
  omega

/-- Markers follow each other without overlap. -/
theorem markers_pairwise (offset : Int) (content : Text) :
    (markers offset content).Pairwise fun (marker other : Marker) =>
      marker.offset + marker.text.length ≤ other.offset := by
  induction offset, content using scan_induction with
  | nil offset => simp [markers_nil]
  | marker offset first rest hread ih =>
      rw [markers_marker hread, List.pairwise_cons]
      refine ⟨fun other hother => ?_, ih⟩
      rw [offset_of_readMarker? hread]
      exact (span_of_mem_markers hother).1
  | char offset c rest hread ih =>
      rw [markers_char hread]
      exact ih

/-- No marker stands outside the markers of a content. -/
theorem readMarker?_outside {before rest : Text} (hcontent : content = before ++ rest)
    (houtside : ∀ marker ∈ markers offset content,
      marker.offset ≤ offset + before.length →
        marker.offset + marker.text.length ≤ offset + before.length) :
    readMarker? (offset + before.length) rest = none := by
  induction offset, content using scan_induction generalizing before with
  | nil offset =>
      obtain ⟨rfl, rfl⟩ := List.append_eq_nil_iff.1 hcontent.symm
      exact readMarker?_nil _
  | marker offset first tail hread ih =>
      rw [markers_marker hread, List.forall_mem_cons, offset_of_readMarker? hread] at houtside
      obtain ⟨hfirst, hlater⟩ := houtside
      have hlong : first.text.length ≤ before.length := by omega
      obtain ⟨between, rfl⟩ : first.text <+: before :=
        List.prefix_of_prefix_length_le (hcontent ▸ List.prefix_append _ _)
          (List.prefix_append _ _) hlong
      rw [List.append_assoc, List.append_cancel_left_eq] at hcontent
      have hplace : offset + ((first.text ++ between).length : Int) =
          offset + first.text.length + between.length := by
        rw [List.length_append]
        omega
      rw [hplace] at hlater ⊢
      exact ih hcontent hlater
  | char offset c tail hread ih =>
      rw [markers_char hread] at houtside
      cases before with
      | nil =>
          obtain rfl : c :: tail = rest := hcontent
          simpa using hread
      | cons d before =>
          obtain ⟨rfl, htail⟩ := List.cons.inj hcontent
          have hplace : offset + ((c :: before).length : Int) = offset + 1 + before.length := by
            rw [List.length_cons]
            omega
          rw [hplace] at houtside ⊢
          exact ih htail houtside

end Markers

/-- A first gap, and texts with a gap behind each. -/
def interleave (first : Text) (texts gaps : List Text) : Text :=
  first ++ (List.zipWith (· ++ ·) texts gaps).flatten

/-- What stands between the markers stays as it is, whatever the markers are replaced by. -/
theorem exists_gaps (offset : Int) (content : Text) :
    ∃ first gaps, gaps.length = (markers offset content).length ∧
      interleave first ((markers offset content).map Marker.text) gaps = content ∧
      ∀ {m : Type → Type} [Monad m] [LawfulMonad m] (handler : Marker → m Text),
        replaceMarkers handler offset content = do
          let replies ← (markers offset content).mapM handler
          return interleave first replies gaps := by
  induction offset, content using scan_induction with
  | nil offset =>
      refine ⟨[], [], by simp [markers_nil], by simp [interleave], ?_⟩
      intro m _ _ handler
      simp [markers_nil, replaceMarkers_nil, interleave]
  | marker offset marker rest hread ih =>
      obtain ⟨first, gaps, hlength, htext, hreplace⟩ := ih
      rw [markers_marker hread]
      refine ⟨[], first :: gaps, by simp [hlength], ?_, ?_⟩
      · conv => rhs; rw [← htext]
        simp [interleave]
      · intro m _ _ handler
        rw [replaceMarkers_marker handler hread, hreplace handler]
        simp [interleave]
  | char offset c rest hread ih =>
      obtain ⟨first, gaps, hlength, htext, hreplace⟩ := ih
      rw [markers_char hread]
      refine ⟨c :: first, gaps, hlength, ?_, ?_⟩
      · conv => rhs; rw [← htext]
        simp [interleave]
      · intro m _ _ handler
        rw [replaceMarkers_char handler hread, hreplace handler]
        simp [interleave]

/-- Searching by openings is scanning position by position. For every handler, whatever
its effects, the text and the calls are those of the plain scanner. The handler is asked
for each marker once and in order, and the text between the markers is copied; the markers
are found where they stand, one behind the other, and none stands outside them. Markers
that are replaced by their own text give the content back. -/
theorem replaceMarkers_scans (content : Text) (base : Int) :
    (∀ {m : Type → Type} [Monad m] [LawfulMonad m] (handler : Marker → m Text),
      replaceMarkers handler base content = scanFrom handler base content 0) ∧
    (∃ first gaps, gaps.length = (markers base content).length ∧
      interleave first ((markers base content).map Marker.text) gaps = content ∧
      ∀ {m : Type → Type} [Monad m] [LawfulMonad m] (handler : Marker → m Text),
        replaceMarkers handler base content = do
          let replies ← (markers base content).mapM handler
          return interleave first replies gaps) ∧
    (∀ marker ∈ markers base content, ∃ position : Nat,
      marker.offset = base + position ∧ position + marker.text.length ≤ content.length ∧
        markerAt? content position base = some marker) ∧
    ((markers base content).Pairwise fun (marker other : Marker) =>
      marker.offset < other.offset ∧ marker.offset + marker.text.length ≤ other.offset) ∧
    (∀ position : Nat, (∀ marker ∈ markers base content,
        ¬ (marker.offset ≤ base + position ∧
          base + position < marker.offset + marker.text.length)) →
      markerAt? content position base = none) ∧
    ∀ {m : Type → Type} [Monad m] [LawfulMonad m],
      replaceMarkers (fun marker => (pure marker.text : m Text)) base content = pure content := by
  refine ⟨?_, exists_gaps base content, ?_, ?_, ?_, ?_⟩
  · intro m _ _ handler
    simpa using replaceMarkers_eq_scanFrom handler base [] content
  · intro marker hmarker
    obtain ⟨before, rest, rfl, hread⟩ := exists_place_of_mem_markers hmarker
    refine ⟨before.length, offset_of_readMarker? hread, ?_, ?_⟩
    · simp only [List.length_append]
      omega
    · simpa [markerAt?] using hread
  · refine (markers_pairwise base content).imp ?_
    intro marker other hle
    have hpos := marker.text_length_pos
    exact ⟨by omega, hle⟩
  · intro position houtside
    by_cases hinside : position ≤ content.length
    · have hlength : (content.take position).length = position := List.length_take_of_le hinside
      have hread := @readMarker?_outside base content (content.take position)
        (content.drop position) (List.take_append_drop position content).symm
      rw [hlength] at hread
      refine hread fun marker hmarker hbefore => ?_
      have hnot := houtside marker hmarker
      omega
    · have hdrop : content.drop position = [] := List.drop_eq_nil_of_le (by omega)
      simp [markerAt?, hdrop, readMarker?_nil]
  · intro m _ _
    obtain ⟨first, gaps, -, htext, hreplace⟩ := exists_gaps base content
    rw [hreplace, List.mapM_pure]
    simp [htext]

theorem replaceMarkers_scans_counted :
    (replaceMarkers (fun marker => do
        modify (· ++ [marker.offset])
        return ['R']) 5 "a/*<include/>*/b<!--".toList : StateM (List Int) Text).run [] =
      ("aRb<!--".toList, [6]) := by
  rw [(replaceMarkers_scans _ 5).1]
  show (_ : Text × List Int) = _
  with_unfolding_all rfl

end BlockWeave
