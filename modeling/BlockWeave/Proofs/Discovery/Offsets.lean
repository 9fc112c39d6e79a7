import BlockWeave.Proofs.Discovery.Closure

/-!
# Offsets in the whole file

Bodies are searched as texts of their own, with an offset that is computed from the parts
of the marker around them. The offsets that are recorded are nevertheless places in the
whole file: what is cut out there is the marker. So they tell markers apart over all tags,
and the occurrences of a block are in order without being sorted.
-/

namespace BlockWeave

/-- Occurrences that ascend stay as they are when they are put in order. -/
theorem Record.ordered_of_ascending {record : Record}
    (h : record.occurrences.Pairwise fun a b => a.offset < b.offset) :
    record.ordered = record.occurrences := by
  refine List.mergeSort_of_pairwise (h.imp ?_)
  intro a b hlt
  exact decide_eq_true hlt.le

/-- A block is found by resolving its occurrences one after the other and putting each on
lines of its own. -/
theorem Weaving.evaluate_of_ascending (resolve : Weaving.Resolver) {record : Record}
    (hfile : record.isFile = false)
    (h : record.occurrences.Pairwise fun a b => a.offset < b.offset) :
    Weaving.evaluate resolve record = do
      let bodies ← record.occurrences.mapM
        (Weaving.resolveOccurrence resolve record.key.file)
      return .text (Text.join ['\n'] bodies) := by
  simp [Weaving.evaluate, hfile, Record.ordered_of_ascending h]

namespace Discovery

/-- An occurrence has been recorded for a block. -/
def Recorded (session : Session) (key : BlockKey) (occurrence : Occurrence) : Prop :=
  ∃ record, session.record? key = some record ∧ occurrence ∈ record.occurrences

/-- An occurrence of a block was found at a marker of a text, and both stand where the
occurrence says. -/
structure FoundAt (file : Text) (trigger : Option Text) (source tag : Text)
    (occurrence : Occurrence) (marker : Marker) : Prop where
  marks : Marks file trigger 0 source marker occurrence.attributes
  tag_eq : marker.tag = tag
  offset_eq : marker.offset = occurrence.offset
  body_eq : marker.body = occurrence.body
  place : ∃ position : Nat, occurrence.offset = position ∧
    (source.drop position).take marker.text.length = marker.text ∧
    marker.family.opening ++ tag <+: source.drop position ∧
    (source.drop position).take marker.head.length = marker.head ∧
    (source.drop (position + marker.head.length)).take occurrence.body.length = occurrence.body

section Place

variable {file : Text} {trigger : Option Text} {source : Text} {marker : Marker}
  {attributes : Attributes}

/-- What is cut out of a text at the offset of a marker of its forest is the marker. -/
theorem Marks.foundAt (h : Marks file trigger 0 source marker attributes) :
    FoundAt file trigger source marker.tag (marker.occurrence attributes) marker := by
  obtain ⟨before, rest, hsource, hoffset, -⟩ := h.exists_place
  have hdrop : source.drop before.length = marker.text ++ rest := by
    rw [hsource, List.drop_left]
  have hhead : marker.text ++ rest = marker.head ++ (marker.body ++ (marker.closing ++ rest)) := by
    simp [Marker.text, Marker.rebuild]
  refine ⟨h, rfl, rfl, rfl, before.length, ?_, ?_, ?_, ?_, ?_⟩
  · simpa [Marker.occurrence] using hoffset
  · rw [hdrop, List.take_left]
  · rw [hdrop, hhead, Marker.head, Marker.opening]
    exact ⟨marker.attrText ++ marker.openingClose ++ (marker.body ++ (marker.closing ++ rest)),
      by simp only [List.append_assoc]⟩
  · rw [hdrop, hhead, List.take_left]
  · rw [← List.drop_drop, hdrop, hhead, List.drop_left]
    exact List.take_left

/-- Different occurrences were found at markers that are apart. -/
theorem FoundAt.apart {tag other : Text} {occurrence another : Occurrence} {marker' : Marker}
    (h : FoundAt file trigger source tag occurrence marker)
    (h' : FoundAt file trigger source other another marker')
    (hne : (tag, occurrence) ≠ (other, another)) : marker.Apart marker' := by
  rcases h.marks.apart h'.marks with ⟨rfl, hattributes⟩ | hapart
  · have htag : tag = other := h.tag_eq.symm.trans h'.tag_eq
    have hoffset : occurrence.offset = another.offset := h.offset_eq.symm.trans h'.offset_eq
    have hbody : occurrence.body = another.body := h.body_eq.symm.trans h'.body_eq
    obtain ⟨_, _, _⟩ := occurrence
    obtain ⟨_, _, _⟩ := another
    subst htag hoffset hbody hattributes
    exact absurd rfl hne
  · exact hapart

end Place

/-- The records of a file with a source list the markers of the source, the record of the
file itself none. -/
theorem Closure.exists_lists {options : Options} {disk : Disk} {paths : List Text}
    {session : Session} (h : Closure options disk paths session) {file source tag : Text}
    {home record : Record} (hhome : session.record? (.ofFile file) = some home)
    (hsource : home.source = some source)
    (hrecord : session.record? ⟨file, tag⟩ = some record) :
    ∃ found, Lists file options.activeTrigger source tag found ∧
      record.occurrences = found.map fun marker => marker.1.occurrence marker.2 := by
  obtain ⟨taken, hreading, rfl⟩ := h.readings file home hhome
  by_cases htag : tag = []
  · subst htag
    obtain rfl := Option.some.inj (hhome.symm.trans hrecord)
    refine ⟨[], ⟨?_, List.Pairwise.nil⟩, by cases taken <;> rfl⟩
    intro marker attributes
    constructor
    · intro hmem
      cases hmem
    · rintro ⟨hmarks, hempty⟩
      obtain ⟨_, _, _, _, htag⟩ := hmarks.exists_place
      exact absurd hempty htag
  · obtain ⟨text, -, htext⟩ :=
      h.homes file tag htag (Option.isSome_iff_exists.2 ⟨record, hrecord⟩)
    obtain rfl := Except.ok.inj (hreading.symm.trans htext)
    obtain rfl : text = source := Option.some.inj hsource
    obtain ⟨found, hlists, rfl⟩ := h.occurrences file text tag record hreading htag hrecord
    exact ⟨found, hlists, rfl⟩

/-- Loading a file into a session without records makes the closure of the file. -/
theorem closure_of_load {start after : Run} (hrecords : start.session.records = [])
    (hchain : start.session.chain = []) {entry : Text}
    (hload : (load entry).run start = (.ok (), after)) :
    Closure start.session.options start.disk [entry] after.session := by
  rw [load, Weave.run_perform, Action.perform] at hload
  have hvisit := (Walking.start hrecords hchain).visit entry
  rcases hvisit.walk with ⟨other, hwalk, hwalking⟩ | ⟨e, other, hwalk, -⟩
  · rw [hload] at hwalk
    cases hwalk
    exact hwalking.closure
  · rw [hload] at hwalk
    cases hwalk

/-- Recorded offsets are places in the whole file. After a load, every occurrence of a file
with a source was found at a marker that stands in the source where the occurrence says.
Different occurrences start at different places, over all tags, and their markers have no
character in common unless one lies in the body of the other. The occurrences of a block
ascend: they need no sorting, and their bodies are put together in the order of the file. -/
theorem load_offsets {start after : Run} (hrecords : start.session.records = [])
    (hchain : start.session.chain = []) {entry : Text}
    (hload : (load entry).run start = (.ok (), after)) {file source : Text} {home : Record}
    (hhome : after.session.record? (.ofFile file) = some home)
    (hsource : home.source = some source) :
    (∀ tag occurrence, Recorded after.session ⟨file, tag⟩ occurrence →
      ∃ marker, FoundAt file start.session.options.activeTrigger source tag occurrence marker) ∧
    (∀ tag occurrence other another, Recorded after.session ⟨file, tag⟩ occurrence →
      Recorded after.session ⟨file, other⟩ another → (tag, occurrence) ≠ (other, another) →
        occurrence.offset ≠ another.offset ∧
        ∀ marker marker',
          FoundAt file start.session.options.activeTrigger source tag occurrence marker →
          FoundAt file start.session.options.activeTrigger source other another marker' →
            marker.Apart marker') ∧
    ∀ tag record, after.session.record? ⟨file, tag⟩ = some record →
      (record.occurrences.Pairwise fun a b => a.offset < b.offset) ∧
      record.ordered = record.occurrences ∧
      (tag ≠ [] → ∀ resolve, Weaving.evaluate resolve record = do
        let bodies ← record.occurrences.mapM (Weaving.resolveOccurrence resolve file)
        return .text (Text.join ['\n'] bodies)) := by
  have hclosure := closure_of_load hrecords hchain hload
  have hfound {tag : Text} {occurrence : Occurrence}
      (hrecorded : Recorded after.session ⟨file, tag⟩ occurrence) :
      ∃ marker, FoundAt file start.session.options.activeTrigger source tag occurrence marker := by
    obtain ⟨record, hrecord, hmem⟩ := hrecorded
    obtain ⟨found, hlists, hoccurs⟩ := hclosure.exists_lists hhome hsource hrecord
    rw [hoccurs, List.mem_map] at hmem
    obtain ⟨⟨marker, attributes⟩, hmarker, rfl⟩ := hmem
    obtain ⟨hmarks, rfl⟩ := (hlists.mem_iff marker attributes).1 hmarker
    exact ⟨marker, hmarks.foundAt⟩
  refine ⟨fun tag occurrence => hfound, ?_, ?_⟩
  · intro tag occurrence other another hrecorded hrecorded' hne
    constructor
    · obtain ⟨marker, hmarker⟩ := hfound hrecorded
      obtain ⟨marker', hmarker'⟩ := hfound hrecorded'
      rw [← hmarker.offset_eq, ← hmarker'.offset_eq]
      exact (hmarker.apart hmarker' hne).offset_ne
    · intro marker marker' hmarker hmarker'
      exact hmarker.apart hmarker' hne
  · intro tag record hrecord
    obtain ⟨found, hlists, hoccurs⟩ := hclosure.exists_lists hhome hsource hrecord
    have hascending : record.occurrences.Pairwise fun a b => a.offset < b.offset := by
      rw [hoccurs, List.pairwise_map]
      exact hlists.ascending
    refine ⟨hascending, Record.ordered_of_ascending hascending, ?_⟩
    intro htag resolve
    obtain ⟨text, hreached, hreading⟩ :=
      hclosure.homes file tag htag (Option.isSome_iff_exists.2 ⟨record, hrecord⟩)
    obtain ⟨_, -, rfl⟩ := hclosure.occurrences file text tag record hreading htag hrecord
    exact Weaving.evaluate_of_ascending resolve rfl hascending

theorem load_offsets_pair :
    (Pair.markerRecord [0, 23]).ordered = (Pair.markerRecord [0, 23]).occurrences ∧
      ∃ marker, FoundAt Pair.outer (some ['r', 'e', 'l', 'e', 'a', 's', 'e'])
        (Pair.marker ++ Pair.marker) includeTag (Pair.occurrenceAt 23) marker := by
  have hrecord : Pair.loaded.session.record? ⟨Pair.outer, includeTag⟩ =
      some (Pair.markerRecord [0, 23]) := by
    decide
  have hhome : Pair.loaded.session.record? (.ofFile Pair.outer) = some Pair.outerRecord := by
    decide
  obtain ⟨hfound, -, hordered⟩ := load_offsets rfl rfl Pair.load_outer hhome rfl
  have htrigger : (Pair.run [] []).session.options.activeTrigger =
      some ['r', 'e', 'l', 'e', 'a', 's', 'e'] := by
    decide
  rw [htrigger] at hfound
  refine ⟨(hordered includeTag _ hrecord).2.1, hfound _ _ ⟨_, hrecord, ?_⟩⟩
  decide

end Discovery
end BlockWeave
