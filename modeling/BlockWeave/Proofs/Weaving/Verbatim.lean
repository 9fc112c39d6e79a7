import BlockWeave.Proofs.Shorthand
import BlockWeave.Proofs.Weaving.Rebuild
import BlockWeave.Proofs.Weaving.Steps

/-!
# Text that stays as it is

A text that holds nothing to replace is resolved to itself, and the run is left as it was. A
marker for another trigger stays where it stands when the markers of a text are replaced; the
shorthands that are expanded in the result may still reach into it.

## Implementation notes

What is left of a text is followed through its pieces as in the proofs about cutting (`Cut`),
here for a run that ends well. Markers in bodies are reached through the markers around them
(`Nested`).
-/

namespace BlockWeave

open Weaving Discovery

/-- The markers of a text, and those in the bodies of markers for the active trigger. -/
inductive Nested (file : Text) (trigger : Option Text) : Text → Marker → Prop
  | shown {text marker} (hmarker : marker ∈ markers 0 text) : Nested file trigger text marker
  | inside {text outer attributes marker} (houter : outer ∈ markers 0 text)
      (hlive : Live file trigger outer attributes)
      (h : Nested file trigger outer.body marker) : Nested file trigger text marker

/-- A marker that stays: one for another trigger that exports nothing, or one for the active
trigger that is neither a reference nor a `remove`. -/
structure Stays (removed : List Text) (file : Text) (trigger : Option Text) (marker : Marker) :
    Prop where
  tag : marker.tag ∉ removed
  excluded : ∀ attributes, Attributes.parse (Path.parent file) marker.attrText = .ok attributes →
    attributes.excludes trigger = true → attributes.exportTarget = none
  live : ∀ attributes, Live file trigger marker attributes →
    marker.tag ∉ referenceTags ∧ marker.tag ≠ removeTag

section Run

variable {removed : List Text} {file text out : Text} {marker : Marker} {now after : Run}
  {depth : Nat}

/-- What is left of a text, where the handler leaves the run as it is. -/
theorem cut_of_replaceMarkers {handler : Marker → Weave Text} {dropped : Marker → Prop}
    {offset : Int}
    (h : ∀ marker ∈ markers offset text, ∀ out after,
      (handler marker).run now = (.ok out, after) →
        after = now ∧ Cut (dropped marker) out marker.text)
    (hrun : (replaceMarkers handler offset text).run now = (.ok out, after)) :
    after = now ∧ Cut (∃ marker ∈ markers offset text, dropped marker) out text := by
  induction offset, text using scan_induction generalizing out after with
  | nil offset =>
      rw [replaceMarkers_nil] at hrun
      cases hrun
      exact ⟨rfl, Cut.refl (by simp [markers_nil])⟩
  | marker offset marker rest hread ih =>
      rw [markers_marker hread] at h ⊢
      rw [replaceMarkers_marker handler hread] at hrun
      obtain ⟨first, mid, hfirst, hrun⟩ := Weave.run_bind_eq_ok_iff.1 hrun
      obtain ⟨left, last, hleft, hrun⟩ := Weave.run_bind_eq_ok_iff.1 hrun
      cases hrun
      obtain ⟨rfl, hcut⟩ := h marker (by simp) first mid hfirst
      obtain ⟨rfl, hrest⟩ := ih (fun other ho => h other (by simp [ho])) hleft
      exact ⟨rfl, (hcut.append hrest).congr (by simp)⟩
  | char offset c rest hread ih =>
      rw [markers_char hread] at h ⊢
      rw [replaceMarkers_char handler hread] at hrun
      obtain ⟨left, last, hleft, hrun⟩ := Weave.run_bind_eq_ok_iff.1 hrun
      cases hrun
      obtain ⟨rfl, hrest⟩ := ih h hleft
      have hchar : Cut False [c] [c] := Cut.refl not_false
      exact ⟨rfl, (hchar.append hrest).congr (by simp)⟩

theorem infix_of_mem_markers {offset : Int} (h : marker ∈ markers offset text) :
    marker.body <:+: text := by
  obtain ⟨before, rest, hplace, -⟩ := exists_place_of_mem_markers h
  exact ⟨before ++ marker.head, marker.closing ++ rest, by
    simp [hplace, Marker.text, Marker.rebuild]⟩

/-- A text that was resolved was woven, one level below. -/
theorem exists_weaveText
    (h : (resolveText depth file text).run now = (.ok out, after)) :
    ∃ inner, depth = inner + 1 ∧
      (weaveText (resolveText inner) (fetchBlock (resolveRecord (resolveText inner))) inner file
        text).run now = (.ok out, after) := by
  cases depth with
  | zero => cases h
  | succ inner => exact ⟨inner, rfl, h⟩

/-- Text in which all markers stay is resolved to itself. -/
theorem eq_of_stays (hremoved : now.session.options.removeList = .ok removed)
    (hfree : Shorthand.Free text)
    (hstays : ∀ marker, Nested file now.session.options.activeTrigger text marker →
      Stays removed file now.session.options.activeTrigger marker)
    (hrun : (resolveText depth file text).run now = (.ok out, after)) :
    out = text ∧ after = now := by
  induction depth generalizing text out after with
  | zero => cases hrun
  | succ depth ih =>
      obtain ⟨others, woven, hothers, hwoven, rfl⟩ := exists_woven hrun
      obtain rfl := Except.ok.inj (hremoved.symm.trans hothers)
      have hmarkers : ∀ marker ∈ markers 0 text, ∀ out after,
          (emitMarker (resolveText depth) (fetchBlock (resolveRecord (resolveText depth))) depth
            file removed marker).run now = (.ok out, after) →
          after = now ∧ Cut False out marker.text := by
        intro marker hmarker out after hmarkerRun
        have hstay := hstays marker (.shown hmarker)
        cases replaced_of_emitMarker hmarkerRun with
        | removed htag => exact absurd htag hstay.tag
        | excluded _ hparse hexcludes =>
            rw [hstay.excluded _ hparse hexcludes]
            exact ⟨rfl, Cut.refl not_false⟩
        | reference _ hlive hreference => exact absurd hreference (hstay.live _ hlive).1
        | dropped _ hlive hremove => exact absurd hremove (hstay.live _ hlive).2
        | kept _ hlive _ _ hbody =>
            obtain ⟨rfl, rfl⟩ := ih (hfree.of_infix (infix_of_mem_markers hmarker))
              (fun other hother => hstays other (.inside hmarker hlive hother)) hbody
            exact ⟨rfl, Cut.refl not_false⟩
      obtain ⟨rfl, hcut⟩ := cut_of_replaceMarkers hmarkers hwoven
      obtain rfl := hcut.eq_iff.2 (by simp)
      exact ⟨hfree.expand_eq, rfl⟩

/-- Where all markers stay, the search finds no reference. -/
theorem noReferences_of_stays {trigger : Option Text}
    (hstays : ∀ marker, Nested file trigger text marker → Stays removed file trigger marker)
    (hparse : ∀ marker, Nested file trigger text marker →
      ∃ attributes, Attributes.parse (Path.parent file) marker.attrText = .ok attributes) :
    NoReferences file trigger text := by
  -- The induction is on the length of the text: the search goes on in the bodies of markers.
  induction hn : text.length using Nat.strong_induction_on generalizing text with
  | _ n ih =>
      subst hn
      intro found hfound
      rw [findings_eq] at hfound
      obtain ⟨marker, hmarker, hfound⟩ := List.mem_flatMap.1 hfound
      obtain ⟨attributes, hread⟩ := hparse marker (.shown hmarker)
      cases hexcludes : attributes.excludes trigger with
      | true => simp [findingsAt, hread, hexcludes] at hfound
      | false =>
          have hlive : Live file trigger marker attributes := ⟨hread, hexcludes⟩
          rw [findingsAt_live hlive] at hfound
          rcases List.mem_cons.1 hfound with rfl | hinside
          · exact ⟨_, rfl, ((hstays marker (.shown hmarker)).live attributes hlive).1⟩
          · have hquiet : NoReferences file trigger marker.body :=
              ih _ (marker.body_length_lt.trans_le (length_text_le_of_mem_markers hmarker))
                (fun other hother => hstays other (.inside hmarker hlive hother))
                (fun other hother => hparse other (.inside hmarker hlive hother)) rfl
            have hshift := findings_shift file trigger 0 marker.bodyOffset marker.body
            rw [Int.zero_add] at hshift
            rw [hshift] at hinside
            obtain ⟨inner, hinner, rfl⟩ := List.mem_map.1 hinside
            obtain ⟨finding, rfl, htag⟩ := hquiet inner hinner
            exact ⟨_, rfl, htag⟩

/-- Where all markers stay, none is dropped. -/
theorem not_drops_of_stays {trigger : Option Text}
    (hstays : ∀ marker, Nested file trigger text marker → Stays removed file trigger marker) :
    ¬Drops removed file trigger text := by
  intro hdrops
  induction hdrops with
  | removed hmarker htag => exact (hstays _ (.shown hmarker)).tag htag
  | suppressed hmarker hparse hexcludes hexports =>
      rw [(hstays _ (.shown hmarker)).excluded _ hparse hexcludes] at hexports
      cases hexports
  | remove hmarker hlive htag => exact ((hstays _ (.shown hmarker)).live _ hlive).2 htag
  | inside hmarker hlive _ ih =>
      exact ih fun other hother => hstays other (.inside hmarker hlive hother)

/-- A marker stays in the text when all markers are replaced, where its own handler gives it
back at every time. -/
theorem exists_append_of_replaceMarkers {handler : Marker → Weave Text} {options : Options}
    {offset : Int} (hnow : now.session.options = options) (hmarker : marker ∈ markers offset text)
    (h : ∀ mid out after, mid.session.options = options →
      (handler marker).run mid = (.ok out, after) → out = marker.text)
    (hrun : (replaceMarkers handler offset text).run now = (.ok out, after)) :
    ∃ before behind, out = before ++ (marker.text ++ behind) := by
  induction offset, text using scan_induction generalizing now out after with
  | nil offset =>
      rw [markers_nil] at hmarker
      cases hmarker
  | marker offset first rest hread ih =>
      rw [markers_marker hread] at hmarker
      rw [replaceMarkers_marker handler hread] at hrun
      obtain ⟨shown, mid, hshown, hrun⟩ := Weave.run_bind_eq_ok_iff.1 hrun
      obtain ⟨left, last, hleft, hrun⟩ := Weave.run_bind_eq_ok_iff.1 hrun
      cases hrun
      rcases List.mem_cons.1 hmarker with rfl | hmarker
      · rw [h now shown mid hnow hshown]
        exact ⟨[], left, rfl⟩
      · obtain ⟨before, behind, rfl⟩ :=
          ih ((Weave.options_of_run hshown).trans hnow) hmarker hleft
        exact ⟨shown ++ before, behind, (List.append_assoc ..).symm⟩
  | char offset c rest hread ih =>
      rw [markers_char hread] at hmarker
      rw [replaceMarkers_char handler hread] at hrun
      obtain ⟨left, last, hleft, hrun⟩ := Weave.run_bind_eq_ok_iff.1 hrun
      cases hrun
      obtain ⟨before, behind, rfl⟩ := ih hnow hmarker hleft
      exact ⟨c :: before, behind, rfl⟩

/-- Text is passed through. Where no shorthand stands in a text and all its markers stay, at any
depth, the text is resolved to itself and the run is left as it was; and it is resolved, where
the attributes of all these markers can be read. -/
theorem resolveText_passes (hremoved : now.session.options.removeList = .ok removed)
    (hfree : Shorthand.Free text)
    (hstays : ∀ marker, Nested file now.session.options.activeTrigger text marker →
      Stays removed file now.session.options.activeTrigger marker) :
    (∀ out after, (resolveText depth file text).run now = (.ok out, after) →
      out = text ∧ after = now) ∧
    ((∀ marker, Nested file now.session.options.activeTrigger text marker →
        ∃ attributes, Attributes.parse (Path.parent file) marker.attrText = .ok attributes) →
      text.length < depth → (resolveText depth file text).run now = (.ok text, now)) := by
  constructor
  · exact fun out after hrun => eq_of_stays hremoved hfree hstays hrun
  · intro hparse hdepth
    have hdrops := not_drops_of_stays hstays
    obtain ⟨out, hgives, hcut⟩ := resolveText_cut hremoved (noReferences_of_stays hstays hparse)
      (fun part hpart => (hfree.of_infix hpart).expand_eq) (fun h => absurd h hdrops) hdepth
    obtain rfl := hcut.eq_iff.2 hdrops
    exact hgives now rfl

/-- A marker for another trigger that exports nothing stands unchanged between what its
neighbours are replaced by, and stays in the resolved text unless a shorthand reaches into it:
one that stands in the text when all markers have been replaced. -/
theorem resolveText_excluded {attributes : Attributes}
    (hremoved : now.session.options.removeList = .ok removed)
    (hmarker : marker ∈ markers 0 text) (htag : marker.tag ∉ removed)
    (hparse : Attributes.parse (Path.parent file) marker.attrText = .ok attributes)
    (hexcludes : attributes.excludes now.session.options.activeTrigger = true)
    (hexport : attributes.exportTarget = none)
    (hrun : (resolveText depth file text).run now = (.ok out, after)) :
    ∃ inner before behind, depth = inner + 1 ∧
      (replaceMarkers (emitMarker (resolveText inner)
          (fetchBlock (resolveRecord (resolveText inner))) inner file removed) 0 text).run now =
        (.ok (before ++ (marker.text ++ behind)), after) ∧
      out = Shorthand.expand (before ++ (marker.text ++ behind)) ∧
      (Shorthand.Spares before marker.text behind → marker.text <:+: out) := by
  obtain ⟨inner, rfl, hweave⟩ := exists_weaveText hrun
  obtain ⟨others, woven, hothers, hwoven, rfl⟩ := exists_woven hweave
  obtain rfl := Except.ok.inj (hremoved.symm.trans hothers)
  have hstays (mid : Run) (shown : Text) (last : Run)
      (hmid : mid.session.options = now.session.options)
      (hshown : (emitMarker (resolveText inner) (fetchBlock (resolveRecord (resolveText inner)))
        inner file removed marker).run mid = (.ok shown, last)) : shown = marker.text := by
    rw [← hmid] at hexcludes
    cases replaced_of_emitMarker hshown with
    | removed hdrop => exact absurd hdrop htag
    | excluded _ hothers _ =>
        obtain rfl := Except.ok.inj (hparse.symm.trans hothers)
        rw [hexport]
        rfl
    | reference _ hlive | dropped _ hlive | kept _ hlive =>
        obtain rfl := Except.ok.inj (hparse.symm.trans hlive.parse)
        exact absurd hexcludes (by simp [hlive.excludes])
  obtain ⟨before, behind, rfl⟩ := exists_append_of_replaceMarkers rfl hmarker hstays hwoven
  exact ⟨inner, before, behind, rfl, hwoven, rfl, fun hspares => hspares.infix_expand⟩

end Run

namespace Verbatim

def file : Text := ['/', 'a']

/-- A run with nothing in its session and on its disk. -/
def run : Run where
  session := { options := {}, registry := Registry.encodings }
  disk := Disk.empty

def trigger : Option Text := run.session.options.activeTrigger

def removed : List Text := [['d', 'e', 'b', 'u', 'g'], ['t', 'e', 's', 't']]

theorem removeList : run.session.options.removeList = .ok removed := by rfl

/-- A marker for another trigger that has more attributes. -/
def elsewhere (attrText body : Text) : Marker where
  family := .block
  shape := .markerPair
  tag := ['a']
  attrText := " trigger=\"x\"".toList ++ attrText
  openingClose := ['>', '*', '/']
  body := body
  closing := "/*</a>*/".toList
  offset := 0

/-- Its attributes, if the others are these. -/
def attributes (others : Table Text Text) : Attributes where
  items := (Attributes.triggerName, ['x']) :: others
  filePath := none
  exportPath := none

/-- A marker that exports nothing. -/
def silent : Marker := elsewhere [] ['b']

/-- A marker that exports its body to a variant. -/
def exporting : Marker := elsewhere " export=\"#v\"".toList ['b']

/-- A signature function. -/
def signature : Text := "/*,*/function(c)".toList

/-- A marker that is kept around another one. -/
def around : Marker where
  family := .block
  shape := .markerPair
  tag := ['p']
  attrText := []
  openingClose := ['>', '*', '/']
  body := silent.text
  closing := "/*</p>*/".toList
  offset := 0

theorem markers_silent : markers 0 silent.text = [silent] := by with_unfolding_all rfl

theorem markers_exporting : markers 0 exporting.text = [exporting] := by with_unfolding_all rfl

theorem markers_around : markers 0 around.text = [around] := by with_unfolding_all rfl

theorem parse_silent :
    Attributes.parse (Path.parent file) silent.attrText = .ok (attributes []) := by
  with_unfolding_all rfl

theorem parse_exporting : Attributes.parse (Path.parent file) exporting.attrText =
    .ok (attributes [(Attributes.exportName, ['#', 'v'])]) := by
  with_unfolding_all rfl

theorem parse_around : Attributes.parse (Path.parent file) around.attrText =
    .ok { items := [], filePath := none, exportPath := none } := by
  with_unfolding_all rfl

theorem excludes (others : Table Text Text) : (attributes others).excludes trigger = true := rfl

/-- Nothing is found in a marker for another trigger. -/
theorem nested_iff {marker shown : Marker} {others : Table Text Text}
    (hmarkers : markers 0 shown.text = [shown])
    (hparse : Attributes.parse (Path.parent file) shown.attrText = .ok (attributes others)) :
    Nested file trigger shown.text marker ↔ marker = shown := by
  constructor
  · intro h
    cases h with
    | shown hmarker => simpa [hmarkers] using hmarker
    | inside houter hlive =>
        rw [hmarkers, List.mem_singleton] at houter
        subst houter
        obtain rfl := Except.ok.inj (hparse.symm.trans hlive.parse)
        exact absurd hlive.excludes (by simp [excludes])
  · rintro rfl
    exact .shown (by simp [hmarkers])

theorem eq_of_nested_around {marker : Marker} (h : Nested file trigger around.text marker) :
    marker = around ∨ marker = silent := by
  cases h with
  | shown hmarker => exact Or.inl (by simpa [markers_around] using hmarker)
  | inside houter _ h =>
      rw [markers_around, List.mem_singleton] at houter
      subst houter
      exact Or.inr ((nested_iff markers_silent parse_silent).1 h)

theorem stays_silent : Stays removed file trigger silent where
  tag := by decide
  excluded := by
    intro others hparse _
    obtain rfl := Except.ok.inj (parse_silent.symm.trans hparse)
    rfl
  live := by
    intro others hlive
    obtain rfl := Except.ok.inj (parse_silent.symm.trans hlive.parse)
    exact absurd hlive.excludes (by simp [excludes])

theorem stays_around : Stays removed file trigger around where
  tag := by decide
  excluded := by
    intro others hparse _
    obtain rfl := Except.ok.inj (parse_around.symm.trans hparse)
    rfl
  live := fun _ _ => by decide

end Verbatim

section

open Verbatim

/-- A marker for another trigger in one that is kept. -/
theorem resolveText_passes_around :
    (resolveText 1000 file around.text).run run = (.ok around.text, run) := by
  have hfree : Shorthand.Free around.text := Shorthand.free_of_notMem (by decide) (by decide)
  refine (resolveText_passes removeList hfree fun marker hmarker => ?_).2
    (fun marker hmarker => ?_) (by decide)
  · rcases eq_of_nested_around hmarker with rfl | rfl
    · exact stays_around
    · exact stays_silent
  · rcases eq_of_nested_around hmarker with rfl | rfl
    · exact ⟨_, parse_around⟩
    · exact ⟨_, parse_silent⟩

/-- What a marker for another trigger behind a text without markers becomes. -/
theorem replaceMarkers_gives_elsewhere {lead : Text} {marker : Marker}
    {others : Table Text Text} {place : Int}
    (hsegments : segments 0 (lead ++ marker.text) =
      [.literal lead, .marker { marker with offset := place }, .literal []])
    (hkept : marker.tag ∉ removed)
    (hparse : Attributes.parse (Path.parent file) marker.attrText = .ok (attributes others))
    (depth : Nat) :
    (replaceMarkers (emitMarker (resolveText depth)
      (fetchBlock (resolveRecord (resolveText depth))) depth file removed) 0
        (lead ++ marker.text)).Gives {}
      (lead ++ if (attributes others).exportTarget.isSome then [] else marker.text) := by
  have hemit := @emitMarker_gives_excluded {} removed file { marker with offset := place } _
    (resolveText depth) (fetchBlock (resolveRecord (resolveText depth))) depth hkept hparse
    (excludes others)
  have hgives := replaceMarkers_gives hsegments (.cons rfl (.cons hemit (.cons rfl .nil)))
  rw [List.flatten_cons, List.flatten_cons, List.flatten_singleton, List.append_nil] at hgives
  exact hgives

/-- A marker for another trigger that exports is gone, though its tag is none of those that
are replaced or removed. -/
theorem resolveText_exporting :
    Shorthand.Free exporting.text ∧
      (∀ marker, Nested file trigger exporting.text marker → marker.tag ∉ removed ∧
        ((∃ attributes, Attributes.parse (Path.parent file) marker.attrText = .ok attributes ∧
            attributes.excludes trigger = true ∧ attributes.exportTarget = none) ∨
          marker.tag ∉ referenceTags ∧ marker.tag ≠ removeTag)) ∧
      (resolveText 2 file exporting.text).run run = (.ok [], run) ∧ exporting.text ≠ [] := by
  refine ⟨?_, fun marker hmarker => ?_, ?_, exporting.text_ne_nil⟩
  · exact Shorthand.free_of_not_infix (by decide) (by decide)
  · obtain rfl := (nested_iff markers_exporting parse_exporting).1 hmarker
    exact ⟨by decide, Or.inr (by decide)⟩
  · have hsegments : segments 0 exporting.text =
        [.literal [], .marker exporting, .literal []] := by
      with_unfolding_all rfl
    have hexpand : Shorthand.expand [] = [] := by with_unfolding_all rfl
    have hgives := resolveText_gives removeList
      (@replaceMarkers_gives_elsewhere [] exporting _ 0 hsegments (by decide) parse_exporting 1)
    exact (hgives run rfl).trans (congrArg (fun out => (Except.ok out, run)) hexpand)

/-- A marker for another trigger stays behind a shorthand that is expanded. -/
theorem resolveText_excluded_behind :
    ∃ out after, (resolveText 2 file (signature ++ silent.text)).run run = (.ok out, after) ∧
      silent.text <:+: out := by
  have hmarker : { silent with offset := 16 } ∈ markers 0 (signature ++ silent.text) := by
    have hmarkers : markers 0 (signature ++ silent.text) = [{ silent with offset := 16 }] := by
      with_unfolding_all rfl
    simp [hmarkers]
  have hsegments : segments 0 (signature ++ silent.text) =
      [.literal signature, .marker { silent with offset := 16 }, .literal []] := by
    with_unfolding_all rfl
  have hwhole := @replaceMarkers_gives_elsewhere signature silent _ 16 hsegments (by decide)
    parse_silent 1
  have hrun : (resolveText 2 file (signature ++ silent.text)).run run =
      (.ok (Shorthand.expand (signature ++ silent.text)), run) :=
    resolveText_gives removeList hwhole run rfl
  refine ⟨_, _, hrun, ?_⟩
  obtain ⟨inner, before, behind, hdepth, hwoven, -, hstands⟩ :=
    resolveText_excluded removeList hmarker (by decide) parse_silent (excludes []) rfl hrun
  obtain rfl : inner = 1 := by omega
  have htext : before ++ (silent.text ++ behind) = signature ++ silent.text :=
    Except.ok.inj (congrArg Prod.fst (hwoven.symm.trans (hwhole run rfl)))
  -- The marker stands in this text only once.
  have honce : ∀ n < 17, silent.text <+: (signature ++ silent.text).drop n → n = 16 := by decide
  have hlength := congrArg List.length htext
  have hsignature : signature.length = 16 := rfl
  simp only [List.length_append, hsignature] at hlength
  have hbefore := honce before.length (by omega) ⟨behind, by rw [← htext, List.drop_left]⟩
  obtain ⟨rfl, hbehind⟩ := List.append_inj htext hbefore
  obtain rfl : behind = [] := by simpa using hbehind
  have hspares : Shorthand.Spares signature silent.text [] := by with_unfolding_all decide
  exact hstands hspares

/-- A shorthand in a marker for another trigger is expanded. -/
theorem resolveText_excluded_signature :
    markers 0 (elsewhere [] signature).text = [elsewhere [] signature] ∧
      (elsewhere [] signature).tag ∉ removed ∧
      Attributes.parse (Path.parent file) (elsewhere [] signature).attrText =
        .ok (attributes []) ∧
      (attributes []).excludes trigger = true ∧ (attributes []).exportTarget = none ∧
      ∃ out, (resolveText 2 file (elsewhere [] signature).text).run run = (.ok out, run) ∧
        ¬(elsewhere [] signature).text <:+: out := by
  have hsegments : segments 0 (elsewhere [] signature).text =
      [.literal [], .marker (elsewhere [] signature), .literal []] := by
    with_unfolding_all rfl
  have hmarkers : markers 0 (elsewhere [] signature).text = [elsewhere [] signature] := by
    rw [markers, hsegments]
    rfl
  have hgives := resolveText_gives removeList
    (@replaceMarkers_gives_elsewhere [] (elsewhere [] signature) _ 0 hsegments (by decide)
      parse_silent 1)
  refine ⟨hmarkers, by decide, parse_silent, rfl, rfl, _, hgives run rfl, ?_⟩
  with_unfolding_all decide

end

end BlockWeave
