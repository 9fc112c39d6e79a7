import BlockWeave.Proofs.Discovery.Nesting

/-!
# Texts at other offsets

Where a text stands matters for the offsets of what is found in it, and for nothing else.
-/

namespace BlockWeave

/-- A marker that stands further on. -/
def Marker.shift (marker : Marker) (distance : Int) : Marker :=
  { marker with offset := marker.offset + distance }

section Marker

variable (offset distance : Int)

theorem Rule.readSelfClosing?_shift (family : Family) (s : Text) :
    readSelfClosing? family (offset + distance) s =
      (readSelfClosing? family offset s).map (Marker.shift · distance) := by
  simp only [readSelfClosing?, Option.bind_eq_bind, Option.map_bind, Option.pure_def,
    Function.comp_def, Option.map_some, Marker.shift]

theorem Rule.readTagged?_shift (rule : Rule) (choice : Text × Text) :
    rule.readTagged? (offset + distance) choice =
      (rule.readTagged? offset choice).map (Marker.shift · distance) := by
  simp only [readTagged?, Option.bind_eq_bind, Option.map_bind, Option.pure_def,
    Function.comp_def, Option.map_some, Marker.shift]

theorem Rule.read?_shift (rule : Rule) (s : Text) :
    rule.read? (offset + distance) s = (rule.read? offset s).map (Marker.shift · distance) := by
  have htagged : rule.readTagged? (offset + distance) =
      fun choice => (rule.readTagged? offset choice).map (Marker.shift · distance) :=
    funext (rule.readTagged?_shift offset distance)
  obtain ⟨family, shape⟩ := rule
  cases shape with
  | selfClosing => exact readSelfClosing?_shift offset distance family s
  | markerPair =>
      simp only [read?, htagged, Option.bind_eq_bind, Option.map_bind, Function.comp_def,
        List.map_findSome?]
  | tagPair =>
      simp only [read?, htagged, Option.bind_eq_bind, Option.map_bind, Function.comp_def,
        List.map_findSome?]

theorem readMarker?_shift (s : Text) :
    readMarker? (offset + distance) s =
      (readMarker? offset s).map (Marker.shift · distance) := by
  simp only [readMarker?, Rule.read?_shift, List.map_findSome?, Function.comp_def]

end Marker

/-- The markers of a text that stands further on. -/
theorem markers_shift (offset distance : Int) (content : Text) :
    markers (offset + distance) content =
      (markers offset content).map (Marker.shift · distance) := by
  induction offset, content using scan_induction with
  | nil offset => simp [markers_nil]
  | marker offset marker rest hread ih =>
      have hmoved : readMarker? (offset + distance) ((marker.shift distance).text ++ rest) =
          some (marker.shift distance) := by
        rw [readMarker?_shift]
        exact congrArg (Option.map (Marker.shift · distance)) hread
      have hplace : offset + distance + (marker.shift distance).text.length =
          offset + marker.text.length + distance := by
        rw [show (marker.shift distance).text = marker.text from rfl]
        omega
      rw [markers_marker hread, List.map_cons, ← ih, ← hplace, ← markers_marker hmoved]
      rfl
  | char offset c rest hread ih =>
      have hmoved : readMarker? (offset + distance) (c :: rest) = none := by
        rw [readMarker?_shift, hread]
        rfl
      have hplace : offset + distance + 1 = offset + 1 + distance := by omega
      rw [markers_char hread, markers_char hmoved, hplace, ih]

namespace Discovery

/-- A finding further on. -/
def Finding.shift (finding : Finding) (distance : Int) : Finding :=
  { finding with
    occurrence := { finding.occurrence with offset := finding.occurrence.offset + distance } }

/-- What is found in a text that stands further on. -/
theorem findings_shift (file : Text) (trigger : Option Text) (offset distance : Int)
    (content : Text) :
    findings file trigger (offset + distance) content =
      (findings file trigger offset content).map (Except.map (Finding.shift · distance)) := by
  induction hlength : content.length using Nat.strong_induction_on generalizing offset content with
  | _ length ih =>
      rw [findings_eq, findings_eq, markers_shift, List.flatMap_map, List.map_flatMap]
      refine List.flatMap_congr fun marker hmarker => ?_
      have hbody : marker.body.length < length := by
        rw [← hlength]
        exact marker.body_length_lt.trans_le (length_text_le_of_mem_markers hmarker)
      have hplace : (marker.shift distance).bodyOffset = marker.bodyOffset + distance := by
        simp only [Marker.bodyOffset, Marker.shift, Marker.head, Marker.opening]
        omega
      simp only [findingsAt, hplace,
        show (marker.shift distance).attrText = marker.attrText from rfl,
        show (marker.shift distance).body = marker.body from rfl]
      split
      · rfl
      · split
        · rfl
        · rw [List.map_cons, ih _ hbody _ _ rfl]
          rfl

end Discovery
end BlockWeave
