import BlockWeave.Proofs.Document.Basic
import BlockWeave.Proofs.Value.Merge

/-!
# Laying documents over each other

Which mappings of two documents are one does not matter for the values of the result. So the laws
of layered values hold of documents: laying one over the result once more changes no value, and
the upper document decides on its own paths only.
-/

namespace BlockWeave.Document

/-- Laying a mapping over another one is idempotent and touches only the paths of the upper
mapping. The result, laid under the upper mapping once more, keeps its values with the order of
their keys; an empty mapping and the mapping itself change nothing; a scalar of the upper mapping
is in the result at its path; and on a path that leaves the upper mapping the value below is
kept. -/
theorem overlayEntries_idempotent_local {base upper : Entries}
    (hbase : (Value.map (fields base)).WellKeyed) (hupper : (Value.map (fields upper)).WellKeyed) :
    fields (overlayEntries (overlayEntries base upper) upper) =
      fields (overlayEntries base upper) ∧
    overlayEntries base [] = base ∧
    fields (overlayEntries base base) = fields base ∧
    (∀ path value, (Value.map (fields upper)).lookup path = some value → value.IsScalar →
      (Value.map (fields (overlayEntries base upper))).lookup path = some value) ∧
    ∀ path value, (Value.map (fields upper)).Leaves path →
      (Value.map (fields base)).lookup path = some value →
      (Value.map (fields (overlayEntries base upper))).lookup path = some value := by
  simp only [fields_overlayEntries]
  have hover : Value.map (Value.overlayFields (fields base) (fields upper)) =
      Value.overlay (some (.map (fields base))) (.map (fields upper)) := by
    simp only [Value.overlay]
  have hagain := hupper.overlay_again (some (.map (fields base)))
  have hself := hbase.overlay_self
  simp only [Value.overlay, Value.map.injEq] at hagain hself
  refine ⟨hagain, rfl, hself, ?_, ?_⟩
  · intro path value hvalue hscalar
    rw [hover]
    exact hupper.lookup_overlay hvalue hscalar _
  · intro path value hleaves hvalue
    rw [hover]
    exact hupper.lookup_overlay_of_leaves hleaves hvalue

namespace Layered

def lower : Fields := [
  (.str "build", .map [
    (.str "clean", .bool true),
    (.str "tags", .list [.int 1, .str "a"])]),
  (.str "more", .map [(.str "level", .null)])]

/-- A mapping that appends to a list: the truth value counts as the integer that is there, and an
item that stands twice is appended twice. -/
def upper : Fields := [
  (.str "build", .map [
    (.str "tags", .list [.str "+", .bool true, .str "b", .str "b"]),
    (.str "clean", .int 0)])]

def result : Fields := [
  (.str "build", .map [
    (.str "clean", .int 0),
    (.str "tags", .list [.int 1, .str "a", .str "b", .str "b"])]),
  (.str "more", .map [(.str "level", .null)])]

theorem fields_overlay :
    fields (overlayEntries (ofFields lower) (ofFields upper)) = result := by
  rfl

theorem wellKeyed_lower : (Value.map (fields (ofFields lower))).WellKeyed := by
  rw [fields_ofFields]
  simp [lower, Fields.Distinct]

theorem wellKeyed_upper : (Value.map (fields (ofFields upper))).WellKeyed := by
  rw [fields_ofFields]
  simp [upper, Fields.Distinct]

theorem leaves_upper :
    (Value.map (fields (ofFields upper))).Leaves [.str "more", .str "level"] :=
  ⟨[], .str "more", [.str "level"], upper, rfl, rfl, rfl⟩

end Layered

theorem overlayEntries_idempotent_local_nested :
    (Value.map (fields (ofFields Layered.lower))).WellKeyed ∧
    (Value.map (fields (ofFields Layered.upper))).WellKeyed ∧
    fields (overlayEntries (overlayEntries (ofFields Layered.lower) (ofFields Layered.upper))
      (ofFields Layered.upper)) = Layered.result ∧
    (Value.map Layered.result).lookup [.str "build", .str "clean"] = some (.int 0) ∧
    (Value.map Layered.result).lookup [.str "more", .str "level"] = some .null := by
  obtain ⟨hagain, -, -, hscalar, hleaves⟩ :=
    overlayEntries_idempotent_local Layered.wellKeyed_lower Layered.wellKeyed_upper
  rw [Layered.fields_overlay] at hagain hscalar hleaves
  exact ⟨Layered.wellKeyed_lower, Layered.wellKeyed_upper, hagain, hscalar _ _ rfl trivial,
    hleaves _ _ Layered.leaves_upper rfl⟩

end BlockWeave.Document
