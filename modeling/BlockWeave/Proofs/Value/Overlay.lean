import BlockWeave.Document
import BlockWeave.Proofs.Value.Keys

/-!
# Layers of values

The values of documents that are laid over each other depend on their values alone. Here is the
layering of values, which knows nothing of mappings that stand at several places. Mappings keep to
distinct keys, and what is at a key of two layers is the upper one's value over the lower one's.
-/

namespace BlockWeave

namespace Value

/-- A list laid over another one. -/
def overlayItems (base : List Value) : List Value → List Value
  | [] => []
  | first :: rest =>
      if first.equal appendMark then base ++ rest.filter fun item => !holds base item
      else first :: rest

mutual

/-- A value laid over the value below it, if there is one. -/
def overlay (base : Option Value) : Value → Value
  | .map fields =>
      match base with
      | some (.map below) => .map (overlayFields below fields)
      | _ => .map fields
  | .list items =>
      match base with
      | some (.list below) => .list (overlayItems below items)
      | _ => .list items
  | value => value

/-- The entries of a mapping laid over those of another one. -/
def overlayFields (base : Fields) : List (Key × Value) → Fields
  | [] => base
  | (key, value) :: fields =>
      overlayFields (Fields.put base key (overlay (Fields.get? base key) value)) fields

end

/-- A list that is laid over another one has items of the two only. -/
theorem mem_overlayItems {below items : List Value} {item : Value}
    (h : item ∈ overlayItems below items) : item ∈ below ∨ item ∈ items := by
  cases items with
  | nil => exact Or.inr h
  | cons first rest =>
      rw [overlayItems] at h
      split at h
      · rcases List.mem_append.1 h with h | h
        · exact Or.inl h
        · exact Or.inr (List.mem_cons_of_mem _ (List.mem_filter.1 h).1)
      · exact Or.inr h

mutual

theorem WellKeyed.overlay {base : Option Value} {value : Value}
    (hbase : ∀ below ∈ base, below.WellKeyed) (h : value.WellKeyed) :
    (Value.overlay base value).WellKeyed := by
  match value with
  | .map fields =>
      simp only [Value.overlay]
      split
      next below => exact (hbase _ rfl).overlayFields (map_iff.1 h).2
      next => exact h
  | .list items =>
      simp only [Value.overlay]
      split
      next below =>
        apply WellKeyed.list
        intro item hitem
        rcases mem_overlayItems hitem with hitem | hitem
        · exact list_iff.1 (hbase _ rfl) item hitem
        · exact list_iff.1 h item hitem
      next => exact h
  | .null | .bool _ | .int _ | .float _ | .str _ =>
      rw [Value.overlay]
      · exact h
      all_goals simp

theorem WellKeyed.overlayFields {base upper : Fields} (hbase : (Value.map base).WellKeyed)
    (h : ∀ field ∈ upper, field.2.WellKeyed) :
    (Value.map (Value.overlayFields base upper)).WellKeyed := by
  match upper with
  | [] => exact hbase
  | (key, value) :: rest =>
      rw [Value.overlayFields]
      have hvalue : (Value.overlay (base.get? key) value).WellKeyed :=
        WellKeyed.overlay (fun below hbelow => hbase.get? hbelow) (h _ List.mem_cons_self)
      apply WellKeyed.overlayFields (hbase.put key hvalue)
      exact fun field hfield => h field (List.mem_cons_of_mem _ hfield)

end

/-- A layer that is laid over another one. -/
theorem WellKeyed.overlay_layer {base layer : Fields} (hbase : (Value.map base).WellKeyed)
    (hlayer : (Value.map layer).WellKeyed) :
    (Value.map (Value.overlayFields base layer)).WellKeyed :=
  hbase.overlayFields (map_iff.1 hlayer).2

/-- The value at a key of two layers: the upper one's value over the lower one's. -/
theorem get?_overlayFields {upper : Fields} (h : upper.Distinct) (base : Fields) (key : Key) :
    (overlayFields base upper).get? key =
      match upper.get? key with
      | some value => some (overlay (base.get? key) value)
      | none => base.get? key := by
  induction upper generalizing base with
  | nil => rfl
  | cons first rest ih =>
      obtain ⟨name, value⟩ := first
      obtain ⟨hfirst, hrest⟩ := List.pairwise_cons.1 h
      rw [overlayFields, ih hrest, Fields.get?_put, Fields.get?]
      by_cases hsame : name.code = key.code
      · have hnone : Fields.get? rest key = none := by
          apply Fields.get?_eq_none_iff.2
          intro field hfield
          rw [← hsame]
          exact (hfirst field hfield).symm
        simp [hnone, hsame, Fields.get?_congr hsame]
      · simp [hsame]

end Value
end BlockWeave
