import BlockWeave.Proofs.Value.Overlay

/-!
# The values of documents

Reading a document as a value forgets which of its mappings are one. Entries are found and set,
and documents laid over each other, in a way that depends on the values only.
-/

namespace BlockWeave.Document

section Values

theorem values_eq_map (items : List Document) : values items = items.map value := by
  induction items with
  | nil => rfl
  | cons item items ih => rw [values, ih, List.map_cons]

theorem get?_fields (entries : Entries) (key : Key) :
    (fields entries).get? key = (entries.get? key).map value := by
  induction entries with
  | nil => rfl
  | cons entry entries ih =>
      by_cases hsame : entry.1.code = key.code <;> simp [fields, Fields.get?, hsame, ih]

theorem fields_put (entries : Entries) (key : Key) (part : Document) :
    fields (entries.put key part) = (fields entries).put key part.value := by
  induction entries with
  | nil => rfl
  | cons entry entries ih =>
      by_cases hsame : entry.1.code = key.code <;> simp [fields, Fields.put, hsame, ih]

mutual

@[simp] theorem value_ofValue (v : Value) : (ofValue v).value = v := by
  match v with
  | .null | .bool _ | .int _ | .float _ | .str _ => rfl
  | .list items => rw [ofValue, value, values_ofValues]
  | .map fields => rw [ofValue, value, fields_ofFields]

theorem values_ofValues (items : List Value) : values (ofValues items) = items := by
  match items with
  | [] => rfl
  | item :: items => rw [ofValues, values, value_ofValue item, values_ofValues items]

@[simp] theorem fields_ofFields (entries : List (Key × Value)) :
    fields (ofFields entries) = entries := by
  match entries with
  | [] => rfl
  | (key, part) :: entries => rw [ofFields, fields, value_ofValue part, fields_ofFields entries]

end

mutual

theorem value_renumber (f : Nat → Nat) (part : Document) :
    (renumber f part).value = part.value := by
  match part with
  | scalar key => rfl
  | list items => rw [renumber, value, value, values_renumberItems f items]
  | map origin entries => rw [renumber, value, value, fields_renumberEntries f entries]

theorem values_renumberItems (f : Nat → Nat) (items : List Document) :
    values (renumberItems f items) = values items := by
  match items with
  | [] => rfl
  | item :: items =>
      rw [renumberItems, values, values, value_renumber f item, values_renumberItems f items]

/-- The numbers of mappings do not matter for the values. -/
@[simp] theorem fields_renumberEntries (f : Nat → Nat) (entries : List (Key × Document)) :
    fields (renumberEntries f entries) = fields entries := by
  match entries with
  | [] => rfl
  | (key, part) :: entries =>
      rw [renumberEntries, fields, fields, value_renumber f part, fields_renumberEntries f entries]

end

end Values

section Overlay

theorem values_overlayItems (base items : List Document) :
    values (overlayItems base items) = Value.overlayItems (values base) (values items) := by
  cases items with
  | nil => rfl
  | cons first rest =>
      rw [overlayItems, values, Value.overlayItems]
      split
      · simp only [values_eq_map, List.map_append, List.filter_map]
        rfl
      · rw [values]

theorem overlay_ofKey (base : Option Value) (key : Key) :
    Value.overlay base (.ofKey key) = .ofKey key := by
  cases key <;> simp [Value.ofKey, Value.overlay]

mutual

/-- The value of documents laid over each other is the upper one's value over the lower one's. -/
theorem value_overlay (base : Option Document) (part : Document) :
    (overlay base part).value = Value.overlay (base.map value) part.value := by
  match part with
  | scalar key => rw [overlay, value, overlay_ofKey]
  | list items =>
      rcases base with _ | ⟨key⟩ | below | ⟨origin, below⟩
      · simp [overlay, value, Value.overlay]
      · cases key <;> simp [overlay, value, Value.overlay, Value.ofKey]
      · simp [overlay, value, Value.overlay, values_overlayItems]
      · simp [overlay, value, Value.overlay]
  | map number entries =>
      rcases base with _ | ⟨key⟩ | below | ⟨origin, below⟩
      · simp [overlay, value, Value.overlay]
      · cases key <;> simp [overlay, value, Value.overlay, Value.ofKey]
      · simp [overlay, value, Value.overlay]
      · simp [overlay, value, Value.overlay, fields_overlayEntries below entries]

/-- The values of entries laid over each other are the upper ones' values over the lower ones'. -/
theorem fields_overlayEntries (base : Entries) (entries : List (Key × Document)) :
    fields (overlayEntries base entries) = Value.overlayFields (fields base) (fields entries) := by
  match entries with
  | [] => rfl
  | (key, part) :: entries =>
      rw [overlayEntries, fields, Value.overlayFields, fields_overlayEntries _ entries, fields_put,
        value_overlay _ part, get?_fields]

end

end Overlay

end BlockWeave.Document
