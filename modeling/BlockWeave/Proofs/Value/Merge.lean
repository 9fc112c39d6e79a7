import BlockWeave.Proofs.Value.Lookup
import BlockWeave.Proofs.Value.Overlay

/-!
# Laying mappings over each other

A mapping that is laid over another one decides the values on its own paths and leaves the
other paths as they were, and laying it over the result once more changes nothing. A list with
the mark is appended only once, since its items are in the result then: every value with
distinct keys is equal to itself.
-/

namespace BlockWeave.Value

section Equality

theorem equalItems_refl {items : List Value} (h : ∀ item ∈ items, item.equal item = true) :
    equalItems items items = true := by
  induction items with
  | nil => rfl
  | cons item items ih =>
      obtain ⟨hitem, hitems⟩ := List.forall_mem_cons.1 h
      rw [equalItems, hitem, ih hitems]
      rfl

theorem equalFields_of_get? {xs ys : Fields}
    (h : ∀ field ∈ xs, ys.get? field.1 = some field.2 ∧ field.2.equal field.2 = true) :
    equalFields xs ys = true := by
  induction xs with
  | nil => rfl
  | cons field xs ih =>
      obtain ⟨⟨hget, hequal⟩, hxs⟩ := List.forall_mem_cons.1 h
      simp only [equalFields, hget, hequal, ih hxs, Bool.and_self]

/-- A value whose mappings have distinct keys is equal to itself. -/
theorem WellKeyed.equal_self {value : Value} (h : value.WellKeyed) : value.equal value = true := by
  induction h with
  | null => rfl
  | bool b => simp [equal, number?]
  | int n => simp [equal, number?]
  | float x => simp [equal, number?]
  | str s => simp [equal]
  | list hitems ih =>
      rw [equal]
      exact equalItems_refl ih
  | @map fields hkeys hvalues ih =>
      have hfields : ∀ field ∈ fields,
          fields.get? field.1 = some field.2 ∧ field.2.equal field.2 = true :=
        fun field hfield => ⟨Fields.get?_of_mem hkeys hfield, ih field hfield⟩
      simp only [equal, beq_self_eq_true, Bool.true_and]
      exact equalFields_of_get? hfields

end Equality

section Again

theorem holds_of_mem {items : List Value} {item : Value} (hmem : item ∈ items)
    (h : item.WellKeyed) : holds items item = true :=
  List.any_eq_true.2 ⟨item, hmem, h.equal_self⟩

theorem holds_append (items more : List Value) (item : Value) :
    holds (items ++ more) item = (holds items item || holds more item) :=
  List.any_append

/-- What is appended to items that have it all is nothing. -/
theorem overlayItems_of_holds {below : List Value} {first : Value} {rest : List Value}
    (hmark : first.equal appendMark = true) (h : ∀ item ∈ rest, holds below item = true) :
    overlayItems below (first :: rest) = below := by
  have hnone : rest.filter (fun item => !holds below item) = [] :=
    List.filter_eq_nil_iff.2 fun item hitem => by simp [h item hitem]
  rw [overlayItems, if_pos hmark, hnone, List.append_nil]

theorem overlayItems_self {items : List Value} (h : ∀ item ∈ items, item.WellKeyed) :
    overlayItems items items = items := by
  cases items with
  | nil => rfl
  | cons first rest =>
      by_cases hmark : first.equal appendMark = true
      · apply overlayItems_of_holds hmark
        intro item hitem
        have hmem := List.mem_cons_of_mem first hitem
        exact holds_of_mem hmem (h item hmem)
      · rw [overlayItems, if_neg hmark]

theorem overlayItems_again {items : List Value} (h : ∀ item ∈ items, item.WellKeyed)
    (below : List Value) :
    overlayItems (overlayItems below items) items = overlayItems below items := by
  cases items with
  | nil => rfl
  | cons first rest =>
      by_cases hmark : first.equal appendMark = true
      · apply overlayItems_of_holds hmark
        intro item hitem
        rw [overlayItems, if_pos hmark, holds_append, Bool.or_eq_true]
        -- An item that was not there has been appended.
        by_cases hheld : holds below item = true
        · exact Or.inl hheld
        · right
          apply holds_of_mem _ (h item (List.mem_cons_of_mem _ hitem))
          exact List.mem_filter.2 ⟨hitem, by simpa using hheld⟩
      · simp only [overlayItems, if_neg hmark]

/-- Entries that are all there already change nothing. -/
theorem overlayFields_of_get? {base upper : Fields}
    (h : ∀ field ∈ upper, ∃ value, base.get? field.1 = some value ∧
      overlay (some value) field.2 = value) :
    overlayFields base upper = base := by
  induction upper with
  | nil => rfl
  | cons field upper ih =>
      obtain ⟨⟨value, hget, hvalue⟩, hupper⟩ := List.forall_mem_cons.1 h
      rw [overlayFields, hget, hvalue, Fields.put_of_get? hget, ih hupper]

theorem overlay_none (value : Value) : overlay none value = value := by
  cases value <;> simp [overlay]

/-- A value that is laid over the result once more changes nothing. -/
theorem WellKeyed.overlay_again {value : Value} (h : value.WellKeyed) (base : Option Value) :
    Value.overlay (some (Value.overlay base value)) value = Value.overlay base value := by
  induction h generalizing base with
  | null | bool | int | float | str => simp [Value.overlay]
  | @list items hitems ih =>
      have hself := overlayItems_self hitems
      have hagain (below : List Value) := overlayItems_again hitems below
      cases base with
      | none => simp [Value.overlay, hself]
      | some base => cases base <;> simp [Value.overlay, hself, hagain]
  | @map fields hkeys hvalues ih =>
      have hself : Value.overlayFields fields fields = fields := by
        apply overlayFields_of_get?
        intro field hfield
        have hfixed := ih field hfield none
        rw [overlay_none] at hfixed
        exact ⟨field.2, Fields.get?_of_mem hkeys hfield, hfixed⟩
      have hagain (below : Fields) : Value.overlayFields (Value.overlayFields below fields) fields =
          Value.overlayFields below fields := by
        apply overlayFields_of_get?
        intro field hfield
        refine ⟨Value.overlay (below.get? field.1) field.2, ?_, ih field hfield _⟩
        rw [get?_overlayFields hkeys, Fields.get?_of_mem hkeys hfield]
      cases base with
      | none => simp [Value.overlay, hself]
      | some base => cases base <;> simp [Value.overlay, hself, hagain]

/-- A value that is laid over itself stays as it is. -/
theorem WellKeyed.overlay_self {value : Value} (h : value.WellKeyed) :
    Value.overlay (some value) value = value := by
  have hagain := h.overlay_again none
  rwa [overlay_none] at hagain

end Again

section Paths

/-- A value that is neither a list nor a mapping. -/
def IsScalar : Value → Prop
  | .list _ | .map _ => False
  | _ => True

/-- A path goes through the mappings of a value up to a key that is not there. -/
def Leaves (value : Value) (path : List Key) : Prop :=
  ∃ (front : List Key) (key : Key) (back : List Key) (fields : Fields),
    path = front ++ key :: back ∧ value.lookup front = some (.map fields) ∧ fields.get? key = none

variable {value base found : Value} {path : List Key}

theorem IsScalar.overlay_eq (h : value.IsScalar) (base : Option Value) :
    Value.overlay base value = value := by
  cases value with
  | list | map => cases h
  | _ => simp [Value.overlay]

/-- A scalar stands over whatever is below it. -/
theorem WellKeyed.lookup_overlay (h : value.WellKeyed) (hfound : value.lookup path = some found)
    (hscalar : found.IsScalar) (base : Option Value) :
    (Value.overlay base value).lookup path = some found := by
  induction path generalizing value base with
  | nil =>
      obtain rfl : value = found := by simpa using hfound
      rw [hscalar.overlay_eq, lookup_nil]
  | cons key keys ih =>
      obtain ⟨fields, next, rfl, hnext, hrest⟩ := exists_of_lookup_cons hfound
      have hover := ih (h.get? hnext) hrest
      cases base with
      | none => rwa [overlay_none]
      | some base =>
          cases base with
          | map below =>
              simp only [Value.overlay, lookup_map_cons, get?_overlayFields h.keys, hnext,
                Option.bind_some]
              exact hover _
          | _ => simpa only [Value.overlay] using hfound

/-- On a path that leaves the upper value, what is below is kept. -/
theorem WellKeyed.lookup_overlay_of_leaves (h : value.WellKeyed) (hleaves : value.Leaves path)
    (hfound : base.lookup path = some found) :
    (Value.overlay (some base) value).lookup path = some found := by
  obtain ⟨front, key, back, fields, rfl, hfront, hnone⟩ := hleaves
  induction front generalizing value base with
  | nil =>
      obtain rfl : value = .map fields := by simpa using hfront
      obtain ⟨below, next, rfl, hnext, hrest⟩ := exists_of_lookup_cons hfound
      simp only [Value.overlay, List.nil_append, lookup_map_cons, get?_overlayFields h.keys, hnone]
      exact hfound
  | cons first front ih =>
      obtain ⟨upper, next, rfl, hnext, hrest⟩ := exists_of_lookup_cons hfront
      obtain ⟨below, under, rfl, hunder, hbelow⟩ := exists_of_lookup_cons hfound
      simp only [Value.overlay, List.cons_append, lookup_map_cons, get?_overlayFields h.keys, hnext,
        hunder, Option.bind_some]
      exact ih (h.get? hnext) hbelow hrest

end Paths

end BlockWeave.Value
