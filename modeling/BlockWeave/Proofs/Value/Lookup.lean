import BlockWeave.Proofs.Value.Keys

/-!
# Looking up along keys

A path of keys leads through mappings to a value, or leaves the value at a key that is not
there. A mapping in which one key is set differs from the old one only on the paths through this
key.
-/

namespace BlockWeave

namespace Fields

variable {β : Type} {fields : Fields β} {key : Key} {value : β}

theorem get?_of_mem (h : fields.Distinct) (hmem : (key, value) ∈ fields) :
    fields.get? key = some value := by
  induction fields with
  | nil => cases hmem
  | cons field fields ih =>
      obtain ⟨hfirst, hfields⟩ := List.pairwise_cons.1 h
      rcases List.mem_cons.1 hmem with rfl | hmem
      · simp [get?]
      · have hne : field.1.code ≠ key.code := hfirst _ hmem
        simp only [get?, Key.same_iff, if_neg hne, ih hfields hmem]

/-- A key that is set to the value it has changes nothing. -/
theorem put_of_get? (h : fields.get? key = some value) : fields.put key value = fields := by
  induction fields with
  | nil => cases h
  | cons field fields ih =>
      by_cases hsame : field.1.code = key.code
      · simp only [get?, Key.same_iff.2 hsame, if_true, Option.some.injEq] at h
        simp [put, hsame, ← h]
      · simp only [get?, Key.same_iff, if_neg hsame] at h
        simp [put, hsame, ih h]

end Fields

namespace Value

/-- The value that a path of keys leads to, through mappings. -/
def lookup : Value → List Key → Option Value
  | value, [] => some value
  | .map fields, key :: keys => (Fields.get? fields key).bind fun value => lookup value keys
  | _, _ :: _ => none

section Lookup

variable {fields : Fields} {key : Key} {keys : List Key} {value found : Value}

@[simp] theorem lookup_nil : value.lookup [] = some value := by
  cases value <;> rfl

@[simp] theorem lookup_map_cons : (Value.map fields).lookup (key :: keys) =
    (fields.get? key).bind fun value => value.lookup keys := rfl

/-- A path that goes on from a value goes through a mapping. -/
theorem exists_of_lookup_cons (h : value.lookup (key :: keys) = some found) :
    ∃ (fields : Fields) (next : Value), value = .map fields ∧ fields.get? key = some next ∧
      next.lookup keys = some found := by
  cases value with
  | map fields =>
      obtain ⟨next, hnext, hfound⟩ := Option.bind_eq_some_iff.1 h
      exact ⟨fields, next, rfl, hnext, hfound⟩
  | _ => cases h

end Lookup

end Value
end BlockWeave
