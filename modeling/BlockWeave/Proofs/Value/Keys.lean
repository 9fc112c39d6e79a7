import BlockWeave.Value.Basic
import Mathlib.Data.List.Pairwise

/-!
# The keys of mappings

A mapping is a list of entries, and its operations look for the first entry with a key. In
a mapping as the operations make them no key stands twice, so that each entry is the one that
is found.
-/

namespace BlockWeave

namespace Key

@[simp] theorem code_str (name : String) : (Key.str name).code = .str name := rfl

/-- A text names the entry of this text and no other. -/
@[simp] theorem code_eq_str {key : Key} {name : String} :
    key.code = .str name ↔ key = .str name := by
  cases key with
  | float x =>
      simp only [code]
      split <;> simp
  | _ => simp [code]

end Key

namespace Fields

variable {β : Type} {fields : Fields β} {key : Key} {value : β}

/-- No two entries have keys that name the same entry. -/
def Distinct (fields : Fields β) : Prop :=
  fields.Pairwise fun a b => a.1.code ≠ b.1.code

theorem mem_of_get? (h : fields.get? key = some value) :
    ∃ name, name.code = key.code ∧ (name, value) ∈ fields := by
  induction fields with
  | nil => cases h
  | cons field fields ih =>
      by_cases hsame : field.1.code = key.code
      · simp only [get?, Key.same_iff.2 hsame, if_true, Option.some.injEq] at h
        exact ⟨field.1, hsame, by simp [← h]⟩
      · simp only [get?, Key.same_iff, if_neg hsame] at h
        obtain ⟨name, hname, hmem⟩ := ih h
        exact ⟨name, hname, List.mem_cons_of_mem _ hmem⟩

theorem get?_eq_none_iff : fields.get? key = none ↔ ∀ field ∈ fields, field.1.code ≠ key.code := by
  induction fields with
  | nil => simp [get?]
  | cons field fields ih =>
      by_cases hsame : field.1.code = key.code
      · simp [get?, hsame]
      · simp [get?, hsame, ih]

theorem get?_congr {other : Key} (h : key.code = other.code) (fields : Fields β) :
    fields.get? key = fields.get? other := by
  induction fields with
  | nil => rfl
  | cons field fields ih => simp [get?, Key.same, h, ih]

theorem put_of_get?_eq_none (h : fields.get? key = none) (value : β) :
    fields.put key value = fields ++ [(key, value)] := by
  induction fields with
  | nil => rfl
  | cons field fields ih =>
      have hne := get?_eq_none_iff.1 h
      have htail : Fields.get? fields key = none :=
        get?_eq_none_iff.2 fun other hother => hne other (List.mem_cons_of_mem _ hother)
      simp [put, hne field List.mem_cons_self, ih htail]

/-- An entry that is there is set at its place. -/
theorem exists_split (h : fields.get? key = some value) :
    ∃ before name behind, fields = before ++ (name, value) :: behind ∧
      ∀ other, fields.put key other = before ++ (name, other) :: behind := by
  induction fields with
  | nil => cases h
  | cons field fields ih =>
      obtain ⟨name, old⟩ := field
      by_cases hsame : name.code = key.code
      · simp only [get?, Key.same_iff.2 hsame, if_true, Option.some.injEq] at h
        subst h
        exact ⟨[], name, fields, rfl, fun other => by simp [put, hsame]⟩
      · simp only [get?, Key.same_iff, if_neg hsame] at h
        obtain ⟨before, found, behind, rfl, hput⟩ := ih h
        exact ⟨(name, old) :: before, found, behind, rfl, fun other => by simp [put, hsame, hput]⟩

/-- An entry that is set has a key and a value of the mapping, or the new ones. -/
theorem mem_put {field : Key × β} (h : field ∈ fields.put key value) :
    (∃ old ∈ fields, field.1 = old.1 ∧ (field.2 = old.2 ∨ field.2 = value)) ∨
      field = (key, value) := by
  induction fields with
  | nil => exact Or.inr (List.mem_singleton.1 h)
  | cons first fields ih =>
      by_cases hsame : first.1.code = key.code
      · simp only [put, Key.same_iff.2 hsame, if_true, List.mem_cons] at h
        rcases h with rfl | h
        · exact Or.inl ⟨first, List.mem_cons_self, rfl, Or.inr rfl⟩
        · exact Or.inl ⟨field, List.mem_cons_of_mem _ h, rfl, Or.inl rfl⟩
      · simp only [put, Key.same_iff, if_neg hsame, List.mem_cons] at h
        rcases h with rfl | h
        · exact Or.inl ⟨first, List.mem_cons_self, rfl, Or.inl rfl⟩
        · rcases ih h with ⟨old, hold, hfield⟩ | hnew
          · exact Or.inl ⟨old, List.mem_cons_of_mem _ hold, hfield⟩
          · exact Or.inr hnew

theorem Distinct.put (h : fields.Distinct) (key : Key) (value : β) :
    (fields.put key value).Distinct := by
  induction fields with
  | nil => exact List.pairwise_singleton _ _
  | cons first fields ih =>
      obtain ⟨hfirst, hfields⟩ := List.pairwise_cons.1 h
      by_cases hsame : first.1.code = key.code
      · simp only [Fields.put, Key.same_iff.2 hsame, if_true]
        exact List.pairwise_cons.2 ⟨hfirst, hfields⟩
      · simp only [Fields.put, Key.same_iff, if_neg hsame]
        apply List.pairwise_cons.2
        constructor
        · intro field hfield
          rcases mem_put hfield with ⟨old, hold, hkey, -⟩ | rfl
          · rw [hkey]
            exact hfirst old hold
          · exact hsame
        · exact ih hfields

/-- Entries with distinct keys that are set one after the other stay as they are. -/
theorem ofList_eq_self (h : fields.Distinct) : ofList fields = fields := by
  have hfold (rest : List (Key × β)) (base : Fields β) (hall : Distinct (base ++ rest)) :
      rest.foldl (fun fields entry => put fields entry.1 entry.2) base = base ++ rest := by
    induction rest generalizing base with
    | nil => simp
    | cons entry rest ih =>
        have hnone : base.get? entry.1 = none := by
          apply get?_eq_none_iff.2
          intro field hfield
          exact (List.pairwise_append.1 hall).2.2 field hfield entry List.mem_cons_self
        rw [List.foldl_cons, put_of_get?_eq_none hnone, ih, List.append_assoc]
        · rfl
        · rwa [List.append_assoc]
  exact hfold fields [] h

end Fields

namespace Value

/-- All mappings of a value have distinct keys. -/
inductive WellKeyed : Value → Prop
  | null : WellKeyed .null
  | bool (b : Bool) : WellKeyed (.bool b)
  | int (n : Int) : WellKeyed (.int n)
  | float (x : Double) : WellKeyed (.float x)
  | str (s : String) : WellKeyed (.str s)
  | list {items : List Value} (hitems : ∀ item ∈ items, WellKeyed item) : WellKeyed (.list items)
  | map {fields : Fields} (hkeys : fields.Distinct)
      (hvalues : ∀ field ∈ fields, WellKeyed field.2) : WellKeyed (.map fields)

namespace WellKeyed

variable {fields : Fields} {key : Key} {value part : Value}

attribute [simp] null bool int float str

@[simp] theorem list_iff {items : List Value} :
    (Value.list items).WellKeyed ↔ ∀ item ∈ items, item.WellKeyed := by
  constructor
  · rintro ⟨⟩
    assumption
  · exact .list

@[simp] theorem map_iff :
    (Value.map fields).WellKeyed ↔ fields.Distinct ∧ ∀ field ∈ fields, field.2.WellKeyed := by
  constructor
  · rintro ⟨⟩
    exact ⟨‹_›, ‹_›⟩
  · exact fun h => .map h.1 h.2

theorem keys (h : (Value.map fields).WellKeyed) : fields.Distinct :=
  (map_iff.1 h).1

theorem get? (h : (Value.map fields).WellKeyed) (hvalue : fields.get? key = some value) :
    value.WellKeyed := by
  obtain ⟨name, -, hmem⟩ := Fields.mem_of_get? hvalue
  exact (map_iff.1 h).2 _ hmem

theorem field? (h : value.WellKeyed) {name : String} (hpart : value.field? name = some part) :
    part.WellKeyed := by
  cases value with
  | map fields => exact h.get? hpart
  | _ => cases hpart

theorem put (h : (Value.map fields).WellKeyed) (key : Key) (hvalue : value.WellKeyed) :
    (Value.map (fields.put key value)).WellKeyed := by
  apply WellKeyed.map (h.keys.put key value)
  intro field hfield
  rcases Fields.mem_put hfield with ⟨old, hold, -, hsame | hsame⟩ | rfl
  · rw [hsame]
    exact (map_iff.1 h).2 old hold
  · rw [hsame]
    exact hvalue
  · exact hvalue

end WellKeyed

end Value
end BlockWeave
