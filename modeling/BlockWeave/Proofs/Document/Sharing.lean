import BlockWeave.Document
import BlockWeave.Proofs.Value.Keys
import Mathlib.Data.List.Nodup

/-!
# Mappings that stand at several places

The numbers of a document's mappings, one for each place. In a document in which none of them
stands twice no two places share a mapping. Filling the mapping of a number anew changes only the
part of a document where this number stands.
-/

namespace BlockWeave.Document

mutual

/-- The numbers of the mappings of a document, place by place. -/
def origins : Document → List Nat
  | scalar _ => []
  | list items => itemOrigins items
  | map origin entries => origin.toList ++ entryOrigins entries

/-- The numbers of the mappings of items. -/
def itemOrigins : List Document → List Nat
  | [] => []
  | item :: items => origins item ++ itemOrigins items

/-- The numbers of the mappings of entries. -/
def entryOrigins : List (Key × Document) → List Nat
  | [] => []
  | (_, part) :: entries => origins part ++ entryOrigins entries

end

/-- No mapping stands at two places. -/
def Unshared (entries : Entries) : Prop :=
  (entryOrigins entries).Nodup

section Origins

theorem entryOrigins_append (before behind : Entries) :
    entryOrigins (before ++ behind) = entryOrigins before ++ entryOrigins behind := by
  induction before with
  | nil => rfl
  | cons entry before ih =>
      rw [List.cons_append, entryOrigins, entryOrigins, ih, List.append_assoc]

mutual

/-- A value shares nothing. -/
@[simp] theorem origins_ofValue (value : Value) : origins (ofValue value) = [] := by
  match value with
  | .null | .bool _ | .int _ | .float _ | .str _ => rfl
  | .list items => rw [ofValue, origins, itemOrigins_ofValues items]
  | .map fields => rw [ofValue, origins, entryOrigins_ofFields fields]; rfl

theorem itemOrigins_ofValues (items : List Value) : itemOrigins (ofValues items) = [] := by
  match items with
  | [] => rfl
  | item :: items =>
      rw [ofValues, itemOrigins, origins_ofValue item, itemOrigins_ofValues items]
      rfl

@[simp] theorem entryOrigins_ofFields (fields : List (Key × Value)) :
    entryOrigins (ofFields fields) = [] := by
  match fields with
  | [] => rfl
  | (_, part) :: fields =>
      rw [ofFields, entryOrigins, origins_ofValue part, entryOrigins_ofFields fields]; rfl

end

/-- The entries that values are made into share nothing. -/
theorem unshared_ofFields (fields : Fields) : Unshared (ofFields fields) := by
  rw [Unshared, entryOrigins_ofFields]
  exact List.nodup_nil

theorem mem_entryOrigins {entries : Entries} {key : Key} {part : Document} {origin : Nat}
    (h : entries.get? key = some part) (hmem : origin ∈ origins part) :
    origin ∈ entryOrigins entries := by
  obtain ⟨before, name, behind, rfl, -⟩ := Fields.exists_split h
  rw [entryOrigins_append, entryOrigins]
  exact List.mem_append_right _ (List.mem_append_left _ hmem)

/-- A part with fewer mappings in the place of another one. -/
theorem entryOrigins_put_sublist {entries : Entries} {key : Key} {old part : Document}
    (h : entries.get? key = some old) (hpart : (origins part).Sublist (origins old)) :
    (entryOrigins (entries.put key part)).Sublist (entryOrigins entries) := by
  obtain ⟨before, name, behind, rfl, hput⟩ := Fields.exists_split h
  rw [hput, entryOrigins_append, entryOrigins_append, entryOrigins, entryOrigins]
  exact (List.Sublist.refl _).append (hpart.append (List.Sublist.refl _))

/-- A part without mappings that have a number. -/
theorem entryOrigins_put_sublist_of_nil (entries : Entries) (key : Key) {part : Document}
    (hpart : origins part = []) :
    (entryOrigins (entries.put key part)).Sublist (entryOrigins entries) := by
  cases hget : entries.get? key with
  | none =>
      rw [Fields.put_of_get?_eq_none hget, entryOrigins_append, entryOrigins, hpart]
      simp [entryOrigins]
  | some old =>
      apply entryOrigins_put_sublist hget
      rw [hpart]
      exact List.nil_sublist _

end Origins

section Refill

variable {origin : Nat} (content : Entries)

mutual

theorem refill_of_notMem (part : Document) (h : origin ∉ origins part) :
    refill origin content part = part := by
  match part with
  | scalar key => rfl
  | list items => rw [refill, refillItems_of_notMem items h]
  | map number entries =>
      rw [origins, List.mem_append, not_or, Option.mem_toList] at h
      rw [refill, if_neg h.1, refillEntries_of_notMem entries h.2]

theorem refillItems_of_notMem (items : List Document) (h : origin ∉ itemOrigins items) :
    refillItems origin content items = items := by
  match items with
  | [] => rfl
  | item :: items =>
      rw [itemOrigins, List.mem_append, not_or] at h
      rw [refillItems, refill_of_notMem item h.1, refillItems_of_notMem items h.2]

/-- Entries without the mapping of a number stay as they are. -/
theorem refillEntries_of_notMem (entries : List (Key × Document))
    (h : origin ∉ entryOrigins entries) : refillEntries origin content entries = entries := by
  match entries with
  | [] => rfl
  | (key, part) :: entries =>
      rw [entryOrigins, List.mem_append, not_or] at h
      rw [refillEntries, refill_of_notMem part h.1, refillEntries_of_notMem entries h.2]

end

theorem refillEntries_append (origin : Nat) (before behind : Entries) :
    refillEntries origin content (before ++ behind) =
      refillEntries origin content before ++ refillEntries origin content behind := by
  induction before with
  | nil => rfl
  | cons entry before ih =>
      rw [List.cons_append, refillEntries, refillEntries, ih, List.cons_append]

/-- A mapping of unshared entries stands in one part, and is filled anew in this part only. -/
theorem Unshared.refillEntries_eq {entries : Entries} (h : Unshared entries) {key : Key}
    {part : Document} (hpart : entries.get? key = some part) (hmem : origin ∈ origins part) :
    refillEntries origin content entries = entries.put key (refill origin content part) := by
  obtain ⟨before, name, behind, rfl, hput⟩ := Fields.exists_split hpart
  rw [Unshared, entryOrigins_append, entryOrigins] at h
  obtain ⟨-, hrest, hbefore⟩ := List.nodup_append'.1 h
  have hapart : origin ∉ entryOrigins before :=
    fun hcontra => hbefore hcontra (List.mem_append_left _ hmem)
  have hbehind : origin ∉ entryOrigins behind :=
    fun hcontra => (List.nodup_append'.1 hrest).2.2 hmem hcontra
  rw [hput, refillEntries_append, refillEntries, refillEntries_of_notMem content before hapart,
    refillEntries_of_notMem content behind hbehind]

/-- The part at a key of unshared entries. -/
theorem Unshared.part {entries : Entries} (h : Unshared entries) {key : Key} {part : Document}
    (hpart : entries.get? key = some part) : (origins part).Nodup := by
  obtain ⟨before, name, behind, rfl, -⟩ := Fields.exists_split hpart
  rw [Unshared, entryOrigins_append, entryOrigins] at h
  exact (List.nodup_append'.1 (List.nodup_append'.1 h).2.1).1

end Refill

end BlockWeave.Document
