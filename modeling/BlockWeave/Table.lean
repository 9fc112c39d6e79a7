/-! # Tables in order of insertion

A table is a list of bindings. Binding a name again changes its value and keeps
its place; a new name goes to the end. -/

namespace BlockWeave

/-- Names bound to values, in the order in which the names were first bound. -/
abbrev Table (κ : Type) (β : Type) := List (κ × β)

namespace Table

variable {κ β : Type} [DecidableEq κ]

/-- The value bound to a name. -/
def get? : Table κ β → κ → Option β
  | [], _ => none
  | (name, value) :: table, k => if name = k then some value else get? table k

/-- A name is bound. -/
def has (table : Table κ β) (k : κ) : Bool :=
  (table.get? k).isSome

/-- The table with a name bound to a value. -/
def put : Table κ β → κ → β → Table κ β
  | [], k, v => [(k, v)]
  | (name, value) :: table, k, v =>
      if name = k then (name, v) :: table else (name, value) :: put table k v

/-- The names in order. -/
def names (table : Table κ β) : List κ :=
  table.map Prod.fst

/-- Bindings made one after the other. -/
def ofList (bindings : List (κ × β)) : Table κ β :=
  bindings.foldl (fun table binding => table.put binding.1 binding.2) []

@[simp] theorem get?_put_self (table : Table κ β) (k : κ) (v : β) :
    (table.put k v).get? k = some v := by
  induction table with
  | nil => simp [put, get?]
  | cons binding table ih =>
      by_cases h : binding.1 = k
      · simp [put, get?, h]
      · simp [put, get?, h, ih]

@[simp] theorem get?_put_of_ne (table : Table κ β) {k l : κ} (v : β) (h : k ≠ l) :
    (table.put k v).get? l = table.get? l := by
  induction table with
  | nil => simp [put, get?, h]
  | cons binding table ih =>
      by_cases hk : binding.1 = k
      · simp [put, get?, hk, h]
      · simp [put, get?, hk, ih]

/-- Binding a name adds this name and no other. -/
theorem has_put (table : Table κ β) (k l : κ) (v : β) :
    (table.put k v).has l = (decide (k = l) || table.has l) := by
  by_cases h : k = l
  · subst h
    simp [has]
  · simp [has, h]

/-- The value of a name is bound in the list of bindings. -/
theorem mem_of_get?_eq_some {table : Table κ β} {k : κ} {v : β} (h : table.get? k = some v) :
    (k, v) ∈ table := by
  induction table with
  | nil => simp [get?] at h
  | cons binding table ih =>
      by_cases hk : binding.1 = k
      · simp only [get?, hk, if_true, Option.some.injEq] at h
        simp [← h, ← hk]
      · simp only [get?, hk, if_false] at h
        simp [ih h]

/-- A bound name keeps its place, and a new one goes to the end. -/
theorem names_put (table : Table κ β) (k : κ) (v : β) :
    (table.put k v).names = if k ∈ table.names then table.names else table.names ++ [k] := by
  induction table with
  | nil => simp [put, names]
  | cons binding table ih =>
      by_cases h : binding.1 = k
      · simp [put, names, h]
      · have hk : k ≠ binding.1 := Ne.symm h
        simp only [put, names, List.map_cons, List.mem_cons, hk, false_or] at ih ⊢
        simp only [h, if_false, List.map_cons, ih]
        split <;> simp_all

end Table
end BlockWeave
