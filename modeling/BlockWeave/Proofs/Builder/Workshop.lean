import BlockWeave.Workshop

/-!
# Builders side by side

What is done with one builder changes no other, except that builders with the common registry
have one registry: what one of them registers is there for all of them.
-/

namespace BlockWeave.Workshop

variable {α : Type} (workshop : Workshop) (name : Text) (f : Builder → α × Builder)

/-- The common registry is the one of a builder that works with it. -/
theorem registry_bench (h : (workshop.bench name).shares = true) :
    (workshop.bench name).builder.registry = workshop.common := by
  rw [bench] at h ⊢
  split
  next => rfl
  next bench hget =>
    rw [hget] at h
    by_cases hshares : bench.shares = true
    · rw [if_pos hshares]
    · simp only [if_neg hshares] at h
      exact absurd h hshares

theorem use_snd : (workshop.use name f).2 = workshop.place name
    { workshop.bench name with builder := (f (workshop.bench name).builder).2 } := rfl

theorem common_use : (workshop.use name f).2.common =
    if (workshop.bench name).shares then (f (workshop.bench name).builder).2.registry
    else workshop.common := rfl

/-- A builder stays what it has become. -/
theorem bench_use : ((workshop.use name f).2.bench name) =
    { workshop.bench name with builder := (f (workshop.bench name).builder).2 } := by
  rw [bench, use_snd, place, Table.get?_put_self]
  by_cases hshares : (workshop.bench name).shares = true
  · simp [hshares]
  · simp [hshares]

/-- Any other builder in the workshop stays what it is, but for a registry that it shares. -/
theorem bench_use_of_ne {other : Text} (h : name ≠ other)
    (hother : workshop.benches.has other = true) :
    ((workshop.use name f).2.bench other) =
      if (workshop.bench other).shares then
        { workshop.bench other with
          builder := { (workshop.bench other).builder with
            registry := (workshop.use name f).2.common } }
      else workshop.bench other := by
  obtain ⟨bench, hget⟩ := Option.isSome_iff_exists.1 hother
  have hafter : (workshop.use name f).2.benches.get? other = some bench := by
    rw [use_snd, place, Table.get?_put_of_ne _ _ h, hget]
  rw [Workshop.bench, Workshop.bench, hafter, hget]
  by_cases hshares : bench.shares = true <;> simp [hshares]

/-- Builders do not touch each other. What is done with one of them leaves the presets and the
last build of any other as they are, and its registry too, unless both have the common one. -/
theorem use_isolated {other : Text} (h : name ≠ other)
    (hother : workshop.benches.has other = true) :
    let before := workshop.bench other
    let after := (workshop.use name f).2.bench other
    after.shares = before.shares ∧
    after.builder.presets = before.builder.presets ∧
    after.builder.last = before.builder.last ∧
    after.builder.registry =
      if (workshop.bench name).shares ∧ before.shares then
        (f (workshop.bench name).builder).2.registry
      else before.builder.registry := by
  simp only [bench_use_of_ne workshop name f h hother, common_use]
  by_cases hbefore : (workshop.bench other).shares = true
  · have hregistry := registry_bench workshop other hbefore
    by_cases hname : (workshop.bench name).shares = true <;> simp [hbefore, hname, hregistry]
  · simp [hbefore]

end BlockWeave.Workshop
