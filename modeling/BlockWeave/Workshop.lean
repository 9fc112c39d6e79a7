import BlockWeave.Builder

/-! # Workshops

Builders are used side by side. A builder has a registry of its own, which was the common
one when the builder was made, or it works with the common registry itself: what it
registers is then there for all that share this registry, and for the builders to come. -/

namespace BlockWeave

/-- A builder in its place. -/
structure Workbench where
  builder : Builder
  /-- The registry of the builder is the common one. -/
  shares : Bool := false

/-- Builders by name, with the registry that some of them share. -/
structure Workshop where
  common : Registry
  benches : Table Text Workbench := []

namespace Workshop

/-- A builder with a registry of its own, which starts as the common one. -/
def fresh (workshop : Workshop) : Workbench where
  builder := { registry := workshop.common }

/-- A builder that works with the common registry. -/
def sharing (workshop : Workshop) : Workbench where
  builder := { registry := workshop.common }
  shares := true

/-- The builder of a name as it is now. A name without a builder gets a fresh one. -/
def bench (workshop : Workshop) (name : Text) : Workbench :=
  match workshop.benches.get? name with
  | none => workshop.fresh
  | some bench =>
      if bench.shares then
        { bench with builder := { bench.builder with registry := workshop.common } }
      else bench

/-- Puts a builder in its place. -/
def place (workshop : Workshop) (name : Text) (bench : Workbench) : Workshop where
  common := if bench.shares then bench.builder.registry else workshop.common
  benches := workshop.benches.put name bench

/-- Something is done with the builder of a name. -/
def use {α : Type} (workshop : Workshop) (name : Text) (f : Builder → α × Builder) :
    α × Workshop :=
  let bench := workshop.bench name
  let (a, builder) := f bench.builder
  (a, workshop.place name { bench with builder })

end Workshop
end BlockWeave
