import LoopNest.Nest.Build

namespace LoopNest

/-!
# Schedules

A schedule owns a nest and knows, after a pass was prepared, the dimension and
the extent of each of its loop indices.  Preparing a pass forgets what was
known, resolves the deferred extents and takes the indices down again.  When
an extent cannot be resolved, nothing is known.
-/

/-- A nest, and the dimension and extent of its loop indices. -/
structure Schedule (σ : Type) where
  nest : Nest σ
  indexMap : Std.ExtTreeMap Token (Nat × Int)

namespace Schedule

variable {σ : Type}

/-- A schedule for which no pass was prepared. -/
def ofNest (nest : Nest σ) : Schedule σ :=
  ⟨nest, ∅⟩

/-- Dimension of an index, as of the last prepared pass. -/
def dimension? (schedule : Schedule σ) (index : LoopIndex) : Option Nat :=
  schedule.indexMap[index.id]?.map fun entry => entry.1

/-- Extent of an index, as of the last prepared pass. -/
def extent? (schedule : Schedule σ) (index : LoopIndex) : Option Int :=
  schedule.indexMap[index.id]?.map fun entry => entry.2

/-- Note the dimension and the extent of indices in order; `position` is the
dimension of the first. -/
def noteFrom (position : Nat) (known : Std.ExtTreeMap Token (Nat × Int)) :
    List (LoopIndex × Int) -> Std.ExtTreeMap Token (Nat × Int)
  | [] => known
  | (index, extent) :: rest =>
      noteFrom (position + 1) (known.insert index.id (position, extent)) rest

/-- Run a program on the nest of a schedule; `failure` tells what its failures
mean. -/
def onNest {ε α : Type} (failure : ε -> NestError)
    (program : EStateM ε (Nest σ × Store σ) α) :
    EStateM NestError (Schedule σ × Store σ) α := fun (schedule, store) =>
  match program (schedule.nest, store) with
  | .ok value (nest, store) => .ok value ({ schedule with nest }, store)
  | .error error (nest, store) => .error (failure error) ({ schedule with nest }, store)

/-- Resolve the extents for a pass and note the indices. -/
def preparePass : EStateM NestError (Schedule σ × Store σ) Unit := do
  modify fun (schedule, store) => (ofNest schedule.nest, store)
  onNest .unresolvableDeferred Nest.replay
  let (schedule, _) <- get
  match schedule.nest.extents with
  | .error error => throw error
  | .ok extents =>
      let indices := schedule.nest.dimensions.map Dimension.index
      modify fun (schedule, store) =>
        ({ schedule with indexMap := noteFrom 0 schedule.indexMap (indices.zip extents) }, store)

end Schedule

end LoopNest
