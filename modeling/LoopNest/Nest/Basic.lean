import LoopNest.Declaration.Extent
import LoopNest.Logic.Function
import LoopNest.Pass.Failure

namespace LoopNest

/-!
# Nests

A nest declares an iteration space and the logic that runs in it.  Its rank
and its loop indices are fixed when it is declared.  Extents may be deferred
then; a pass resolves all of them and writes the numbers into the current
extents, while the declared ones stay, so that the next pass can resolve them
again.

Logic is attached and resolved only when a pass is run.  The nest keeps it
twice: as a command, with the scheduling that it was attached with, and in the
list of its logic functions.
-/

/-- One dimension of a nest: its index, its extent as it was declared, and its
extent as it is now. -/
structure Dimension (σ : Type) where
  index : LoopIndex
  declared : Extent σ
  extent : Extent σ

/-- A command of a nest: the logic that a pass resolves and registers. -/
structure Attachment (σ : Type) where
  logic : LogicFunction σ
  scheduling : Scheduling

/-- A declared iteration space and the logic attached to it. -/
structure Nest (σ : Type) where
  id : NestId
  dimensions : List (Dimension σ)
  /-- The commands, in the order in which their logic was attached. -/
  attachments : List (Attachment σ)
  /-- The attached logic functions in order. -/
  logicFunctions : List (LogicFunction σ)

namespace Nest

variable {σ : Type}

/-- Declare a nest with one dimension per extent.  The nest takes its number
first, then each dimension takes its index. -/
def declare (shape : List (Extent σ)) : StateM Arena (Nest σ) := do
  let id <- Arena.issueNest
  let indices <- LoopIndex.declareMany id 0 shape.length
  pure
    { id
      dimensions := List.zipWith (fun extent index => ⟨index, extent, extent⟩) shape indices
      attachments := []
      logicFunctions := [] }

/-- Number of dimensions. -/
def rank (nest : Nest σ) : Nat :=
  nest.dimensions.length

/-- The current extents. -/
def shape (nest : Nest σ) : Dims (Extent σ) :=
  Dims.ofList (nest.dimensions.map Dimension.extent)

/-- The extents as they were declared. -/
def declaredShape (nest : Nest σ) : List (Extent σ) :=
  nest.dimensions.map Dimension.declared

/-- The loop indices. -/
def indices (nest : Nest σ) : Dims LoopIndex :=
  Dims.ofList (nest.dimensions.map Dimension.index)

/-- Was any extent deferred when the nest was declared? -/
def hasDeferred (nest : Nest σ) : Bool :=
  nest.dimensions.any fun dimension => dimension.declared.isDeferred

/-- The numbers among extents; `position` is the dimension of the first.  The
first one that is still deferred is an error. -/
def extentsFrom (position : Nat) : List (Extent σ) -> Except NestError (List Int)
  | [] => .ok []
  | .fixed value :: rest => (extentsFrom (position + 1) rest).map (value :: ·)
  | .deferred value :: _ => .error (.unresolvedShape position value.name)

/-- The current extents as numbers. -/
def extents (nest : Nest σ) : Except NestError (List Int) :=
  extentsFrom 0 (nest.dimensions.map Dimension.extent)

/-- Attach logic.  Nothing is resolved now. -/
def attach (nest : Nest σ) (logic : LogicFunction σ) (scheduling : Scheduling) : Nest σ :=
  { nest with
    attachments := nest.attachments ++ [⟨logic, scheduling⟩]
    logicFunctions := nest.logicFunctions ++ [logic] }

/-- Number of kernels that a complete pass adds. -/
def kernelCount (nest : Nest σ) : Nat :=
  nest.attachments.length

/-- Make numbers the current extents, dimension by dimension. -/
def withExtents (nest : Nest σ) (numbers : List Int) : Nest σ :=
  { nest with
    dimensions := (nest.dimensions.zip numbers).map fun entry =>
      { entry.1 with extent := .fixed entry.2 } }

/-- Run a program on the store beside a nest. -/
def onStore {ε α : Type} (program : EStateM ε (Store σ) α) : EStateM ε (Nest σ × Store σ) α :=
  fun (nest, store) =>
    match program store with
    | .ok value store => .ok value (nest, store)
    | .error error store => .error error (nest, store)

/-- Resolve the declared extents in order, and when all of them are resolved,
make the numbers the current extents.  Every dimension is resolved for itself,
also when two of them share a deferred integer. -/
def replay : EStateM DeferredError (Nest σ × Store σ) Unit := do
  let (nest, _) <- get
  let numbers <- nest.declaredShape.mapM fun extent => onStore extent.resolve
  modify fun (nest, store) => (nest.withExtents numbers, store)

/-- The nest that a replay leaves when it succeeds. -/
def replayDeferred (nest : Nest σ) : EStateM DeferredError (Store σ) (Nest σ) := fun store =>
  match replay (nest, store) with
  | .ok _ (nest, store) => .ok nest store
  | .error error (_, store) => .error error store

end Nest

end LoopNest
