import LoopNest.Nest.Basic
import LoopNest.Pass.Resolution
import LoopNest.Pass.Seeding

namespace LoopNest

/-!
# Building a nest in a pass

The native space of a nest is created from its current extents, after the
arguments are recorded.  Then every loop index is mapped to the native index of
its dimension; an argument that carries the token of an index loses its value.
Once there is a space, the attached logic can be resolved and registered.
-/

namespace Nest

variable {β σ : Type} [Backend σ β]

/-- Map loop indices to native ones, dimension by dimension. -/
def seedIndices : List (LoopIndex × NativeIndex) -> PassM β σ Unit
  | [] => pure ()
  | (index, native) :: rest => do
      Pass.record index.id (.index native)
      seedIndices rest

/-- Create the native space and record the arguments and the loop indices. -/
def buildSpace (nest : Nest σ) : PassM β σ Unit := do
  match nest.extents with
  | .error error => throw error
  | .ok extents =>
      Pass.seedArguments
      let space <- Pass.onBackend (Backend.createSpace extents)
      if space.rank = nest.rank then
        seedIndices ((nest.dimensions.map Dimension.index).zip space.indices)
        Pass.enterSpace space
      else throw (.spaceRankMismatch nest.rank space.rank)

/-- Register the kernels of attached logic in order. -/
def addAttachments : List (Attachment σ) -> PassM β σ Unit
  | [] => pure ()
  | attachment :: rest => do
      Pass.addLogic attachment.logic attachment.scheduling
      addAttachments rest

/-- Register the kernels of all attached logic in order. -/
def addKernels (nest : Nest σ) : PassM β σ Unit :=
  addAttachments nest.attachments

end Nest

end LoopNest
