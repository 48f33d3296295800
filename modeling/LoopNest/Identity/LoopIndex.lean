import LoopNest.Identity.Token

namespace LoopNest

/-!
# Loop indices

A loop index names one dimension of one nest.  It has no value of its own: it
only serves as a key, so two indices of equal extent stay distinct.  Equality
looks at the token, the owner and the dimension.  Within one arena the token
alone decides it; indices of different arenas may share a token and still
differ in the other two.
-/

/-- Identity of one dimension of a nest's iteration space. -/
structure LoopIndex where
  id : Token
  owner : NestId
  dimension : UInt32
deriving DecidableEq

namespace LoopIndex

/-- Declare the index of one dimension of the nest `owner`. -/
def declare (owner : NestId) (dimension : UInt32) : StateM Arena LoopIndex := fun arena =>
  let (id, arena) := Arena.issue .index arena
  (⟨id, owner, dimension⟩, arena)

/-- Declare one index per dimension, numbered from `start`. -/
def declareMany (owner : NestId) (start : Nat) : Nat -> StateM Arena (List LoopIndex)
  | 0 => pure []
  | count + 1 => do
      let index <- declare owner (UInt32.ofNat start)
      let rest <- declareMany owner (start + 1) count
      pure (index :: rest)

/-- The name of the index within its nest. -/
def label (index : LoopIndex) : String :=
  s!"i{index.dimension}"

/-- The index as diagnostics show it. -/
def describe (index : LoopIndex) : String :=
  s!"LoopIndex(n{index.owner.raw}.i{index.dimension}, " ++ index.id.describe ++ ")"

end LoopIndex

end LoopNest
