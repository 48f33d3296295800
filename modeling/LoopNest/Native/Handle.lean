import LoopNest.Data.Layout
import LoopNest.Data.Scalar

namespace LoopNest

/-!
# Native handles

What a backend hands out: iteration spaces, one native index for every
dimension of a space, and arrays.  A native value is what takes the place of a
captured value, and a runtime argument is what the caller of a finished
function supplies.
-/

/-- Number of a native space within one backend. -/
structure SpaceId where
  raw : UInt32
deriving DecidableEq

/-- The space number as diagnostics show it. -/
def SpaceId.describe (space : SpaceId) : String :=
  s!"SpaceId({space.raw})"

/-- Native counterpart of one loop index. -/
structure NativeIndex where
  space : SpaceId
  dimension : UInt32
deriving DecidableEq

namespace NativeIndex

/-- The name of the index among all indices of a backend. -/
def label (index : NativeIndex) : String :=
  s!"s{index.space.raw}.i{index.dimension}"

/-- The index as diagnostics show it. -/
def describe (index : NativeIndex) : String :=
  Text.record "NativeIndex"
    [Text.field "space" index.space.describe, Text.field "dimension" (toString index.dimension)]

end NativeIndex

/-- How a native array came to exist. -/
inductive ArrayOrigin where
  | allocated
  | constant
  | argument
deriving DecidableEq

def ArrayOrigin.name : ArrayOrigin -> String
  | .allocated => "Allocated"
  | .constant => "Constant"
  | .argument => "Argument"

/-- Native counterpart of an array. -/
structure NativeArray where
  id : UInt32
  elementType : ElementType
  origin : ArrayOrigin
deriving DecidableEq

/-- Native iteration space.  A backend is free in the indices that it hands
out; `ofExtents` has one for every extent. -/
structure NativeSpace where
  id : SpaceId
  extents : List Int
  indices : List NativeIndex
deriving DecidableEq

namespace NativeSpace

/-- The space with one index per extent, in order. -/
def ofExtents (id : SpaceId) (extents : List Int) : NativeSpace :=
  { id
    extents
    indices := (List.range extents.length).map fun dimension => ⟨id, UInt32.ofNat dimension⟩ }

/-- Number of indices. -/
def rank (space : NativeSpace) : Nat :=
  space.indices.length

/-- The space as diagnostics show it. -/
def describe (space : NativeSpace) : String :=
  Text.record "NativeSpace"
    [Text.field "id" space.id.describe,
      Text.field "extents" (Text.items (space.extents.map toString)),
      Text.field "indices" (Text.items (space.indices.map NativeIndex.describe))]

@[simp] theorem rank_ofExtents (id : SpaceId) (extents : List Int) :
    (ofExtents id extents).rank = extents.length := by
  simp [ofExtents, rank]

end NativeSpace

/-- A value that a backend understands, in place of a captured value. -/
inductive NativeValue where
  | index (index : NativeIndex)
  | array (array : NativeArray)
  | scalar (scalar : Scalar)
deriving DecidableEq, BEq

namespace NativeValue

def array? : NativeValue -> Option NativeArray
  | .array native => some native
  | .index _ => none
  | .scalar _ => none

def index? : NativeValue -> Option NativeIndex
  | .index native => some native
  | .array _ => none
  | .scalar _ => none

end NativeValue

/-- What the caller of a finished function supplies for one argument. -/
inductive RuntimeArgument where
  /-- The buffer of an array argument, by its slot. -/
  | buffer (slot : UInt32)
  | scalar (value : Scalar)
deriving DecidableEq

end LoopNest
