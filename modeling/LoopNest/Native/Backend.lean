import LoopNest.Native.Kernel

namespace LoopNest

/-!
# Backends

Lowering a nest needs five operations of a code generator: a native space from
concrete extents, a fresh array, an array for constant data, an array for a
buffer that the caller passes, and the registration of a kernel in a space.

An operation may fail and may change the state of the backend when it does.
-/

/-- The operations of a backend. -/
inductive BackendOperation where
  | createSpace
  | allocate
  | resolveConstant
  | wrapArgument
  | addKernel
deriving DecidableEq

def BackendOperation.name : BackendOperation -> String
  | .createSpace => "create_space"
  | .allocate => "allocate"
  | .resolveConstant => "resolve_constant"
  | .wrapArgument => "wrap_argument"
  | .addKernel => "add_kernel"

/-- Failure reported by a backend. -/
inductive BackendError where
  /-- The extent of a space was not positive. -/
  | invalidExtent (dimension : Nat) (extent : Int)
  /-- Constant data does not fill its layout. -/
  | constantSizeMismatch (expected : UInt64) (found : Nat)
  /-- The number of elements of a layout does not fit into a word. -/
  | layoutOverflow (shape : List UInt64)
  /-- A kernel was registered in a space that the backend did not create. -/
  | unknownSpace (space : SpaceId)
  /-- The backend refused the operation. -/
  | rejected (operation : BackendOperation) (reason : String)
deriving DecidableEq

def BackendError.message : BackendError -> String
  | .invalidExtent dimension extent =>
      s!"invalid extent {extent} for dimension {dimension}"
  | .constantSizeMismatch expected found =>
      s!"constant data has {found} elements, layout needs {expected}"
  | .layoutOverflow shape =>
      "layout " ++ Layout.describeShape shape ++ " has more than u64::MAX elements"
  | .unknownSpace space => "unknown space " ++ space.describe
  | .rejected operation reason => "backend rejected " ++ operation.name ++ ": " ++ reason

/-- A code generator whose state is a `β`, for kernels that act on the store
of a client with state `σ`. -/
class Backend (σ : outParam Type) (β : Type) where
  /-- Create a space with one native index per extent, in order. -/
  createSpace : List Int -> EStateM BackendError β NativeSpace
  /-- Allocate a fresh array. -/
  allocate : ElementType -> Layout -> EStateM BackendError β NativeArray
  /-- Bind an array to constant data. -/
  resolveConstant : ElementType -> Layout -> ConstantData -> EStateM BackendError β NativeArray
  /-- Wrap the buffer that the caller passes for an array argument. -/
  wrapArgument : ElementType -> Layout -> UInt32 -> EStateM BackendError β NativeArray
  /-- Register a kernel for emission inside a space. -/
  addKernel : NativeSpace -> Kernel σ -> Option Predicate -> Option Placement ->
    EStateM BackendError β Unit

end LoopNest
