import LoopNest.Native.Backend

namespace LoopNest

/-!
# A backend that records

A recorder generates no code.  It keeps three logs, of the spaces, the arrays
and the kernels that it was asked for, each in the order of the requests, and
hands out positions in these logs as numbers.  Numbers are never used again,
so the handles of different passes never coincide.

An operation can be set to be rejected.  An operation that fails leaves all
logs as they were, and one that succeeds adds one entry to its own log.
-/

/-- A kernel as it was registered. -/
structure RecordedKernel (σ : Type) where
  space : SpaceId
  kernel : Kernel σ
  predicate : Option Predicate
  placement : Option Placement

/-- The logs of a recorder and the operations that it rejects. -/
structure Recorder (σ : Type) where
  spaces : List NativeSpace
  arrays : List (NativeArray × Layout)
  kernels : List (RecordedKernel σ)
  rejected : List BackendOperation

namespace Recorder

variable {σ : Type}

/-- Nothing is recorded and nothing is rejected. -/
def empty : Recorder σ :=
  ⟨[], [], [], []⟩

/-- Reject an operation from now on. -/
def reject (recorder : Recorder σ) (operation : BackendOperation) : Recorder σ :=
  if operation ∈ recorder.rejected then recorder
  else { recorder with rejected := recorder.rejected ++ [operation] }

/-- Reject no operation any longer. -/
def acceptAll (recorder : Recorder σ) : Recorder σ :=
  { recorder with rejected := [] }

/-- Number of arrays that came to exist in the given way. -/
def count (recorder : Recorder σ) (origin : ArrayOrigin) : Nat :=
  recorder.arrays.countP fun entry => entry.1.origin = origin

/-- Run every registered kernel in order. -/
def invokeAll (recorder : Recorder σ) (store : Store σ) : Store σ :=
  recorder.kernels.foldl (fun store entry => entry.kernel.invoke store) store

/-- Go on unless the operation is to be rejected. -/
def check (operation : BackendOperation) : EStateM BackendError (Recorder σ) Unit :=
  fun recorder =>
    if operation ∈ recorder.rejected then
      .error (.rejected operation "rejected by test configuration") recorder
    else .ok () recorder

/-- Record an array under the next number. -/
def pushArray (elementType : ElementType) (layout : Layout) (origin : ArrayOrigin) :
    EStateM BackendError (Recorder σ) NativeArray := fun recorder =>
  let array : NativeArray := ⟨UInt32.ofNat recorder.arrays.length, elementType, origin⟩
  .ok array { recorder with arrays := recorder.arrays ++ [(array, layout)] }

/-- Record a space under the next number. -/
def pushSpace (extents : List Int) : EStateM BackendError (Recorder σ) NativeSpace :=
  fun recorder =>
    let space := NativeSpace.ofExtents ⟨UInt32.ofNat recorder.spaces.length⟩ extents
    .ok space { recorder with spaces := recorder.spaces ++ [space] }

/-- The first extent that is not positive, with its dimension. -/
def firstInvalid? (extents : List Int) : Option (Int × Nat) :=
  extents.zipIdx.find? fun entry => entry.1 <= 0

/-- Create a space.  All extents must be positive. -/
def createSpace (extents : List Int) : EStateM BackendError (Recorder σ) NativeSpace := do
  check .createSpace
  match firstInvalid? extents with
  | some (extent, dimension) => throw (.invalidExtent dimension extent)
  | none => pushSpace extents

/-- Allocate an array. -/
def allocate (elementType : ElementType) (layout : Layout) :
    EStateM BackendError (Recorder σ) NativeArray := do
  check .allocate
  pushArray elementType layout .allocated

/-- Bind an array to constant data, which must fill the layout. -/
def resolveConstant (elementType : ElementType) (layout : Layout) (data : ConstantData) :
    EStateM BackendError (Recorder σ) NativeArray := do
  check .resolveConstant
  match layout.elementCount? with
  | none => throw (.layoutOverflow layout.shape)
  | some expected =>
      if data.length = expected.toNat then pushArray elementType layout .constant
      else throw (.constantSizeMismatch expected data.length)

/-- Wrap a buffer.  Which one it is goes unrecorded. -/
def wrapArgument (elementType : ElementType) (layout : Layout) (_buffer : UInt32) :
    EStateM BackendError (Recorder σ) NativeArray := do
  check .wrapArgument
  pushArray elementType layout .argument

/-- Record a kernel.  Its space must have the number of a recorded one. -/
def addKernel (space : NativeSpace) (kernel : Kernel σ) (predicate : Option Predicate)
    (placement : Option Placement) : EStateM BackendError (Recorder σ) Unit := do
  check .addKernel
  fun recorder =>
    if recorder.spaces.any fun known => known.id = space.id then
      .ok () { recorder with
        kernels := recorder.kernels ++ [⟨space.id, kernel, predicate, placement⟩] }
    else .error (.unknownSpace space.id) recorder

instance : Backend σ (Recorder σ) where
  createSpace := createSpace
  allocate := allocate
  resolveConstant := resolveConstant
  wrapArgument := wrapArgument
  addKernel := addKernel

end Recorder

end LoopNest
