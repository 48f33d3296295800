import LoopNest.Proofs.Declaration.Slots
import LoopNest.Proofs.Native.Recorder

namespace LoopNest

/-!
# Backends with a log of kernels

What a pass registers can be read from a backend that keeps a log: a kernel that
is accepted is added at its end, and nothing else changes it.  Of the other
operations of such a backend only this is known, that a space has one index per
extent, in order.

A recorder is such a backend.
-/

/-- The backend keeps a log of the kernels that it accepted, and its spaces have
one index per extent, in order. -/
structure Backend.KernelLog {β σ : Type} [Backend σ β] (log : β -> List (RecordedKernel σ)) :
    Prop where
  spaces : forall {extents : List Int} {space : NativeSpace} {before after : β},
    Backend.createSpace extents before = .ok space after -> space = .ofExtents space.id extents
  createSpace : forall extents, Outcome.Keeps log (Backend.createSpace extents)
  allocate : forall elementType layout, Outcome.Keeps log (Backend.allocate elementType layout)
  resolveConstant : forall elementType layout data,
    Outcome.Keeps log (Backend.resolveConstant elementType layout data)
  wrapArgument : forall elementType layout buffer,
    Outcome.Keeps log (Backend.wrapArgument elementType layout buffer)
  accepted : forall {space : NativeSpace} {kernel : Kernel σ} {predicate : Option Predicate}
    {placement : Option Placement} {before after : β},
    Backend.addKernel space kernel predicate placement before = .ok () after ->
      log after = log before ++ [⟨space.id, kernel, predicate, placement⟩]
  refused : forall {space : NativeSpace} {kernel : Kernel σ} {predicate : Option Predicate}
    {placement : Option Placement} {before after : β} {error : BackendError},
    Backend.addKernel space kernel predicate placement before = .error error after ->
      log after = log before

namespace Recorder

variable {σ : Type}

/-- An operation that leaves no trace when it fails keeps the log if it does so
when it succeeds. -/
private theorem keeps_kernels {α : Type} {operation : EStateM BackendError (Recorder σ) α}
    (done : forall {value before after}, operation before = .ok value after ->
      after.kernels = before.kernels)
    (failed : forall {error before after}, operation before = .error error after ->
      after = before) : Outcome.Keeps kernels operation := by
  intro before
  cases outcome : operation before with
  | ok value after => exact done outcome
  | error error after => exact congrArg kernels (failed outcome)

/-- The log of kernels of a recorder. -/
theorem kernelLog : Backend.KernelLog (kernels (σ := σ)) where
  spaces := by
    intro extents space before after created
    rcases (createSpace_eq_ok_iff _ _ _ _).mp created with ⟨_, _, rfl, _⟩
    rfl
  createSpace := fun extents => by
    refine keeps_kernels (fun created => ?_) fun failed => (createSpace_of_error failed).1
    rcases (createSpace_eq_ok_iff _ _ _ _).mp created with ⟨_, _, _, rfl⟩
    rfl
  allocate := fun elementType layout => by
    refine keeps_kernels (fun made => ?_) fun failed => (allocate_of_error failed).1
    rcases (allocate_eq_ok_iff _ _ _ _ _).mp made with ⟨_, _, rfl⟩
    rfl
  resolveConstant := fun elementType layout data => by
    refine keeps_kernels (fun made => ?_) fun failed => (resolveConstant_of_error failed).1
    rcases (resolveConstant_eq_ok_iff _ _ _ _ _ _).mp made with ⟨_, _, _, rfl⟩
    rfl
  wrapArgument := fun elementType layout buffer => by
    refine keeps_kernels (fun made => ?_) fun failed => (wrapArgument_of_error failed).1
    rcases (wrapArgument_eq_ok_iff _ _ _ _ _ _).mp made with ⟨_, _, rfl⟩
    rfl
  accepted := by
    intro space kernel predicate placement before after registered
    rcases (addKernel_eq_ok_iff _ _ _ _ _ _ _).mp registered with ⟨_, _, rfl⟩
    rfl
  refused := fun failed => congrArg kernels (addKernel_of_error failed).1

end Recorder

end LoopNest
