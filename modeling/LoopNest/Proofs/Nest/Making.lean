import LoopNest.Proofs.Nest.Kernels
import LoopNest.Proofs.Pass.Making
import LoopNest.Proofs.Pass.Supplying

namespace LoopNest

/-!
# The arrays of a pass

Two stages of a pass log arrays.  When the arguments are recorded, one array is
logged for each array argument.  When commands are replayed, one array is logged
for each handle that the pass makes and that has no entry yet.  Of several
handles with one token the first counts, wherever the others are captured.
-/

/-- The logged array stands for the buffer that is supplied for the handle. -/
structure ArrayHandle.WrappedBy (handle : ArrayHandle) (entry : NativeArray × Layout) : Prop where
  elementType : entry.1.elementType = handle.elementType
  origin : entry.1.origin = .argument
  layout : entry.2 = handle.layout

namespace Pass

variable {σ : Type} {pass after : Pass (Recorder σ) σ}

/-- Every handle is stood for by the array that wraps its buffer. -/
theorem forall₂_wrapped (logged : Nat) (handles : List ArrayHandle) :
    List.Forall₂ ArrayHandle.WrappedBy handles (Arguments.wrapped logged handles) := by
  induction handles generalizing logged with
  | nil => exact .nil
  | cons handle rest inductionHypothesis =>
      rw [← List.singleton_append, Arguments.wrapped_append]
      exact .cons ⟨rfl, rfl, rfl⟩ (inductionHypothesis _)

/-- Recording arguments logs one array for each array among them, in order. -/
theorem wraps_of_seedFrom {position : Nat} {pairs : List (Capture σ × RuntimeArgument)}
    (done : seedFrom position pairs pass = .ok () after) :
    ∃ wrapped, after.backend.arrays = pass.backend.arrays ++ wrapped ∧
      List.Forall₂ ArrayHandle.WrappedBy ((pairs.map Prod.fst).filterMap Capture.handle?)
        wrapped := by
  rcases supplied_of_seedFrom done with ⟨_, rfl⟩
  exact ⟨_, rfl, forall₂_wrapped _ _⟩

end Pass

namespace Nest

variable {σ : Type} {pass after : Pass (Recorder σ) σ}

/-- Registering the kernel makes no array. -/
theorem Adds.materializes {attachment : Attachment σ} {entry : RecordedKernel σ}
    (adds : Adds pass attachment entry after) :
    pass.Materializes (pass.unmade (Capture.madeIn attachment.captured)) after := by
  cases adds with
  | intro entered resolves accepted recorded =>
      have materializes := resolves.materializes
      exact ⟨materializes.distinct, materializes.missing, materializes.logged,
        materializes.others⟩

/-- Replaying commands makes their arrays in the order of the first capture. -/
theorem AddsAll.materializes {attachments : List (Attachment σ)}
    {added : List (RecordedKernel σ)} (adds : AddsAll pass attachments added after) :
    pass.Materializes
      (pass.unmade (Capture.madeIn (attachments.flatMap Attachment.captured))) after := by
  induction adds with
  | nil => exact Pass.materializes_nil rfl rfl
  | cons first later inductionHypothesis =>
      rw [List.flatMap_cons, Capture.madeIn_append, first.materializes.unmade_append]
      exact first.materializes.append inductionHypothesis

end Nest

end LoopNest
