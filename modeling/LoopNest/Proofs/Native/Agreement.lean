import LoopNest.Proofs.Native.Recorder
import LoopNest.Proofs.Native.Renumbering

namespace LoopNest

/-!
# Two recorders with the same requests

Two recorders may have logged anything so far.  As long as they reject the same
operations they answer the same requests alike: what they log from now on
corresponds under a shift of the numbers, and they fail alike.
-/

/-- Two logs grew by entries that correspond. -/
def Appended {α : Type} (image : α -> α) (leftBase rightBase left right : List α) : Prop :=
  ∃ added, left = leftBase ++ added ∧ right = rightBase ++ added.map image

namespace Appended

variable {α : Type} {image : α -> α} {leftBase rightBase left right : List α}

theorem refl (image : α -> α) (leftBase rightBase : List α) :
    Appended image leftBase rightBase leftBase rightBase :=
  ⟨[], (List.append_nil _).symm, (List.append_nil _).symm⟩

theorem push (appended : Appended image leftBase rightBase left right) (item : α) :
    Appended image leftBase rightBase (left ++ [item]) (right ++ [image item]) := by
  rcases appended with ⟨added, rfl, rfl⟩
  exact ⟨added ++ [item], by simp, by simp⟩

/-- The two logs grew by as many entries. -/
theorem lengths (appended : Appended image leftBase rightBase left right) :
    ∃ count, left.length = leftBase.length + count ∧ right.length = rightBase.length + count := by
  rcases appended with ⟨added, rfl, rfl⟩
  exact ⟨added.length, List.length_append, by rw [List.length_append, List.length_map]⟩

end Appended

namespace Recorder

variable {σ : Type}

/-- What the two recorders logged since they were the bases corresponds under
the shift between these, and they reject the same operations. -/
structure Alike (leftBase rightBase left right : Recorder σ) : Prop where
  spaces : Appended (Shift.between leftBase rightBase).space leftBase.spaces rightBase.spaces
    left.spaces right.spaces
  arrays : Appended (Shift.between leftBase rightBase).recordedArray leftBase.arrays
    rightBase.arrays left.arrays right.arrays
  kernels : Appended (Shift.between leftBase rightBase).recordedKernel leftBase.kernels
    rightBase.kernels left.kernels right.kernels
  rejected : forall operation, operation ∈ left.rejected <-> operation ∈ right.rejected

theorem alike_bases {leftBase rightBase : Recorder σ}
    (rejected : forall operation,
      operation ∈ leftBase.rejected <-> operation ∈ rightBase.rejected) :
    Alike leftBase rightBase leftBase rightBase :=
  ⟨.refl _ _ _, .refl _ _ _, .refl _ _ _, rejected⟩

section Alike

variable {leftBase rightBase left right : Recorder σ}

theorem Alike.nextArray (alike : Alike leftBase rightBase left right) (elementType : ElementType)
    (origin : ArrayOrigin) :
    right.nextArray elementType origin =
      (Shift.between leftBase rightBase).array (left.nextArray elementType origin) := by
  rcases alike.arrays.lengths with ⟨count, leftLength, rightLength⟩
  simp only [Recorder.nextArray, Shift.array, Shift.between, leftLength, rightLength,
    Shift.number_ofNat]

theorem Alike.withArray (alike : Alike leftBase rightBase left right) (elementType : ElementType)
    (layout : Layout) (origin : ArrayOrigin) :
    Alike leftBase rightBase (left.withArray elementType layout origin)
      (right.withArray elementType layout origin) where
  spaces := alike.spaces
  arrays := by
    simp only [Recorder.withArray, alike.nextArray]
    exact alike.arrays.push (left.nextArray elementType origin, layout)
  kernels := alike.kernels
  rejected := alike.rejected

theorem Alike.nextSpace (alike : Alike leftBase rightBase left right) (extents : List Int) :
    right.nextSpace extents =
      (Shift.between leftBase rightBase).space (left.nextSpace extents) := by
  rcases alike.spaces.lengths with ⟨count, leftLength, rightLength⟩
  simp only [Recorder.nextSpace, Shift.space_ofExtents, Shift.spaceId, Shift.between, leftLength,
    rightLength, Shift.number_ofNat]

theorem Alike.withSpace (alike : Alike leftBase rightBase left right) (extents : List Int) :
    Alike leftBase rightBase (left.withSpace extents) (right.withSpace extents) where
  spaces := by
    simp only [Recorder.withSpace, alike.nextSpace]
    exact alike.spaces.push (left.nextSpace extents)
  arrays := alike.arrays
  kernels := alike.kernels
  rejected := alike.rejected

theorem Alike.withKernel (alike : Alike leftBase rightBase left right) (entry : RecordedKernel σ) :
    Alike leftBase rightBase (left.withKernel entry)
      (right.withKernel ((Shift.between leftBase rightBase).recordedKernel entry)) :=
  ⟨alike.spaces, alike.arrays, alike.kernels.push entry, alike.rejected⟩

/-! ## Operations -/

/-- Both recorders go on with an operation, or both reject it. -/
theorem Alike.check {α : Type} {results : α -> α -> Prop} {operation : BackendOperation}
    {next following : Unit -> EStateM BackendError (Recorder σ) α}
    (alike : Alike leftBase rightBase left right)
    (continued : Outcome.Agree results (Alike leftBase rightBase) (next () left)
      (following () right)) :
    Outcome.Agree results (Alike leftBase rightBase) ((check operation >>= next) left)
      ((check operation >>= following) right) := by
  by_cases rejected : operation ∈ left.rejected
  · have leftFailed : Recorder.check operation left =
        .error (.rejected operation "rejected by test configuration") left := if_pos rejected
    have rightFailed : Recorder.check operation right =
        .error (.rejected operation "rejected by test configuration") right :=
      if_pos ((alike.rejected operation).mp rejected)
    rw [Outcome.bind_of_error leftFailed, Outcome.bind_of_error rightFailed]
    exact .error _ alike
  · have leftPassed : Recorder.check operation left = .ok () left := if_neg rejected
    have rightPassed : Recorder.check operation right = .ok () right :=
      if_neg fun impossible => rejected ((alike.rejected operation).mpr impossible)
    rw [Outcome.bind_of_ok leftPassed, Outcome.bind_of_ok rightPassed]
    exact continued

/-- The arrays that two requests were answered with correspond. -/
def SameArray (leftBase rightBase : Recorder σ) (left right : NativeArray) : Prop :=
  right = (Shift.between leftBase rightBase).array left

theorem Alike.pushArray (alike : Alike leftBase rightBase left right) (elementType : ElementType)
    (layout : Layout) (origin : ArrayOrigin) :
    Outcome.Agree (SameArray leftBase rightBase) (Alike leftBase rightBase)
      (pushArray elementType layout origin left) (pushArray elementType layout origin right) :=
  .ok (alike.nextArray elementType origin) (alike.withArray elementType layout origin)

theorem Alike.allocate (alike : Alike leftBase rightBase left right) (elementType : ElementType)
    (layout : Layout) :
    Outcome.Agree (SameArray leftBase rightBase) (Alike leftBase rightBase)
      (allocate elementType layout left) (allocate elementType layout right) :=
  alike.check (alike.pushArray elementType layout .allocated)

theorem Alike.wrapArgument (alike : Alike leftBase rightBase left right)
    (elementType : ElementType) (layout : Layout) (buffer : UInt32) :
    Outcome.Agree (SameArray leftBase rightBase) (Alike leftBase rightBase)
      (wrapArgument elementType layout buffer left)
      (wrapArgument elementType layout buffer right) :=
  alike.check (alike.pushArray elementType layout .argument)

theorem Alike.resolveConstant (alike : Alike leftBase rightBase left right)
    (elementType : ElementType) (layout : Layout) (data : ConstantData) :
    Outcome.Agree (SameArray leftBase rightBase) (Alike leftBase rightBase)
      (resolveConstant elementType layout data left)
      (resolveConstant elementType layout data right) := by
  refine alike.check ?_
  cases layout.elementCount? with
  | none => exact .error _ alike
  | some expected =>
      dsimp only
      split
      · exact alike.pushArray elementType layout .constant
      · exact .error _ alike

theorem Alike.createSpace (alike : Alike leftBase rightBase left right) (extents : List Int) :
    Outcome.Agree (fun first second => second = (Shift.between leftBase rightBase).space first)
      (Alike leftBase rightBase) (createSpace extents left) (createSpace extents right) := by
  refine alike.check ?_
  cases firstInvalid? extents with
  | some entry => exact .error _ alike
  | none => exact .ok (alike.nextSpace extents) (alike.withSpace extents)

/-- Kernels that correspond are registered in spaces that both recorders
know. -/
theorem Alike.addKernel (alike : Alike leftBase rightBase left right) {space : NativeSpace}
    {kernel : Kernel σ} (predicate : Option Predicate) (placement : Option Placement)
    (leftKnown : ∃ known, known ∈ left.spaces ∧ known.id = space.id)
    (rightKnown : ∃ known, known ∈ right.spaces ∧
      known.id = ((Shift.between leftBase rightBase).space space).id) :
    Outcome.Agree (fun _ _ => True) (Alike leftBase rightBase)
      (addKernel space kernel predicate placement left)
      (addKernel ((Shift.between leftBase rightBase).space space)
        ((Shift.between leftBase rightBase).kernel kernel) predicate placement right) := by
  refine alike.check ?_
  have leftAny : (left.spaces.any fun known => known.id = space.id) = true := by
    simpa using leftKnown
  have rightAny : (right.spaces.any fun known =>
      known.id = ((Shift.between leftBase rightBase).space space).id) = true := by
    simpa using rightKnown
  rw [if_pos leftAny, if_pos rightAny]
  exact .ok trivial (alike.withKernel ⟨space.id, kernel, predicate, placement⟩)

end Alike

end Recorder

end LoopNest
