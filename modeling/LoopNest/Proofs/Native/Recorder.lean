import LoopNest.Native.Recorder
import LoopNest.Proofs.Outcome

namespace LoopNest

/-!
# What a recorder answers

Every operation of a recorder is told completely: when it succeeds, with what
result, and which entry it adds to which log, and when it fails, with what error.
An operation succeeds when it is not rejected and, in three cases, when its input
is in order: the extents of a space are positive, the data of a constant fill its
layout, and the space of a kernel is recorded.
-/

namespace Recorder

variable {σ : Type}

/-- The number that the next array gets, with its element type and origin. -/
def nextArray (recorder : Recorder σ) (elementType : ElementType) (origin : ArrayOrigin) :
    NativeArray :=
  ⟨UInt32.ofNat recorder.arrays.length, elementType, origin⟩

/-- The recorder after it recorded one more array. -/
def withArray (recorder : Recorder σ) (elementType : ElementType) (layout : Layout)
    (origin : ArrayOrigin) : Recorder σ :=
  { recorder with
    arrays := recorder.arrays ++ [(recorder.nextArray elementType origin, layout)] }

/-- The next space, with these extents. -/
def nextSpace (recorder : Recorder σ) (extents : List Int) : NativeSpace :=
  NativeSpace.ofExtents ⟨UInt32.ofNat recorder.spaces.length⟩ extents

/-- The recorder after it recorded one more space. -/
def withSpace (recorder : Recorder σ) (extents : List Int) : Recorder σ :=
  { recorder with spaces := recorder.spaces ++ [recorder.nextSpace extents] }

/-- The recorder after it recorded one more kernel. -/
def withKernel (recorder : Recorder σ) (entry : RecordedKernel σ) : Recorder σ :=
  { recorder with kernels := recorder.kernels ++ [entry] }

theorem check_bind_eq_ok_iff {α : Type} (operation : BackendOperation)
    (next : Unit -> EStateM BackendError (Recorder σ) α) (recorder after : Recorder σ)
    (result : α) :
    (check operation >>= next) recorder = .ok result after <->
      operation ∉ recorder.rejected ∧ next () recorder = .ok result after := by
  by_cases rejected : operation ∈ recorder.rejected
  · have failed : check operation recorder =
        .error (.rejected operation "rejected by test configuration") recorder := if_pos rejected
    rw [Outcome.bind_of_error failed]
    simp [rejected]
  · have passed : check operation recorder = .ok () recorder := if_neg rejected
    rw [Outcome.bind_of_ok passed]
    simp [rejected]

theorem pushArray_apply (elementType : ElementType) (layout : Layout) (origin : ArrayOrigin)
    (recorder : Recorder σ) :
    pushArray elementType layout origin recorder =
      .ok (recorder.nextArray elementType origin)
        (recorder.withArray elementType layout origin) :=
  rfl

theorem allocate_eq_ok_iff (elementType : ElementType) (layout : Layout)
    (recorder after : Recorder σ) (array : NativeArray) :
    allocate elementType layout recorder = .ok array after <->
      BackendOperation.allocate ∉ recorder.rejected ∧
        array = recorder.nextArray elementType .allocated ∧
        after = recorder.withArray elementType layout .allocated := by
  unfold allocate
  rw [check_bind_eq_ok_iff, pushArray_apply, EStateM.Result.ok.injEq]
  simp only [eq_comm]

theorem wrapArgument_eq_ok_iff (elementType : ElementType) (layout : Layout) (buffer : UInt32)
    (recorder after : Recorder σ) (array : NativeArray) :
    wrapArgument elementType layout buffer recorder = .ok array after <->
      BackendOperation.wrapArgument ∉ recorder.rejected ∧
        array = recorder.nextArray elementType .argument ∧
        after = recorder.withArray elementType layout .argument := by
  unfold wrapArgument
  rw [check_bind_eq_ok_iff, pushArray_apply, EStateM.Result.ok.injEq]
  simp only [eq_comm]

/-- A constant is resolved when its layout has a number of elements and the
data are as many. -/
theorem resolveConstant_eq_ok_iff (elementType : ElementType) (layout : Layout)
    (data : ConstantData) (recorder after : Recorder σ) (array : NativeArray) :
    resolveConstant elementType layout data recorder = .ok array after <->
      BackendOperation.resolveConstant ∉ recorder.rejected ∧
        (∃ count, layout.elementCount? = some count ∧ data.length = count.toNat) ∧
        array = recorder.nextArray elementType .constant ∧
        after = recorder.withArray elementType layout .constant := by
  unfold resolveConstant
  rw [check_bind_eq_ok_iff]
  refine and_congr_right fun _ => ?_
  cases counted : layout.elementCount? with
  | none =>
      constructor
      · intro impossible
        cases impossible
      · rintro ⟨⟨_, impossible, _⟩, _⟩
        cases impossible
  | some count =>
      by_cases full : data.length = count.toNat
      · simp only [if_pos full, pushArray_apply, EStateM.Result.ok.injEq, eq_comm (b := array),
          eq_comm (b := after)]
        constructor
        · intro same
          exact ⟨⟨count, rfl, full⟩, same⟩
        · intro same
          exact same.2
      · simp only [if_neg full]
        constructor
        · intro impossible
          cases impossible
        · rintro ⟨⟨_, same, fits⟩, _⟩
          cases same
          exact absurd fits full

theorem firstInvalid?_eq_none_iff (extents : List Int) :
    firstInvalid? extents = none <-> forall extent, extent ∈ extents -> 0 < extent := by
  unfold firstInvalid?
  rw [List.find?_eq_none]
  constructor
  · intro fine extent member
    rcases List.mem_iff_getElem?.mp member with ⟨position, found⟩
    have checked := fine (extent, position) (List.mk_mem_zipIdx_iff_getElem?.mpr found)
    simpa using checked
  · rintro positive ⟨extent, position⟩ member
    have found := List.mk_mem_zipIdx_iff_getElem?.mp member
    have above := positive extent (List.mem_of_getElem? found)
    simpa using above

/-- The first extent that is not positive: all before it are. -/
theorem firstInvalid?_eq_some_iff (extents : List Int) (extent : Int) (dimension : Nat) :
    firstInvalid? extents = some (extent, dimension) <->
      extents[dimension]? = some extent ∧ extent <= 0 ∧
        forall earlier, earlier ∈ extents.take dimension -> 0 < earlier := by
  unfold firstInvalid?
  rw [List.find?_eq_some_iff_getElem]
  simp only [List.getElem_zipIdx, List.length_zipIdx, Nat.zero_add, decide_eq_true_eq,
    Bool.not_eq_true', decide_eq_false_iff_not, Int.not_le, Prod.mk.injEq]
  constructor
  · rintro ⟨invalid, _, within, ⟨rfl, rfl⟩, valid⟩
    refine ⟨List.getElem?_eq_getElem within, invalid, fun earlier member => ?_⟩
    rcases List.mem_take_iff_getElem.mp member with ⟨position, before, rfl⟩
    exact valid position (by omega)
  · rintro ⟨found, invalid, valid⟩
    rcases List.getElem?_eq_some_iff.mp found with ⟨within, rfl⟩
    refine ⟨invalid, dimension, within, ⟨rfl, rfl⟩, fun position before => ?_⟩
    exact valid _ (List.mem_take_iff_getElem.mpr ⟨position, by omega, rfl⟩)

/-- A space is created when every extent is positive. -/
theorem createSpace_eq_ok_iff (extents : List Int) (recorder after : Recorder σ)
    (space : NativeSpace) :
    createSpace extents recorder = .ok space after <->
      BackendOperation.createSpace ∉ recorder.rejected ∧
        (forall extent, extent ∈ extents -> 0 < extent) ∧
        space = recorder.nextSpace extents ∧ after = recorder.withSpace extents := by
  unfold createSpace
  rw [check_bind_eq_ok_iff, ← firstInvalid?_eq_none_iff]
  refine and_congr_right fun _ => ?_
  cases invalid : firstInvalid? extents with
  | some entry =>
      constructor
      · intro impossible
        cases impossible
      · rintro ⟨impossible, _⟩
        cases impossible
  | none =>
      have pushed : pushSpace extents recorder =
          .ok (recorder.nextSpace extents) (recorder.withSpace extents) := rfl
      simp only [pushed, EStateM.Result.ok.injEq, eq_comm (b := space), eq_comm (b := after),
        true_and]

/-- A kernel is registered in a space whose number is recorded. -/
theorem addKernel_eq_ok_iff (space : NativeSpace) (kernel : Kernel σ)
    (predicate : Option Predicate) (placement : Option Placement)
    (recorder after : Recorder σ) (done : Unit) :
    addKernel space kernel predicate placement recorder = .ok done after <->
      BackendOperation.addKernel ∉ recorder.rejected ∧
        (∃ known, known ∈ recorder.spaces ∧ known.id = space.id) ∧
        after = recorder.withKernel ⟨space.id, kernel, predicate, placement⟩ := by
  unfold addKernel
  refine (check_bind_eq_ok_iff _ _ _ _ _).trans (and_congr_right fun _ => ?_)
  by_cases known : recorder.spaces.any fun known => known.id = space.id
  · have recorded : ∃ known, known ∈ recorder.spaces ∧ known.id = space.id := by
      simpa using known
    simp only [if_pos known, EStateM.Result.ok.injEq, eq_comm (b := after), true_and]
    constructor
    · intro same
      exact ⟨recorded, same⟩
    · intro same
      exact same.2
  · have unknown : ¬ ∃ known, known ∈ recorder.spaces ∧ known.id = space.id := by
      simpa using known
    simp only [if_neg known]
    constructor
    · intro impossible
      cases impossible
    · intro registered
      exact absurd registered.1 unknown

end Recorder

/-! ## Operations that fail -/

/-- The failure is not that a space is unknown. -/
def BackendError.SpaceKnown (error : BackendError) : Prop :=
  forall space, error ≠ .unknownSpace space

namespace Recorder

variable {σ : Type} {recorder after : Recorder σ} {error : BackendError}

theorem check_bind_eq_error_iff {α : Type} (operation : BackendOperation)
    (next : Unit -> EStateM BackendError (Recorder σ) α) :
    (check operation >>= next) recorder = .error error after <->
      (operation ∈ recorder.rejected ∧ after = recorder ∧
          error = .rejected operation "rejected by test configuration") ∨
        (operation ∉ recorder.rejected ∧ next () recorder = .error error after) := by
  by_cases rejected : operation ∈ recorder.rejected
  · have failed : check operation recorder =
        .error (.rejected operation "rejected by test configuration") recorder := if_pos rejected
    rw [Outcome.bind_of_error failed, EStateM.Result.error.injEq]
    simp only [rejected, true_and, not_true_eq_false, false_and, or_false, eq_comm, and_comm]
  · have passed : check operation recorder = .ok () recorder := if_neg rejected
    rw [Outcome.bind_of_ok passed]
    simp [rejected]

/-- An operation that only records fails when it is rejected, and then without a
trace. -/
private theorem check_pushArray_eq_error_iff {operation : BackendOperation}
    {elementType : ElementType} {layout : Layout} {origin : ArrayOrigin} :
    (check operation >>= fun _ => pushArray elementType layout origin) recorder =
        .error error after <->
      operation ∈ recorder.rejected ∧ after = recorder ∧
        error = .rejected operation "rejected by test configuration" := by
  rw [check_bind_eq_error_iff]
  constructor
  · rintro (rejected | ⟨_, impossible⟩)
    · exact rejected
    · cases impossible
  · exact .inl

theorem allocate_eq_error_iff (elementType : ElementType) (layout : Layout) :
    allocate elementType layout recorder = .error error after <->
      BackendOperation.allocate ∈ recorder.rejected ∧ after = recorder ∧
        error = .rejected .allocate "rejected by test configuration" :=
  check_pushArray_eq_error_iff

theorem wrapArgument_eq_error_iff (elementType : ElementType) (layout : Layout) (buffer : UInt32) :
    wrapArgument elementType layout buffer recorder = .error error after <->
      BackendOperation.wrapArgument ∈ recorder.rejected ∧ after = recorder ∧
        error = .rejected .wrapArgument "rejected by test configuration" :=
  check_pushArray_eq_error_iff

theorem resolveConstant_eq_error_iff (elementType : ElementType) (layout : Layout)
    (data : ConstantData) :
    resolveConstant elementType layout data recorder = .error error after <->
      (BackendOperation.resolveConstant ∈ recorder.rejected ∧ after = recorder ∧
          error = .rejected .resolveConstant "rejected by test configuration") ∨
        (BackendOperation.resolveConstant ∉ recorder.rejected ∧ after = recorder ∧
          (layout.elementCount? = none ∧ error = .layoutOverflow layout.shape ∨
            ∃ count, layout.elementCount? = some count ∧ data.length ≠ count.toNat ∧
              error = .constantSizeMismatch count data.length)) := by
  unfold resolveConstant
  rw [check_bind_eq_error_iff]
  refine or_congr_right (and_congr_right fun _ => ?_)
  cases counted : layout.elementCount? with
  | none =>
      constructor
      · intro failed
        cases failed
        exact ⟨rfl, .inl ⟨rfl, rfl⟩⟩
      · rintro ⟨rfl, ⟨_, rfl⟩ | ⟨_, impossible, _⟩⟩
        · rfl
        · cases impossible
  | some count =>
      by_cases full : data.length = count.toNat
      · simp only [if_pos full]
        constructor
        · intro impossible
          cases impossible
        · rintro ⟨_, ⟨impossible, _⟩ | ⟨_, same, different, _⟩⟩
          · cases impossible
          · cases same
            exact absurd full different
      · simp only [if_neg full]
        constructor
        · intro failed
          cases failed
          exact ⟨rfl, .inr ⟨count, rfl, full, rfl⟩⟩
        · rintro ⟨rfl, ⟨impossible, _⟩ | ⟨_, same, _, rfl⟩⟩
          · cases impossible
          · cases same
            rfl

theorem createSpace_eq_error_iff (extents : List Int) :
    createSpace extents recorder = .error error after <->
      (BackendOperation.createSpace ∈ recorder.rejected ∧ after = recorder ∧
          error = .rejected .createSpace "rejected by test configuration") ∨
        (BackendOperation.createSpace ∉ recorder.rejected ∧ after = recorder ∧
          ∃ dimension extent, error = .invalidExtent dimension extent ∧
            firstInvalid? extents = some (extent, dimension)) := by
  unfold createSpace
  rw [check_bind_eq_error_iff]
  refine or_congr_right (and_congr_right fun _ => ?_)
  cases invalid : firstInvalid? extents with
  | none =>
      constructor
      · intro impossible
        cases impossible
      · rintro ⟨_, _, _, _, impossible⟩
        cases impossible
  | some entry =>
      constructor
      · intro failed
        cases failed
        exact ⟨rfl, entry.2, entry.1, rfl, rfl⟩
      · rintro ⟨rfl, _, _, rfl, same⟩
        cases same
        rfl

theorem addKernel_eq_error_iff (space : NativeSpace) (kernel : Kernel σ)
    (predicate : Option Predicate) (placement : Option Placement) :
    addKernel space kernel predicate placement recorder = .error error after <->
      (BackendOperation.addKernel ∈ recorder.rejected ∧ after = recorder ∧
          error = .rejected .addKernel "rejected by test configuration") ∨
        (BackendOperation.addKernel ∉ recorder.rejected ∧ after = recorder ∧
          (forall known, known ∈ recorder.spaces -> known.id ≠ space.id) ∧
          error = .unknownSpace space.id) := by
  unfold addKernel
  refine (check_bind_eq_error_iff _ _).trans (or_congr_right (and_congr_right fun _ => ?_))
  have unknown_iff : ¬ (recorder.spaces.any fun known => known.id = space.id) <->
      forall known, known ∈ recorder.spaces -> known.id ≠ space.id := by
    simp
  by_cases known : recorder.spaces.any fun known => known.id = space.id
  · simp only [if_pos known]
    constructor
    · intro impossible
      cases impossible
    · intro failed
      exact absurd known (unknown_iff.mpr failed.2.1)
  · simp only [if_neg known]
    constructor
    · intro failed
      cases failed
      exact ⟨rfl, unknown_iff.mp known, rfl⟩
    · rintro ⟨rfl, _, rfl⟩
      rfl

/-! ## Failures leave no trace -/

theorem allocate_of_error {elementType : ElementType} {layout : Layout}
    (failed : allocate elementType layout recorder = .error error after) :
    after = recorder ∧ error.SpaceKnown := by
  rcases (allocate_eq_error_iff _ _).mp failed with ⟨_, rfl, rfl⟩
  exact ⟨rfl, nofun⟩

theorem wrapArgument_of_error {elementType : ElementType} {layout : Layout} {buffer : UInt32}
    (failed : wrapArgument elementType layout buffer recorder = .error error after) :
    after = recorder ∧ error.SpaceKnown := by
  rcases (wrapArgument_eq_error_iff _ _ _).mp failed with ⟨_, rfl, rfl⟩
  exact ⟨rfl, nofun⟩

theorem resolveConstant_of_error {elementType : ElementType} {layout : Layout}
    {data : ConstantData}
    (failed : resolveConstant elementType layout data recorder = .error error after) :
    after = recorder ∧ error.SpaceKnown := by
  rcases (resolveConstant_eq_error_iff _ _ _).mp failed with
    ⟨_, rfl, rfl⟩ | ⟨_, rfl, ⟨_, rfl⟩ | ⟨_, _, _, rfl⟩⟩
  · exact ⟨rfl, nofun⟩
  · exact ⟨rfl, nofun⟩
  · exact ⟨rfl, nofun⟩

theorem createSpace_of_error {extents : List Int}
    (failed : createSpace extents recorder = .error error after) :
    after = recorder ∧ error.SpaceKnown := by
  rcases (createSpace_eq_error_iff _).mp failed with
    ⟨_, rfl, rfl⟩ | ⟨_, rfl, _, _, rfl, _⟩
  · exact ⟨rfl, nofun⟩
  · exact ⟨rfl, nofun⟩

/-- A space is unknown only if no recorded space has its number. -/
theorem addKernel_of_error {space : NativeSpace} {kernel : Kernel σ}
    {predicate : Option Predicate} {placement : Option Placement}
    (failed : addKernel space kernel predicate placement recorder = .error error after) :
    after = recorder ∧
      (error.SpaceKnown ∨ forall known, known ∈ recorder.spaces -> known.id ≠ space.id) := by
  rcases (addKernel_eq_error_iff _ _ _ _).mp failed with
    ⟨_, rfl, rfl⟩ | ⟨_, rfl, unknown, rfl⟩
  · exact ⟨rfl, .inl nofun⟩
  · exact ⟨rfl, .inr unknown⟩

end Recorder

end LoopNest
