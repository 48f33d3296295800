import Mathlib.Logic.Relation
import LoopNest.Proofs.Native.Recorder

namespace LoopNest

/-!
# How the logs of a recorder grow

Whatever is done with a recorder comes down to four changes: one entry more in
one of the three logs, or another choice of the operations to reject.  So an
entry that is logged keeps its position, and its position is its number.

An array or a native index that is handed out after some moment is therefore
told apart from all that were there at that moment: it stands behind them in
its log.
-/

/-- The native values in the body of a recorded kernel. -/
def RecordedKernel.natives {σ : Type} (entry : RecordedKernel σ) : List NativeValue :=
  match entry.kernel.body with
  | .bound _ substitution => substitution.entries.flatMap fun replaced => replaced.2.natives
  | .action _ => []

namespace Recorder

variable {σ : Type}

/-- One thing that can happen to a recorder. -/
inductive Change (recorder : Recorder σ) : Recorder σ -> Prop
  | array (elementType : ElementType) (layout : Layout) (origin : ArrayOrigin) :
      Change recorder (recorder.withArray elementType layout origin)
  | space (extents : List Int) : Change recorder (recorder.withSpace extents)
  | kernel (entry : RecordedKernel σ) : Change recorder (recorder.withKernel entry)
  | rejected (operations : List BackendOperation) :
      Change recorder { recorder with rejected := operations }

/-- Any number of changes. -/
abbrev Changes : Recorder σ -> Recorder σ -> Prop :=
  Relation.ReflTransGen Change

/-! ## Calls -/

/-- A use of a recorder by itself. -/
inductive Call (σ : Type) where
  | createSpace (extents : List Int)
  | allocate (elementType : ElementType) (layout : Layout)
  | resolveConstant (elementType : ElementType) (layout : Layout) (data : ConstantData)
  | wrapArgument (elementType : ElementType) (layout : Layout) (buffer : UInt32)
  | addKernel (space : NativeSpace) (kernel : Kernel σ) (predicate : Option Predicate)
      (placement : Option Placement)
  | reject (operation : BackendOperation)
  | acceptAll

/-- The recorder after a call, whether the call gave a result or failed. -/
def afterCall (recorder : Recorder σ) : Call σ -> Recorder σ
  | .createSpace extents => Outcome.state (createSpace extents recorder)
  | .allocate elementType layout => Outcome.state (allocate elementType layout recorder)
  | .resolveConstant elementType layout data =>
      Outcome.state (resolveConstant elementType layout data recorder)
  | .wrapArgument elementType layout buffer =>
      Outcome.state (wrapArgument elementType layout buffer recorder)
  | .addKernel space kernel predicate placement =>
      Outcome.state (addKernel space kernel predicate placement recorder)
  | .reject operation => recorder.reject operation
  | .acceptAll => recorder.acceptAll

/-- The recorder after calls in order. -/
def afterCalls (recorder : Recorder σ) (calls : List (Call σ)) : Recorder σ :=
  calls.foldl afterCall recorder

/-! ## Logs only grow -/

/-- The logs of the earlier recorder are where the later logs begin. -/
structure Grows (earlier later : Recorder σ) : Prop where
  spaces : earlier.spaces <+: later.spaces
  arrays : earlier.arrays <+: later.arrays
  kernels : earlier.kernels <+: later.kernels

theorem Grows.refl (recorder : Recorder σ) : Grows recorder recorder :=
  ⟨List.prefix_refl _, List.prefix_refl _, List.prefix_refl _⟩

theorem Grows.trans {first second third : Recorder σ} (begun : Grows first second)
    (continued : Grows second third) : Grows first third :=
  ⟨begun.spaces.trans continued.spaces, begun.arrays.trans continued.arrays,
    begun.kernels.trans continued.kernels⟩

theorem Change.grows {recorder after : Recorder σ} (change : Change recorder after) :
    Grows recorder after := by
  cases change with
  | array elementType layout origin =>
      exact ⟨List.prefix_refl _, List.prefix_append _ _, List.prefix_refl _⟩
  | space extents => exact ⟨List.prefix_append _ _, List.prefix_refl _, List.prefix_refl _⟩
  | kernel entry => exact ⟨List.prefix_refl _, List.prefix_refl _, List.prefix_append _ _⟩
  | rejected operations => exact ⟨List.prefix_refl _, List.prefix_refl _, List.prefix_refl _⟩

theorem Changes.grows {recorder after : Recorder σ} (changes : Changes recorder after) :
    Grows recorder after := by
  induction changes with
  | refl => exact .refl recorder
  | tail _ change inductionHypothesis => exact inductionHypothesis.trans change.grows

/-- The numbers of arrays and spaces fit their words. -/
structure Fits (recorder : Recorder σ) : Prop where
  arrays : recorder.arrays.length <= UInt32.size
  spaces : recorder.spaces.length <= UInt32.size

theorem Fits.earlier {earlier later : Recorder σ} (fits : later.Fits)
    (grows : Grows earlier later) : earlier.Fits :=
  ⟨Nat.le_trans grows.arrays.length_le fits.arrays,
    Nat.le_trans grows.spaces.length_le fits.spaces⟩

/-! ## Positions are numbers -/

/-- Every array and every space has its position as its number. -/
structure Numbered (recorder : Recorder σ) : Prop where
  arrays : forall {position : Nat} {entry : NativeArray × Layout},
    recorder.arrays[position]? = some entry -> entry.1.id = UInt32.ofNat position
  spaces : forall {position : Nat} {space : NativeSpace},
    recorder.spaces[position]? = some space ->
      ∃ extents, space = NativeSpace.ofExtents ⟨UInt32.ofNat position⟩ extents

theorem numbered_empty : Numbered (empty : Recorder σ) where
  arrays := by
    intro position entry found
    cases found
  spaces := by
    intro position space found
    cases found

/-- What stands in a list with one more element at its end. -/
theorem getElem?_concat {α : Type} {items : List α} {last item : α} {position : Nat}
    (found : (items ++ [last])[position]? = some item) :
    items[position]? = some item ∨ position = items.length ∧ item = last := by
  rw [List.getElem?_append] at found
  split at found
  · exact .inl found
  · next beyond =>
      rw [List.getElem?_singleton] at found
      split at found
      · next first =>
          cases found
          exact .inr ⟨by omega, rfl⟩
      · cases found

theorem Change.numbered {recorder after : Recorder σ} (change : Change recorder after)
    (numbered : recorder.Numbered) : after.Numbered := by
  cases change with
  | array elementType layout origin =>
      refine ⟨?_, numbered.spaces⟩
      intro position entry found
      rcases getElem?_concat found with earlier | ⟨rfl, rfl⟩
      · exact numbered.arrays earlier
      · rfl
  | space extents =>
      refine ⟨numbered.arrays, ?_⟩
      intro position space found
      rcases getElem?_concat found with earlier | ⟨rfl, rfl⟩
      · exact numbered.spaces earlier
      · exact ⟨extents, rfl⟩
  | kernel entry => exact ⟨numbered.arrays, numbered.spaces⟩
  | rejected operations => exact ⟨numbered.arrays, numbered.spaces⟩

theorem Changes.numbered {recorder after : Recorder σ} (changes : Changes recorder after)
    (numbered : recorder.Numbered) : after.Numbered := by
  induction changes with
  | refl => exact numbered
  | tail _ change inductionHypothesis => exact change.numbered inductionHypothesis

/-- Arrays that are logged from some moment on have their positions as their
numbers, whatever was logged before. -/
theorem Changes.array_numbered {recorder after : Recorder σ} (changes : Changes recorder after)
    {position : Nat} {entry : NativeArray × Layout} (later : recorder.arrays.length <= position)
    (found : after.arrays[position]? = some entry) : entry.1.id = UInt32.ofNat position := by
  induction changes with
  | refl => exact absurd (List.getElem?_eq_some_iff.mp found).1 (Nat.not_lt_of_le later)
  | tail _ change inductionHypothesis =>
      cases change with
      | array elementType layout origin =>
          rcases getElem?_concat found with earlier | ⟨rfl, rfl⟩
          · exact inductionHypothesis earlier
          · rfl
      | space extents => exact inductionHypothesis found
      | kernel entry => exact inductionHypothesis found
      | rejected operations => exact inductionHypothesis found

/-! ## What is handed out -/

/-- A native value that the recorder handed out after it was as `base`: an
array or an index of a space that stands behind the entries of `base`.  A
scalar is not handed out by anyone. -/
inductive HandedOut (base recorder : Recorder σ) : NativeValue -> Prop
  | array {position : Nat} {array : NativeArray} {layout : Layout}
      (later : base.arrays.length <= position)
      (logged : recorder.arrays[position]? = some (array, layout)) :
      HandedOut base recorder (.array array)
  | index {position : Nat} {space : NativeSpace} {index : NativeIndex}
      (later : base.spaces.length <= position)
      (logged : recorder.spaces[position]? = some space) (member : index ∈ space.indices) :
      HandedOut base recorder (.index index)
  | scalar (value : Scalar) : HandedOut base recorder (.scalar value)

private theorem getElem?_of_begins {α : Type} {first second : List α} (earlier : first <+: second)
    {position : Nat} {item : α} (found : first[position]? = some item) :
    second[position]? = some item := by
  rcases earlier with ⟨rest, rfl⟩
  rw [List.getElem?_append_left (List.getElem?_eq_some_iff.mp found).1]
  exact found

/-- A logged kernel keeps its position. -/
theorem Grows.getElem?_kernels {earlier later : Recorder σ} (grows : Grows earlier later)
    {position : Nat} {entry : RecordedKernel σ} (logged : earlier.kernels[position]? = some entry) :
    later.kernels[position]? = some entry :=
  getElem?_of_begins grows.kernels logged

/-- What was handed out stays so. -/
theorem HandedOut.mono {base recorder after : Recorder σ} {native : NativeValue}
    (handedOut : HandedOut base recorder native) (grows : Grows recorder after) :
    HandedOut base after native := by
  cases handedOut with
  | array later logged => exact .array later (getElem?_of_begins grows.arrays logged)
  | index later logged member => exact .index later (getElem?_of_begins grows.spaces logged) member
  | scalar value => exact .scalar value

/-- The array that is recorded next. -/
theorem handedOut_nextArray {base recorder : Recorder σ} (grows : Grows base recorder)
    (elementType : ElementType) (layout : Layout) (origin : ArrayOrigin) :
    HandedOut base (recorder.withArray elementType layout origin)
      (.array (recorder.nextArray elementType origin)) :=
  .array grows.arrays.length_le List.getElem?_concat_length

/-- The indices of the space that is recorded next. -/
theorem handedOut_nextSpace {base recorder : Recorder σ} (grows : Grows base recorder)
    (extents : List Int) {index : NativeIndex}
    (member : index ∈ (recorder.nextSpace extents).indices) :
    HandedOut base (recorder.withSpace extents) (.index index) :=
  .index grows.spaces.length_le List.getElem?_concat_length member

section Numbers

variable {base recorder : Recorder σ}

/-- As long as numbers fit their words, that of an array tells when the array
was handed out. -/
theorem HandedOut.array_number (numbered : recorder.Numbered)
    (room : recorder.arrays.length <= UInt32.size) {array : NativeArray}
    (handedOut : HandedOut base recorder (.array array)) :
    base.arrays.length <= array.id.toNat ∧ array.id.toNat < recorder.arrays.length := by
  cases handedOut with
  | array later logged =>
      have within := (List.getElem?_eq_some_iff.mp logged).1
      have number := congrArg UInt32.toNat (numbered.arrays logged)
      rw [UInt32.toNat_ofNat_of_lt' (Nat.lt_of_lt_of_le within room)] at number
      rw [number]
      exact ⟨later, within⟩

/-- The number of a recorded space is its position. -/
theorem Numbered.space_number (numbered : recorder.Numbered)
    (room : recorder.spaces.length <= UInt32.size) {position : Nat} {space : NativeSpace}
    (logged : recorder.spaces[position]? = some space) : space.id.raw.toNat = position := by
  have within := (List.getElem?_eq_some_iff.mp logged).1
  rcases numbered.spaces logged with ⟨extents, rfl⟩
  exact UInt32.toNat_ofNat_of_lt' (Nat.lt_of_lt_of_le within room)

/-- An index of a recorded space names that space and one of its dimensions. -/
theorem Numbered.index (numbered : recorder.Numbered) {position : Nat} {space : NativeSpace}
    (logged : recorder.spaces[position]? = some space) {index : NativeIndex}
    (member : index ∈ space.indices) :
    index.space = space.id ∧ index.dimension.toNat < space.rank := by
  rcases numbered.spaces logged with ⟨extents, rfl⟩
  rcases List.mem_map.mp member with ⟨dimension, counted, rfl⟩
  rw [NativeSpace.rank_ofExtents]
  have small : (UInt32.ofNat dimension).toNat = dimension % 2 ^ 32 := UInt32.toNat_ofNat
  exact ⟨rfl, Nat.lt_of_le_of_lt (small ▸ Nat.mod_le _ _) (List.mem_range.mp counted)⟩

end Numbers

end Recorder

end LoopNest
