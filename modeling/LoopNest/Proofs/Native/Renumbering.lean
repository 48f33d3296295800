import LoopNest.Pass.Basic
import LoopNest.Plan.Lowering
import LoopNest.Native.Recorder

namespace LoopNest

/-!
# Shifting numbers

A recorder numbers what it hands out by the lengths of its logs.  So the same
requests to two recorders are answered by the same handles, except that the
numbers of spaces and of arrays are apart by the differences of the lengths.
A shift adds such differences wherever a number occurs: in a native value, in
what is substituted, in a kernel, in an identity map, in the result of a pass.

Numbers are words, and a shift goes around when it leaves their range.  It is
undone by the opposite shift, so it never makes two handles equal.
-/

/-- What is added to the numbers of spaces and of arrays. -/
structure Shift where
  spaces : Int
  arrays : Int

namespace Shift

variable {σ : Type}

/-- The shift from the numbers that one recorder gives next to those that
another one gives. -/
def between (first second : Recorder σ) : Shift :=
  { spaces := (second.spaces.length : Int) - first.spaces.length
    arrays := (second.arrays.length : Int) - first.arrays.length }

/-- A number with the difference added. -/
def number (difference : Int) (word : UInt32) : UInt32 :=
  word + UInt32.ofInt difference

theorem ofInt_natCast (count : Nat) : UInt32.ofInt (count : Int) = UInt32.ofNat count := by
  apply UInt32.toNat_inj.mp
  simp only [UInt32.ofInt, UInt32.toNat_ofNat']
  omega

/-- The difference is what it says as long as the sum fits the word. -/
theorem toNat_number {difference : Int} {word : UInt32} (above : 0 <= word.toNat + difference)
    (below : word.toNat + difference < UInt32.size) :
    ((number difference word).toNat : Int) = word.toNat + difference := by
  have same : number difference word = UInt32.ofInt (word.toNat + difference) := by
    rw [UInt32.ofInt_add, ofInt_natCast, UInt32.ofNat_toNat, number]
  have size : UInt32.size = 2 ^ 32 := rfl
  rw [same, UInt32.ofInt, UInt32.toNat_ofNat_of_lt'] <;> omega

theorem number_injective (difference : Int) {first second : UInt32}
    (same : number difference first = number difference second) : first = second :=
  (UInt32.add_left_inj _).mp same

/-- The numbers that two recorders give after as many requests. -/
theorem number_ofNat (first second count : Nat) :
    number ((second : Int) - first) (UInt32.ofNat (first + count)) =
      UInt32.ofNat (second + count) := by
  rw [number, ← ofInt_natCast, ← ofInt_natCast, ← UInt32.ofInt_add]
  congr 1
  omega

def spaceId (shift : Shift) (id : SpaceId) : SpaceId :=
  ⟨number shift.spaces id.raw⟩

def index (shift : Shift) (native : NativeIndex) : NativeIndex :=
  ⟨shift.spaceId native.space, native.dimension⟩

def array (shift : Shift) (native : NativeArray) : NativeArray :=
  { native with id := number shift.arrays native.id }

def space (shift : Shift) (native : NativeSpace) : NativeSpace :=
  { native with
    id := shift.spaceId native.id
    indices := native.indices.map shift.index }

def value (shift : Shift) : NativeValue -> NativeValue
  | .index native => .index (shift.index native)
  | .array native => .array (shift.array native)
  | .scalar scalar => .scalar scalar

def replacement (shift : Shift) : Replacement -> Replacement
  | .value native => .value (shift.value native)
  | .sequence natives => .sequence (natives.map shift.value)

def replaced (shift : Shift) (entry : String × Replacement) : String × Replacement :=
  (entry.1, shift.replacement entry.2)

def substitution (shift : Shift) (substitution : Substitution) : Substitution :=
  ⟨substitution.entries.map shift.replaced⟩

/-- Native values in an action that is no logic function are unknown. -/
def body (shift : Shift) : KernelBody σ -> KernelBody σ
  | .bound logic substitution => .bound logic (shift.substitution substitution)
  | .action run => .action run

def kernel (shift : Shift) (kernel : Kernel σ) : Kernel σ :=
  { kernel with
    indices := kernel.indices.map shift.index
    body := shift.body kernel.body }

def recordedArray (shift : Shift) (entry : NativeArray × Layout) : NativeArray × Layout :=
  (shift.array entry.1, entry.2)

def recordedKernel (shift : Shift) (entry : RecordedKernel σ) : RecordedKernel σ :=
  { entry with
    space := shift.spaceId entry.space
    kernel := shift.kernel entry.kernel }

def identities (shift : Shift) (identities : IdentityMap) : IdentityMap :=
  identities.map fun _ native => shift.value native

def lowered (shift : Shift) (lowered : LoweredNest) : LoweredNest :=
  { lowered with
    space := shift.space lowered.space
    identities := shift.identities lowered.identities }

/-! ## Shifted handles -/

variable (shift : Shift)

theorem index_injective {first second : NativeIndex}
    (same : shift.index first = shift.index second) : first = second := by
  rcases first with ⟨⟨firstRaw⟩, firstDimension⟩
  rcases second with ⟨⟨secondRaw⟩, secondDimension⟩
  have parts := NativeIndex.mk.inj same
  have raws : firstRaw = secondRaw := number_injective shift.spaces (SpaceId.mk.inj parts.1)
  have dimensions : firstDimension = secondDimension := parts.2
  rw [raws, dimensions]

theorem space_ofExtents (id : SpaceId) (extents : List Int) :
    shift.space (.ofExtents id extents) = .ofExtents (shift.spaceId id) extents := by
  simp only [space, NativeSpace.ofExtents, List.map_map]
  rfl

theorem natives_replacement (replacement : Replacement) :
    (shift.replacement replacement).natives = replacement.natives.map shift.value := by
  cases replacement <;> rfl

theorem index?_value (native : NativeValue) :
    (shift.value native).index? = native.index?.map shift.index := by
  cases native <;> rfl

theorem index_beq (first second : NativeIndex) :
    (shift.index first == shift.index second) = (first == second) := by
  rw [Bool.eq_iff_iff, beq_iff_eq, beq_iff_eq]
  exact ⟨shift.index_injective, congrArg shift.index⟩

/-- Shifting keeps the first of equal indices where it is. -/
theorem eraseDups_map (indices : List NativeIndex) :
    (indices.map shift.index).eraseDups = indices.eraseDups.map shift.index := by
  -- The recursion is over a filtered rest, so the induction is on the length.
  induction length : indices.length using Nat.strongRecOn generalizing indices with
  | ind _ inductionHypothesis =>
      cases indices with
      | nil => rfl
      | cons first rest =>
          have others : ((rest.map shift.index).filter fun other => !other == shift.index first) =
              (rest.filter fun other => !other == first).map shift.index := by
            rw [List.filter_map]
            simp only [Function.comp_def, index_beq]
          have shorter := List.length_filter_le (fun other => !other == first) rest
          rw [List.length_cons] at length
          rw [List.map_cons, List.eraseDups_cons, List.eraseDups_cons, List.map_cons, others]
          exact congrArg _ (inductionHypothesis _ (by omega) _ rfl)

theorem nativeIndices_substitution (substitution : Substitution) :
    (shift.substitution substitution).nativeIndices =
      substitution.nativeIndices.map shift.index := by
  have natives : ((substitution.entries.map shift.replaced).flatMap fun entry =>
      entry.2.natives) =
        (substitution.entries.flatMap fun entry => entry.2.natives).map shift.value := by
    rw [List.flatMap_map, List.map_flatMap]
    simp only [replaced, natives_replacement]
  have indices (values : List NativeValue) :
      (values.map shift.value).filterMap NativeValue.index? =
        (values.filterMap NativeValue.index?).map shift.index := by
    rw [List.filterMap_map, List.map_filterMap]
    simp only [Function.comp_def, index?_value]
  simp only [Substitution.nativeIndices, Shift.substitution, natives, indices, eraseDups_map]

theorem kernel_ofLogic (logic : LogicFunction σ) (substitution : Substitution) :
    shift.kernel (.ofLogic logic substitution) =
      .ofLogic logic (shift.substitution substitution) := by
  simp only [kernel, Kernel.ofLogic, body, nativeIndices_substitution]

theorem getElem?_identities (identities : IdentityMap) (token : Token) :
    (shift.identities identities)[token]? = identities[token]?.map shift.value :=
  Std.ExtTreeMap.getElem?_map

theorem identities_insert (identities : IdentityMap) (token : Token) (native : NativeValue) :
    shift.identities (identities.insert token native) =
      (shift.identities identities).insert token (shift.value native) := by
  apply Std.ExtTreeMap.ext_getElem?
  intro other
  rw [getElem?_identities, Std.ExtTreeMap.getElem?_insert, Std.ExtTreeMap.getElem?_insert,
    getElem?_identities]
  split <;> rfl

end Shift

end LoopNest
