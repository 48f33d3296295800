import LoopNest.Proofs.Nest.Steps
import LoopNest.Proofs.Pass.Contexts
import LoopNest.Proofs.Pass.Supplying

namespace LoopNest

/-!
# What building a nest leaves in a context

Three things write the identity map of a context: what was built and resolved in
it before, the arguments, and the loop indices of the nest, in this order.  So a
loop index has the native index of its dimension even if an argument carries its
token, and an argument has its value even if there was an entry before.

When building fails, what was recorded until then stays, but the context is in
the space that it was in before.
-/

namespace Nest

variable {σ : Type}

/-- The entries of loop indices in a space, dimension by dimension. -/
def nativeEntries (indices : List LoopIndex) (space : SpaceId) : List (Token × NativeValue) :=
  indices.mapIdx fun dimension index => (index.id, .index ⟨space, UInt32.ofNat dimension⟩)

theorem mem_nativeEntries_iff {indices : List LoopIndex} {space : SpaceId}
    {entry : Token × NativeValue} :
    entry ∈ nativeEntries indices space <-> ∃ dimension index,
      indices[dimension]? = some index ∧
        entry = (index.id, .index ⟨space, UInt32.ofNat dimension⟩) := by
  unfold nativeEntries
  rw [List.mem_mapIdx]
  constructor
  · rintro ⟨dimension, within, rfl⟩
    exact ⟨dimension, _, List.getElem?_eq_getElem within, rfl⟩
  · rintro ⟨dimension, index, found, rfl⟩
    rcases List.getElem?_eq_some_iff.mp found with ⟨within, rfl⟩
    exact ⟨dimension, within, rfl⟩

end Nest

namespace Pass

variable {σ : Type}

/-- The entries that entering a space writes. -/
theorem identities_inSpace (pass : Pass (Recorder σ) σ) {indices : List LoopIndex}
    {numbers : List Int} (complete : numbers.length = indices.length) :
    (pass.inSpace indices numbers).identities =
      pass.identities.insertMany
        (Nest.nativeEntries indices (pass.backend.nextSpace numbers).id) := by
  have entries : ((indices.zip (pass.backend.nextSpace numbers).indices).map fun entry =>
      (entry.1.id, NativeValue.index entry.2)) =
        Nest.nativeEntries indices (pass.backend.nextSpace numbers).id := by
    apply List.ext_getElem
    · simp [Nest.nativeEntries, length_indices_nextSpace, complete]
    · intro dimension _ _
      simp [Nest.nativeEntries, Recorder.nextSpace, NativeSpace.ofExtents]
  rw [← entries]
  exact Nest.withIndices_eq_insertMany _ _

end Pass

namespace Nest

variable {σ : Type} {nest : Nest σ}

/-- A loop index of a nest has the native index of its dimension, whatever was
recorded under its token before. -/
theorem Declared.getElem?_nativeEntries (declared : nest.Declared) {dimension : Nat}
    {index : LoopIndex} (found : nest.ownIndices[dimension]? = some index) (space : SpaceId)
    (identities : IdentityMap) :
    (identities.insertMany (nativeEntries nest.ownIndices space))[index.id]? =
      some (.index ⟨space, UInt32.ofNat dimension⟩) := by
  rcases declared.tokens with ⟨start, tokens⟩
  refine IdentityMap.getElem?_insertMany_of_agree
    (mem_nativeEntries_iff.mpr ⟨dimension, index, found, rfl⟩) ?_ identities
  -- Tokens come around, and so do the numbers of dimensions.
  intro other member
  rcases mem_nativeEntries_iff.mp member with ⟨another, sharing, foundToo, same⟩
  rcases Prod.mk.inj same with ⟨shared, rfl⟩
  have counted := Token.mk.inj ((tokens found).symm.trans (shared.trans (tokens foundToo)))
  rw [UInt32.ofNat_add, UInt32.ofNat_add, UInt32.add_right_inj] at counted
  rw [counted]

/-- The first extent that is still deferred is told by the error. -/
theorem extentsFrom_of_first {extents : List (Extent σ)} {dimension : Nat} {value : Deferred σ}
    (first : FirstAt (fun extent => extent.isDeferred = true) extents dimension (.deferred value))
    (position : Nat) :
    extentsFrom position extents = .error (.unresolvedShape (position + dimension) value.name) := by
  induction extents generalizing position dimension with
  | nil => cases first.found
  | cons extent rest inductionHypothesis =>
      cases dimension with
      | zero =>
          cases first.found
          rfl
      | succ dimension =>
          rcases FirstAt.cons_succ_iff.mp first with ⟨skips, later⟩
          cases extent with
          | deferred _ => exact absurd rfl skips
          | fixed number =>
              rw [extentsFrom, inductionHypothesis later, Nat.add_right_comm, Nat.add_assoc]
              rfl

theorem exists_first_of_deferred {extent : Extent σ} (member : extent ∈ nest.shape.toList)
    (deferred : extent.isDeferred = true) :
    ∃ dimension value,
      FirstAt (fun extent => extent.isDeferred = true) nest.shape.toList dimension
        (.deferred value) ∧
      nest.extents = .error (.unresolvedShape dimension value.name) := by
  rcases FirstAt.exists_or_forall (fun extent => extent.isDeferred = true) nest.shape.toList with
    ⟨dimension, extent, first⟩ | none
  · cases extent with
    | fixed number => cases first.here
    | deferred value =>
        refine ⟨dimension, value, first, ?_⟩
        rw [shape, Dims.toList_ofList] at first
        have failed := extentsFrom_of_first first 0
        rw [Nat.zero_add] at failed
        exact failed
  · exact absurd deferred (none extent member)

/-- The current extents are numbers if they give numbers. -/
theorem shape_of_extents {numbers : List Int} (fixed : nest.extents = .ok numbers) :
    nest.shape.toList = numbers.map .fixed :=
  (Dims.toList_ofList _).trans (eq_of_extentsFrom fixed)

/-- A pass that built the space recorded all arguments before. -/
theorem buildSpace_eq_supplied {pass after : Pass (Recorder σ) σ}
    (built : nest.buildSpace pass = .ok () after) :
    ∃ numbers, nest.extents = .ok numbers ∧
      pass.Supplies pass.arguments.pairs (pass.supplied pass.arguments.pairs) ∧
      after = (pass.supplied pass.arguments.pairs).inSpace nest.ownIndices numbers := by
  rcases exists_extents_of_ok built with ⟨numbers, fixed⟩
  rcases (buildSpace_eq_ok_iff_of_extents fixed _ _).mp built with ⟨_, recorded, _, _, rfl⟩
  have seeded := ((Pass.seedArguments_eq_ok_iff _ _ _).mp recorded).2
  rcases Pass.supplied_of_seedFrom seeded with ⟨takes, rfl⟩
  exact ⟨numbers, fixed, Pass.supplies_supplied takes, rfl⟩

/-- After a nest was built, the context is in a new space with the extents of
the nest.  What was recorded before is overridden by the arguments in order, and
these are overridden by the loop indices: each of them has the native index of
its dimension, and any other token has the value that the arguments left.  If
building fails, the context is in no new space; while an extent is deferred, the
first one is the error, and nothing at all is changed. -/
theorem context_after_building (declared : nest.Declared) (pass : Pass (Recorder σ) σ) :
    (forall done after, nest.buildSpace pass = .ok done after ->
      ∃ space seeded,
        (after.space = some space ∧
          after.backend.spaces = pass.backend.spaces ++ [space] ∧
          space.id = ⟨UInt32.ofNat pass.backend.spaces.length⟩ ∧
          nest.shape.toList = space.extents.map .fixed) ∧
        after.identities =
          (pass.identities.insertMany
            (Arguments.entries pass.backend.arrays.length pass.arguments.pairs)).insertMany
              (nativeEntries nest.indices.toList space.id) ∧
        pass.Supplies pass.arguments.pairs seeded ∧
        (forall (dimension : Nat) (index : LoopIndex),
          nest.indices.toList[dimension]? = some index ->
            after.identities[index.id]? = some (.index ⟨space.id, UInt32.ofNat dimension⟩)) ∧
        forall token : Token, token ∉ nest.indices.toList.map LoopIndex.id ->
          after.identities[token]? = seeded.identities[token]?) ∧
    (forall error after, nest.buildSpace pass = .error error after ->
      after.space = pass.space ∧ after.backend.spaces = pass.backend.spaces) ∧
    (forall extent, extent ∈ nest.shape.toList -> extent.isDeferred = true ->
      ∃ dimension value,
        FirstAt (fun extent => extent.isDeferred = true) nest.shape.toList dimension
          (.deferred value) ∧
        nest.buildSpace pass = .error (.unresolvedShape dimension value.name) pass) := by
  have own : nest.indices.toList = nest.ownIndices := Dims.toList_ofList _
  rw [own]
  refine ⟨?ok, ?error, ?deferred⟩
  case ok =>
    intro done after built
    rcases buildSpace_eq_supplied built with ⟨numbers, fixed, supplies, rfl⟩
    have complete : numbers.length = nest.ownIndices.length :=
      (length_of_extents fixed).trans (List.length_map _).symm
    have written := Pass.identities_inSpace (pass.supplied pass.arguments.pairs) complete
    refine ⟨_, _, ⟨rfl, rfl, rfl, shape_of_extents fixed⟩, written, supplies, ?_, ?_⟩
    · intro dimension index found
      rw [written]
      exact declared.getElem?_nativeEntries found _ _
    · intro token absent
      exact Pass.getElem?_inSpace_of_notMem _ complete absent
  case error =>
    intro error after failed
    have continues := continues_of_buildSpace_error failed
    exact ⟨continues.space, continues.spaces⟩
  case deferred =>
    intro extent member deferred
    rcases exists_first_of_deferred member deferred with ⟨dimension, value, first, unresolved⟩
    exact ⟨dimension, value, first, buildSpace_of_unresolved unresolved⟩

end Nest

/-! ## A context that was used before -/

namespace Sample

/-- A nest over three by two iterations. -/
def plane : Nest Unit :=
  ((Nest.declare [.fixed 3, .fixed 2]).run Arena.empty).1

theorem plane_declared : plane.Declared :=
  .declare [.fixed 3, .fixed 2] Arena.empty

/-- The inner loop index of the plane. -/
def inner : LoopIndex :=
  ⟨⟨1⟩, ⟨0⟩, 1⟩

def series : ArrayHandle :=
  ⟨⟨⟨2⟩, .input, .float64, ⟨[3], .first⟩, none⟩, by decide⟩

/-- A context with these arguments. -/
def freshContext (arguments : Arguments Unit) : Pass (Recorder Unit) Unit :=
  Pass.start Recorder.empty (Store.initial ()) arguments .lenient

/-- The inner loop index is an argument, and one array is an argument twice. -/
def repeated : Arguments Unit :=
  ⟨[.array series, .index inner, .array series], [.buffer 0, .scalar (.int 7), .buffer 1]⟩

/-- The context after the plane was built in it once. -/
def usedContext : Pass (Recorder Unit) Unit :=
  Outcome.state (plane.buildSpace (freshContext repeated))

theorem usedContext_arguments : usedContext.arguments = repeated := by
  have succeeds : Outcome.Succeeds plane.buildSpace (freshContext repeated) := by decide +kernel
  rcases succeeds with ⟨done, after, built⟩
  rcases Nest.buildSpace_eq_supplied built with ⟨_, _, _, rfl⟩
  rw [usedContext, built]
  rfl

theorem plane_built_again : Outcome.Succeeds plane.buildSpace usedContext := by
  decide +kernel

end Sample

namespace Nest

/-- When the plane is built again, its inner loop index is that of the second
space, and the array is the last one that was wrapped for it. -/
theorem context_after_rebuilding :
    ∃ after space, Sample.plane.buildSpace Sample.usedContext = .ok () after ∧
      after.space = some space ∧ space.id = ⟨1⟩ ∧
      after.identities[Sample.inner.id]? = some (.index ⟨space.id, 1⟩) ∧
      after.identities[Sample.series.id]? = some (.array (Sample.series.wrappedAs 3)) := by
  rcases Sample.plane_built_again with ⟨done, after, built⟩
  rcases context_after_building Sample.plane_declared Sample.usedContext with ⟨ok, _, _⟩
  rcases ok done after built with
    ⟨space, seeded, ⟨entered, _, numbered, _⟩, _, supplies, own, others⟩
  refine ⟨after, space, built, entered, ?_, own 1 Sample.inner rfl, ?_⟩
  · exact numbered.trans (by decide +kernel)
  · have paired : Sample.usedContext.arguments.pairs =
        [(.array Sample.series, .buffer 0), (.index Sample.inner, .scalar (.int 7))] ++
          [(.array Sample.series, .buffer 1)] := by
      rw [Sample.usedContext_arguments]
      rfl
    have logged : Sample.usedContext.backend.arrays.length = 2 := by decide +kernel
    have received := supplies.last paired rfl nofun
    rw [logged] at received
    exact (others Sample.series.id (by decide)).trans received

end Nest

end LoopNest
