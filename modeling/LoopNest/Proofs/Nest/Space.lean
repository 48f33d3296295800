import LoopNest.Nest.Build
import LoopNest.Proofs.Identity.Issuance
import LoopNest.Proofs.Nest.Extents
import LoopNest.Proofs.Pass.Seeding

namespace LoopNest

/-!
# The space of a pass

Once the arguments are recorded and the space is created, every loop index
gets the native index of its dimension.  The entry of a loop index is written
over that of an argument with the same token.  Loop indices with distinct
tokens do not write over each other, so all of them are found afterwards.
-/

namespace Nest

variable {σ : Type}

/-- The identity map after loop indices are mapped to native ones in order. -/
def withIndices (entries : List (LoopIndex × NativeIndex)) (identities : IdentityMap) :
    IdentityMap :=
  entries.foldl (fun identities entry => identities.insert entry.1.id (.index entry.2)) identities

theorem seedIndices_apply {β : Type} (entries : List (LoopIndex × NativeIndex))
    (pass : Pass β σ) :
    seedIndices entries pass =
      .ok () { pass with identities := withIndices entries pass.identities } := by
  induction entries generalizing pass with
  | nil => rfl
  | cons entry rest inductionHypothesis =>
      rw [seedIndices]
      exact inductionHypothesis _

theorem withIndices_eq_insertMany (entries : List (LoopIndex × NativeIndex))
    (identities : IdentityMap) :
    withIndices entries identities =
      identities.insertMany (entries.map fun entry => (entry.1.id, .index entry.2)) := by
  induction entries generalizing identities with
  | nil => exact Std.ExtTreeMap.insertMany_nil.symm
  | cons entry rest inductionHypothesis =>
      rw [List.map_cons, Std.ExtTreeMap.insertMany_cons]
      exact inductionHypothesis _

theorem getElem?_withIndices_of_notMem {token : Token} (entries : List (LoopIndex × NativeIndex))
    (identities : IdentityMap) (absent : token ∉ entries.map fun entry => entry.1.id) :
    (withIndices entries identities)[token]? = identities[token]? := by
  rw [withIndices_eq_insertMany]
  refine IdentityMap.getElem?_insertMany_of_notMem ?_ _
  rw [List.map_map]
  exact absent

theorem getElem?_withIndices_of_mem {index : LoopIndex} {native : NativeIndex}
    (entries : List (LoopIndex × NativeIndex)) (identities : IdentityMap)
    (distinct : (entries.map fun entry => entry.1.id).Nodup)
    (member : (index, native) ∈ entries) :
    (withIndices entries identities)[index.id]? = some (.index native) := by
  rw [withIndices_eq_insertMany]
  refine Std.ExtTreeMap.getElem?_insertMany_list_of_mem Std.ReflCmp.compare_self ?_
    (List.mem_map.mpr ⟨_, member, rfl⟩)
  rw [List.Nodup, List.pairwise_map] at distinct
  rw [List.pairwise_map]
  exact distinct.imp fun different same => different (Std.LawfulEqOrd.eq_of_compare same)

theorem exists_getElem?_withIndices {token : Token} (entries : List (LoopIndex × NativeIndex))
    (identities : IdentityMap) (present : token ∈ entries.map fun entry => entry.1.id) :
    ∃ value, (withIndices entries identities)[token]? = some value := by
  rw [withIndices_eq_insertMany]
  have listed : token ∈ (entries.map fun entry =>
      (entry.1.id, NativeValue.index entry.2)).map Prod.fst := by
    rw [List.map_map]
    exact present
  have inside := Std.ExtTreeMap.mem_insertMany_list (t := identities).mpr
    (.inr (List.contains_iff_mem.mpr listed))
  exact ⟨_, Std.ExtTreeMap.getElem?_eq_some_getElem inside⟩

/-- The tokens of the loop indices in order. -/
def ownTokens (nest : Nest σ) : List Token :=
  nest.ownIndices.map LoopIndex.id

/-! ## Declared nests -/

/-- The loop indices of a new nest are those that are declared for it. -/
theorem ownIndices_declare (shape : List (Extent σ)) (arena : Arena) :
    ((declare shape).run arena).1.ownIndices =
      ((LoopIndex.declareMany ⟨arena.nests⟩ 0 shape.length).run
        (Arena.issueNest.run arena).2).1 := by
  have counted := Arena.length_declareMany ⟨arena.nests⟩ 0 shape.length
    (Arena.issueNest.run arena).2
  refine (List.map_zipWith).trans ?_
  refine (List.map_zip_eq_zipWith (f := Prod.snd)).symm.trans ?_
  exact List.map_snd_zip (Nat.le_of_eq counted)

/-- Declaring a nest takes its number and then its loop indices. -/
theorem captures_declare (shape : List (Extent σ)) (arena : Arena) :
    ((declare shape).run arena).1.ownIndices.map Capture.index =
      ((Arena.serveAll
        (.nest :: Request.dimensions (σ := σ) ⟨arena.nests⟩ 0 shape.length)).run arena).1 := by
  have served := Arena.serveAll_dimensions (σ := σ) ⟨arena.nests⟩ 0 shape.length
    (Arena.issueNest.run arena).2
  rw [ownIndices_declare]
  exact (congrArg Prod.fst served).symm

end Nest

namespace Pass

variable {σ : Type}

/-- The pass after it created a space with these extents and mapped the loop
indices to the native ones. -/
def inSpace (pass : Pass (Recorder σ) σ) (indices : List LoopIndex) (numbers : List Int) :
    Pass (Recorder σ) σ :=
  { pass with
    backend := pass.backend.withSpace numbers
    identities :=
      Nest.withIndices (indices.zip (pass.backend.nextSpace numbers).indices) pass.identities
    space := some (pass.backend.nextSpace numbers) }

/-- A space of a recorder has one native index per extent. -/
theorem getElem?_indices_nextSpace (recorder : Recorder σ) (numbers : List Int)
    {dimension : Nat} (within : dimension < numbers.length) :
    (recorder.nextSpace numbers).indices[dimension]? =
      some ⟨(recorder.nextSpace numbers).id, UInt32.ofNat dimension⟩ := by
  simp [Recorder.nextSpace, NativeSpace.ofExtents, within]

theorem length_indices_nextSpace (recorder : Recorder σ) (numbers : List Int) :
    (recorder.nextSpace numbers).indices.length = numbers.length :=
  NativeSpace.rank_ofExtents _ numbers

section InSpace

variable (pass : Pass (Recorder σ) σ) {indices : List LoopIndex} {numbers : List Int}

private theorem tokens_zip_indices (complete : numbers.length = indices.length) :
    ((indices.zip (pass.backend.nextSpace numbers).indices).map fun entry => entry.1.id) =
      indices.map LoopIndex.id := by
  have firsts : (indices.zip (pass.backend.nextSpace numbers).indices).map Prod.fst = indices := by
    refine List.map_fst_zip (Nat.le_of_eq ?_)
    rw [length_indices_nextSpace, complete]
  conv => rhs; rw [← firsts]
  rw [List.map_map]
  rfl

/-- A loop index is found under its token, even if an argument carried it. -/
theorem getElem?_inSpace_of_index (complete : numbers.length = indices.length)
    (distinct : (indices.map LoopIndex.id).Nodup) {dimension : Nat} {index : LoopIndex}
    (found : indices[dimension]? = some index) :
    (pass.inSpace indices numbers).identities[index.id]? =
      some (.index ⟨(pass.backend.nextSpace numbers).id, UInt32.ofNat dimension⟩) := by
  have within : dimension < numbers.length := by
    rw [complete]
    exact (List.getElem?_eq_some_iff.mp found).1
  have native := getElem?_indices_nextSpace pass.backend numbers within
  have paired : (indices.zip (pass.backend.nextSpace numbers).indices)[dimension]? =
      some (index, _) := List.getElem?_zip_eq_some.mpr ⟨found, native⟩
  refine Nest.getElem?_withIndices_of_mem _ _ ?_ (List.mem_of_getElem? paired)
  rw [tokens_zip_indices pass complete]
  exact distinct

theorem getElem?_inSpace_of_notMem (complete : numbers.length = indices.length) {token : Token}
    (absent : token ∉ indices.map LoopIndex.id) :
    (pass.inSpace indices numbers).identities[token]? = pass.identities[token]? := by
  refine Nest.getElem?_withIndices_of_notMem _ _ ?_
  rw [tokens_zip_indices pass complete]
  exact absent

/-- Every loop index has an entry, whether the tokens are distinct or not. -/
theorem exists_getElem?_inSpace (complete : numbers.length = indices.length) {token : Token}
    (present : token ∈ indices.map LoopIndex.id) :
    ∃ value, (pass.inSpace indices numbers).identities[token]? = some value := by
  refine Nest.exists_getElem?_withIndices _ _ ?_
  rw [tokens_zip_indices pass complete]
  exact present

end InSpace

end Pass

namespace Nest

variable {σ : Type}

/-- Extents that give numbers are these numbers. -/
theorem eq_of_extentsFrom {position : Nat} {extents : List (Extent σ)} {numbers : List Int}
    (fixed : extentsFrom position extents = .ok numbers) : extents = numbers.map .fixed := by
  induction extents generalizing position numbers with
  | nil =>
      cases fixed
      rfl
  | cons extent rest inductionHypothesis =>
      cases extent with
      | deferred value => cases fixed
      | fixed value =>
          rw [extentsFrom] at fixed
          cases later : extentsFrom (position + 1) rest with
          | error error =>
              rw [later] at fixed
              cases fixed
          | ok others =>
              rw [later] at fixed
              cases fixed
              rw [List.map_cons, ← inductionHypothesis later]

theorem length_of_extents {nest : Nest σ} {numbers : List Int}
    (fixed : nest.extents = .ok numbers) : numbers.length = nest.rank := by
  have counted := congrArg List.length (eq_of_extentsFrom fixed)
  rw [List.length_map, List.length_map] at counted
  exact counted.symm

section BuildSpace

variable {nest : Nest σ} {pass seeded after : Pass (Recorder σ) σ}

/-- As long as an extent is deferred, nothing is done. -/
theorem buildSpace_of_unresolved {error : NestError} (unresolved : nest.extents = .error error) :
    nest.buildSpace pass = .error error pass := by
  unfold buildSpace
  rw [unresolved]
  rfl

/-- A space is built only of numbers. -/
theorem exists_extents_of_ok {done : Unit} (built : nest.buildSpace pass = .ok done after) :
    ∃ numbers, nest.extents = .ok numbers := by
  cases extents : nest.extents with
  | ok numbers => exact ⟨numbers, rfl⟩
  | error error =>
      rw [buildSpace_of_unresolved extents] at built
      cases built

variable {numbers : List Int} (fixed : nest.extents = .ok numbers)
include fixed

/-- An argument that is refused ends it. -/
theorem buildSpace_of_unseeded {error : NestError}
    (refused : Pass.seedArguments pass = .error error seeded) :
    nest.buildSpace pass = .error error seeded := by
  unfold buildSpace
  rw [fixed]
  exact Outcome.bind_of_error refused _

/-- Once the arguments are recorded, the backend decides. -/
theorem buildSpace_of_seeded {done : Unit} (recorded : Pass.seedArguments pass = .ok done seeded) :
    nest.buildSpace pass =
      match Recorder.createSpace numbers seeded.backend with
      | .ok _ _ => .ok () (seeded.inSpace nest.ownIndices numbers)
      | .error fault _ => .error (.backend fault) seeded := by
  unfold buildSpace
  rw [fixed]
  refine (Outcome.bind_of_ok recorded _).trans ?_
  cases creation : Recorder.createSpace numbers seeded.backend with
  | error fault backend =>
      rcases Recorder.createSpace_of_error creation with ⟨rfl, _⟩
      have failed := (Pass.onBackend_eq_error_iff (Recorder.createSpace numbers) seeded seeded
        (.backend fault)).mpr ⟨fault, _, creation, rfl, rfl⟩
      exact Outcome.bind_of_error failed _
  | ok space backend =>
      have entered := (Pass.onBackend_eq_ok_iff (Recorder.createSpace numbers) seeded _
        space).mpr ⟨backend, creation, rfl⟩
      rcases (Recorder.createSpace_eq_ok_iff _ _ _ _).mp creation with ⟨_, _, rfl, rfl⟩
      have ranked : (seeded.backend.nextSpace numbers).rank = nest.rank :=
        (NativeSpace.rank_ofExtents _ numbers).trans (length_of_extents fixed)
      refine (Outcome.bind_of_ok entered _).trans ?_
      rw [if_pos ranked, Outcome.bind_of_ok (seedIndices_apply _ _)]
      rfl

theorem buildSpace_eq_error_iff_of_seeded {done : Unit}
    (recorded : Pass.seedArguments pass = .ok done seeded) (after : Pass (Recorder σ) σ)
    (error : NestError) :
    nest.buildSpace pass = .error error after <->
      ∃ fault, Recorder.createSpace numbers seeded.backend = .error fault seeded.backend ∧
        error = .backend fault ∧ after = seeded := by
  rw [buildSpace_of_seeded fixed recorded]
  cases creation : Recorder.createSpace numbers seeded.backend with
  | ok space backend => simp
  | error fault backend =>
      rcases Recorder.createSpace_of_error creation with ⟨rfl, _⟩
      simp only [EStateM.Result.error.injEq, and_true, eq_comm (a := error), eq_comm (a := after)]
      constructor
      · rintro ⟨cause, ended⟩
        exact ⟨fault, rfl, cause, ended⟩
      · rintro ⟨_, rfl, same⟩
        exact same

/-- Building the space succeeds when the arguments are recorded and every
extent is positive. -/
theorem buildSpace_eq_ok_iff_of_extents (pass after : Pass (Recorder σ) σ) :
    nest.buildSpace pass = .ok () after <->
      ∃ seeded, Pass.seedArguments pass = .ok () seeded ∧
        BackendOperation.createSpace ∉ seeded.backend.rejected ∧
        (forall extent, extent ∈ numbers -> 0 < extent) ∧
        after = seeded.inSpace nest.ownIndices numbers := by
  cases recording : Pass.seedArguments pass with
  | error error middle => simp [buildSpace_of_unseeded fixed recording]
  | ok done seeded =>
      rw [buildSpace_of_seeded fixed recording]
      cases creation : Recorder.createSpace numbers seeded.backend with
      | ok space backend =>
          rcases (Recorder.createSpace_eq_ok_iff _ _ _ _).mp creation with
            ⟨accepted, positive, _, _⟩
          constructor
          · intro same
            cases same
            exact ⟨seeded, rfl, accepted, positive, rfl⟩
          · rintro ⟨_, same, _, _, rfl⟩
            cases same
            rfl
      | error fault backend =>
          constructor
          · intro impossible
            cases impossible
          · rintro ⟨_, same, accepted, positive, _⟩
            cases same
            have created := (Recorder.createSpace_eq_ok_iff numbers seeded.backend _ _).mpr
              ⟨accepted, positive, rfl, rfl⟩
            cases creation.symm.trans created

end BuildSpace

/-- Building the space succeeds when the arguments are recorded and every
extent is positive. -/
theorem buildSpace_eq_ok_iff (nest : Nest σ) {numbers : List Int}
    (complete : numbers.length = nest.rank) (pass after : Pass (Recorder σ) σ) :
    (nest.withExtents numbers).buildSpace pass = .ok () after <->
      pass.arguments.captures.length = pass.arguments.runtime.length ∧
        ∃ seeded, Pass.seedFrom 0 pass.arguments.pairs pass = .ok () seeded ∧
          BackendOperation.createSpace ∉ seeded.backend.rejected ∧
          (forall extent, extent ∈ numbers -> 0 < extent) ∧
          after = seeded.inSpace nest.ownIndices numbers := by
  rw [buildSpace_eq_ok_iff_of_extents (nest.extents_withExtents complete),
    nest.ownIndices_withExtents complete]
  simp only [Pass.seedArguments_eq_ok_iff, and_assoc, exists_and_left]

end Nest

end LoopNest
