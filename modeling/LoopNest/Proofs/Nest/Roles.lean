import LoopNest.Proofs.Nest.Arguments
import LoopNest.Proofs.Pass.Resolution

namespace LoopNest

/-!
# Arrays that are no arguments by their role

Scratch arrays and constants are made in the pass, and the other arrays are
supplied by the caller.  When arguments are recorded, only the kind of an
argument is compared with what the caller supplies, and the role of an array is
not looked at.  So a scratch array or a constant among the arguments takes a
buffer.  The entry of its token then wins over its role, and the pass makes no
array for it.
-/

namespace Arguments

variable {σ : Type}

/-- The argument is an array that a pass makes by itself. -/
def Misplaced (pair : Capture σ × RuntimeArgument) : Prop :=
  ∃ handle, pair.1 = .array handle ∧ handle.role.isArgument = false

/-- Of the arguments that carry a token there is a last one. -/
theorem exists_last {token : Token} {pairs : List (Capture σ × RuntimeArgument)}
    (carried : ∃ pair, pair ∈ pairs ∧ pair.1.identity? = some token) :
    ∃ earlier pair later, pairs = earlier ++ pair :: later ∧
      pair.1.identity? = some token ∧
        forall other, other ∈ later -> other.1.identity? ≠ some token := by
  induction pairs with
  | nil =>
      rcases carried with ⟨_, member, _⟩
      exact absurd member List.not_mem_nil
  | cons first rest inductionHypothesis =>
      by_cases again : ∃ pair, pair ∈ rest ∧ pair.1.identity? = some token
      · rcases inductionHypothesis again with ⟨earlier, pair, later, rfl, carries, isLast⟩
        exact ⟨first :: earlier, pair, later, rfl, carries, isLast⟩
      · rcases carried with ⟨pair, member, carries⟩
        rcases List.mem_cons.mp member with rfl | later
        · exact ⟨[], pair, rest, rfl, carries, fun other inRest same =>
            again ⟨other, inRest, same⟩⟩
        · exact absurd ⟨pair, later, carries⟩ again

end Arguments

namespace Pass

variable {σ : Type} {pass after : Pass (Recorder σ) σ}

/-- A handle that is an argument has the array that wraps its last buffer, if no
other argument shares its token. -/
theorem Supplies.exists_wrapped {pairs : List (Capture σ × RuntimeArgument)}
    (supplies : pass.Supplies pairs after) {handle : ArrayHandle}
    (member : ∃ pair, pair ∈ pairs ∧ pair.1 = .array handle)
    (alone : forall pair, pair ∈ pairs -> pair.1.identity? = some handle.id ->
      pair.1 = .array handle) :
    ∃ number, after.identities[handle.id]? = some (.array (handle.wrappedAs number)) := by
  have carried : ∃ pair, pair ∈ pairs ∧ pair.1.identity? = some handle.id := by
    rcases member with ⟨pair, inPairs, isHandle⟩
    exact ⟨pair, inPairs, by rw [isHandle]; rfl⟩
  rcases Arguments.exists_last carried with ⟨earlier, ⟨capture, runtime⟩, later, split, carries,
    isLast⟩
  have inPairs : (capture, runtime) ∈ pairs := by
    rw [split]
    exact List.mem_append_right _ List.mem_cons_self
  cases alone _ inPairs carries
  have received := supplies.last split carries isLast
  have takes := supplies.takes _ inPairs
  cases runtime with
  | buffer slot => exact ⟨_, received⟩
  | scalar value => exact False.elim takes

end Pass

namespace Nest

variable {σ : Type} {nest : Nest σ} {pass after : Pass (Recorder σ) σ}

/-- A refusal of an argument tells the first one that does not fit. -/
theorem mismatched_of_argumentMismatch {numbers : List Int} (fixed : nest.extents = .ok numbers)
    (equal : pass.arguments.captures.length = pass.arguments.runtime.length)
    (accepted : BackendOperation.wrapArgument ∉ pass.backend.rejected) {position : Nat}
    {fault : ArgumentFault}
    (refused : nest.buildSpace pass = .error (.argumentMismatch position fault) after) :
    ∃ pair, FirstAt Arguments.Mismatched pass.arguments.pairs position pair := by
  rcases FirstAt.exists_or_forall Arguments.Mismatched pass.arguments.pairs with
    ⟨place, pair, first⟩ | fitting
  · rcases first.here with ⟨_, misfit⟩
    cases (buildSpace_of_first fixed equal accepted first misfit).symm.trans refused
    exact ⟨pair, first⟩
  · have takes := Arguments.takes_of_fitting fitting
    have decided := buildSpace_of_takes fixed equal accepted takes
    cases creation : Recorder.createSpace numbers
        (pass.supplied pass.arguments.pairs).backend with
    | ok space backend =>
        rw [creation] at decided
        cases decided.symm.trans refused
    | error cause backend =>
        rw [creation] at decided
        cases decided.symm.trans refused

/-- Building a space leaves the entry of an array handle to the arguments. -/
theorem exists_supplies_of_array (built : nest.buildSpace pass = .ok () after)
    {handle : ArrayHandle}
    (issued : FromOneArena
      (.array handle :: (nest.ownIndices.map .index ++ pass.arguments.captures))) :
    ∃ seeded, pass.Supplies pass.arguments.pairs seeded ∧
      after.identities[handle.id]? = seeded.identities[handle.id]? := by
  rcases buildSpace_eq_supplied built with ⟨numbers, fixed, supplies, rfl⟩
  have complete : numbers.length = nest.ownIndices.length :=
    (length_of_extents fixed).trans (List.length_map _).symm
  refine ⟨_, supplies, Pass.getElem?_inSpace_of_notMem _ complete ?_⟩
  intro own
  rcases List.mem_map.mp own with ⟨index, member, carries⟩
  have listed : Capture.index index ∈ .array handle ::
      (nest.ownIndices.map .index ++ pass.arguments.captures) :=
    List.mem_cons_of_mem _ (List.mem_append_left _ (List.mem_map_of_mem member))
  cases issued.eq_of_identity List.mem_cons_self listed rfl (congrArg some carries)

/-- The role of an array makes no difference to whether it is recorded as an
argument.  Where an argument is the first one to be out of place by its role or by
its kind, it is refused only if it is so by its kind.  Once the space is built, an
array that is among the arguments has the array that wraps a buffer, whatever its
role is, and a capture of it is replaced by that one.  An array that is no argument
has the entry that it had before. -/
theorem roles_are_not_checked {numbers : List Int} (fixed : nest.extents = .ok numbers)
    (pass : Pass (Recorder σ) σ)
    (equal : pass.arguments.captures.length = pass.arguments.runtime.length)
    (accepted : BackendOperation.wrapArgument ∉ pass.backend.rejected) :
    (forall position pair,
      FirstAt (fun pair => Arguments.Misplaced pair ∨ Arguments.Mismatched pair)
          pass.arguments.pairs position pair ->
        ((∃ fault after,
            nest.buildSpace pass = .error (.argumentMismatch position fault) after) <->
          Arguments.Mismatched pair)) ∧
    (forall done after (handle : ArrayHandle), nest.buildSpace pass = .ok done after ->
      FromOneArena (.array handle :: (nest.ownIndices.map .index ++ pass.arguments.captures)) ->
        (.array handle ∈ pass.arguments.captures ->
          ∃ array, array.origin = .argument ∧
            after.identities[handle.id]? = some (.array array) ∧
            forall failure, Pass.resolveCapture failure (.array handle) after =
              .ok (some (.value (.array array))) after) ∧
        (.array handle ∉ pass.arguments.captures ->
          after.identities[handle.id]? = pass.identities[handle.id]?)) := by
  refine ⟨?first, ?built⟩
  case first =>
    intro position pair first
    constructor
    · rintro ⟨fault, after, refused⟩
      rcases mismatched_of_argumentMismatch fixed equal accepted refused with ⟨other, mismatched⟩
      cases first.found.symm.trans mismatched.found
      exact mismatched.here
    · rintro ⟨fault, misfit⟩
      have mismatched : FirstAt Arguments.Mismatched pass.arguments.pairs position pair :=
        ⟨first.found, ⟨fault, misfit⟩, fun other member unfit =>
          first.earlier other member (.inr unfit)⟩
      exact ⟨fault, _, buildSpace_of_first fixed equal accepted mismatched misfit⟩
  case built =>
    intro done after handle built issued
    rcases exists_supplies_of_array built issued with ⟨seeded, supplies, entry⟩
    have alone : forall pair, pair ∈ pass.arguments.pairs ->
        pair.1.identity? = some handle.id -> pair.1 = .array handle := by
      intro pair member carries
      have listed : pair.1 ∈ .array handle ::
          (nest.ownIndices.map .index ++ pass.arguments.captures) :=
        List.mem_cons_of_mem _ (List.mem_append_right _ (List.of_mem_zip member).1)
      exact issued.eq_of_identity listed List.mem_cons_self carries rfl
    constructor
    · intro captured
      have paired : ∃ pair, pair ∈ pass.arguments.pairs ∧ pair.1 = .array handle := by
        have captures : pass.arguments.pairs.map Prod.fst = pass.arguments.captures :=
          List.map_fst_zip (Nat.le_of_eq equal)
        rw [← captures] at captured
        exact List.mem_map.mp captured
      rcases supplies.exists_wrapped paired alone with ⟨number, wrapped⟩
      have found := entry.trans wrapped
      exact ⟨_, rfl, found, fun failure => Pass.resolveCapture_of_mapped failure found⟩
    · intro uncaptured
      refine entry.trans (supplies.others fun pair member carries => uncaptured ?_)
      rw [← alone pair member carries]
      exact (List.of_mem_zip member).1

end Nest

namespace Sample

/-- Scratch storage, next in the arena after the loop index of the nest. -/
def workArray : ArrayHandle :=
  ⟨⟨⟨1⟩, .temporary, .float64, ⟨[4], .first⟩, none⟩, by decide⟩

/-- The scratch storage is an argument. -/
def workArgument : Arguments Unit :=
  ⟨[.array workArray], [.buffer 0]⟩

/-- The scratch storage is an argument, and a loop index that takes a buffer. -/
def workAndIndex : Arguments Unit :=
  ⟨[.array workArray, .index inner], [.buffer 0, .buffer 1]⟩

/-- The first argument is out of place by its role only. -/
theorem workArray_first : FirstAt (fun pair => Arguments.Misplaced pair ∨ Arguments.Mismatched pair)
    workAndIndex.pairs 0 (.array workArray, .buffer 0) where
  found := rfl
  here := .inl ⟨workArray, rfl, rfl⟩
  earlier := nofun

end Sample

namespace Nest

/-- The scratch storage is not refused, although it is the first argument that is
out of place. -/
theorem workArray_is_not_refused :
    ¬ ∃ fault after, Sample.four.buildSpace (Sample.freshContext Sample.workAndIndex) =
      .error (.argumentMismatch 0 fault) after := by
  intro refused
  have fixed : Sample.four.extents = .ok [4] := rfl
  rcases (roles_are_not_checked fixed (Sample.freshContext Sample.workAndIndex) rfl
    (by decide)).1 0 _ Sample.workArray_first with ⟨mismatched, _⟩
  exact (Capture.not_takes_iff _ _).mpr (mismatched refused) trivial

/-- With the scratch storage as the only argument, the space is built, and the
token of the storage has an array that wraps the buffer. -/
theorem workArray_takes_buffer :
    Sample.workArray.role.isArgument = false ∧
      ∃ after, Sample.four.buildSpace (Sample.freshContext Sample.workArgument) = .ok () after ∧
        after.identities[Sample.workArray.id]? = some (.array ⟨0, .float64, .argument⟩) := by
  have succeeds : Outcome.Succeeds Sample.four.buildSpace
      (Sample.freshContext Sample.workArgument) := by decide +kernel
  have entry : (Outcome.state (Sample.four.buildSpace
      (Sample.freshContext Sample.workArgument))).identities[Sample.workArray.id]? =
        some (.array ⟨0, .float64, .argument⟩) := by decide +kernel
  rcases succeeds with ⟨done, after, built⟩
  rw [built] at entry
  exact ⟨rfl, after, built, entry⟩

end Nest

end LoopNest
