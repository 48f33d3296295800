import LoopNest.Proofs.Plan.Run

namespace LoopNest

/-!
# The identity map of a pass

The identity map that a pass hands out is written in three stages.  Arguments
are recorded first, and of two with one token the later one wins.  Loop indices
are recorded next, and they win over arguments.  The arrays that kernels need
are recorded last, and only under tokens that have no entry yet, so the first
of them wins among themselves and everything earlier wins over them.

The map has no other entries.
-/

/-- The tokens of all arguments. -/
def Arguments.tokens {σ : Type} (arguments : Arguments σ) : List Token :=
  arguments.captures.filterMap Capture.identity?

/-- The handles of the arrays that a pass makes itself, in the order of their
first use. -/
def Nest.madeHandles {σ : Type} (nest : Nest σ) : List ArrayHandle :=
  Capture.madeIn nest.captured

namespace Lowering

variable {σ : Type}

namespace Entry

variable {arguments : Arguments σ} {bindings : Bindings σ} {lowering : Lowering (Recorder σ) σ}

theorem seedsAll (entry : Entry arguments bindings lowering) :
    Pass.SeedsAll arguments.pairs
      (Pass.start lowering.backend entry.resolved arguments lowering.plan.options) entry.seeded :=
  Pass.seedsAll_of_ok entry.seeding

/-- Every argument has a runtime value, so a token is that of an argument when
some pair carries it. -/
theorem isSome_lastOf?_iff (entry : Entry arguments bindings lowering) (token : Token) :
    (Arguments.lastOf? token arguments.pairs).isSome = true <-> token ∈ arguments.tokens := by
  have firsts : arguments.pairs.map Prod.fst = arguments.captures :=
    List.map_fst_zip (Nat.le_of_eq entry.counts)
  rw [Arguments.isSome_lastOf?_iff, Arguments.tokens, List.mem_filterMap, ← firsts]
  constructor
  · rintro ⟨pair, member, identity⟩
    exact ⟨pair.1, List.mem_map_of_mem member, identity⟩
  · rintro ⟨capture, member, identity⟩
    rcases List.mem_map.mp member with ⟨pair, paired, rfl⟩
    exact ⟨pair, paired, identity⟩

/-- The native index of a dimension is the entry of its loop index. -/
theorem getElem?_of_index (entry : Entry arguments bindings lowering)
    (distinct : lowering.plan.nest.ownTokens.Nodup) {dimension : Nat} {index : LoopIndex}
    (found : lowering.plan.nest.ownIndices[dimension]? = some index) :
    entry.pass.identities[index.id]? = some (.index ⟨entry.space.id, UInt32.ofNat dimension⟩) :=
  Pass.getElem?_inSpace_of_index entry.seeded entry.complete_indices distinct found

/-- The last argument with a token gives its entry, unless it is that of a loop
index. -/
theorem getElem?_of_argument (entry : Entry arguments bindings lowering) {token : Token}
    {pair : Capture σ × RuntimeArgument} (foreign : token ∉ lowering.plan.nest.ownTokens)
    (isLast : Arguments.lastOf? token arguments.pairs = some pair) :
    ∃ value, entry.pass.identities[token]? = some value ∧ pair.1.Receives pair.2 value := by
  rcases entry.seedsAll.last token pair isLast with ⟨value, found, receives⟩
  have unchanged := Pass.getElem?_inSpace_of_notMem entry.seeded entry.complete_indices foreign
  exact ⟨value, unchanged.trans found, receives⟩

theorem getElem?_of_none (entry : Entry arguments bindings lowering) {token : Token}
    (foreign : token ∉ lowering.plan.nest.ownTokens)
    (absent : Arguments.lastOf? token arguments.pairs = none) :
    entry.pass.identities[token]? = none := by
  have unchanged := Pass.getElem?_inSpace_of_notMem entry.seeded entry.complete_indices foreign
  have unset := entry.seedsAll.others token absent
  have empty : (∅ : IdentityMap)[token]? = none := Std.ExtTreeMap.getElem?_empty
  exact unchanged.trans (unset.trans empty)

/-- Before any kernel is resolved, the tokens with an entry are those of the
arguments and of the loop indices. -/
theorem exists_getElem?_iff (entry : Entry arguments bindings lowering) (token : Token) :
    (∃ value, entry.pass.identities[token]? = some value) <->
      token ∈ arguments.tokens ∨ token ∈ lowering.plan.nest.ownTokens := by
  by_cases own : token ∈ lowering.plan.nest.ownTokens
  · have present := Pass.exists_getElem?_inSpace entry.seeded entry.complete_indices own
    exact iff_of_true present (.inr own)
  · rw [← entry.isSome_lastOf?_iff, or_iff_left own]
    cases isLast : Arguments.lastOf? token arguments.pairs with
    | some pair =>
        rcases entry.getElem?_of_argument own isLast with ⟨value, found, _⟩
        exact iff_of_true ⟨value, found⟩ rfl
    | none =>
        have absent := entry.getElem?_of_none own isLast
        simp [absent]

end Entry

namespace Run

variable {arguments : Arguments σ} {bindings : Bindings σ} {lowering : Lowering (Recorder σ) σ}

theorem completes (run : Run arguments bindings lowering) :
    Completes lowering.plan.nest.madeHandles run.pass.identities run.done.identities :=
  run.adding.completes

/-- The space of the pass is the one that is logged last. -/
theorem spaces (run : Run arguments bindings lowering) :
    run.done.backend.spaces = lowering.backend.spaces ++ [run.space] := by
  have logged : run.pass.backend.spaces = run.seeded.backend.spaces ++ [run.space] := rfl
  have earlier : run.seeded.backend.spaces = lowering.backend.spaces :=
    run.seedsAll.continues.spaces
  rw [run.adding.continues.spaces, ← earlier]
  exact logged

end Run

/-- The tokens of the final identity map, and the value of each.  Loop indices
come before arguments, the last argument with a token before the others, and
both before arrays that are made, of which the first with a token counts. -/
theorem final_identities {arguments : Arguments σ} {bindings : Bindings σ}
    {lowering after : Lowering (Recorder σ) σ} {lowered : LoweredNest}
    (distinct : lowering.plan.nest.ownTokens.Nodup)
    (done : lower arguments bindings lowering = .ok lowered after) :
    (forall token, (∃ value, lowered.identities[token]? = some value) <->
      token ∈ arguments.tokens ∨ token ∈ lowering.plan.nest.ownTokens ∨
        token ∈ lowering.plan.nest.madeHandles.map ArrayHandle.id) ∧
    (after.backend.spaces = lowering.backend.spaces ++ [lowered.space] ∧
      forall (dimension : Nat) (index : LoopIndex),
        lowering.plan.nest.ownIndices[dimension]? = some index ->
          lowered.space.indices[dimension]? =
              some ⟨lowered.space.id, UInt32.ofNat dimension⟩ ∧
            lowered.identities[index.id]? =
              some (.index ⟨lowered.space.id, UInt32.ofNat dimension⟩)) ∧
    (forall token pair, token ∉ lowering.plan.nest.ownTokens ->
      Arguments.lastOf? token arguments.pairs = some pair ->
        ∃ value, lowered.identities[token]? = some value ∧ pair.1.Receives pair.2 value) ∧
    (forall token handle, token ∉ lowering.plan.nest.ownTokens -> token ∉ arguments.tokens ->
      firstOf? token lowering.plan.nest.madeHandles = some handle ->
        ∃ array, lowered.identities[token]? = some (.array array) ∧ handle.Becomes array) := by
  rcases (lower_eq_ok_iff _ _ _ _ _).mp done with ⟨run, rfl, rfl⟩
  refine ⟨?_, ⟨run.spaces, ?_⟩, ?_, ?_⟩
  · intro token
    refine (run.completes.exists_iff token).trans ?_
    rw [run.exists_getElem?_iff, or_assoc, List.mem_map]
  · intro dimension index found
    have within : dimension < run.numbers.length := by
      rw [run.complete_indices]
      exact (List.getElem?_eq_some_iff.mp found).1
    exact ⟨Pass.getElem?_indices_nextSpace _ _ within,
      run.completes.kept (run.getElem?_of_index distinct found)⟩
  · intro token pair foreign isLast
    rcases run.getElem?_of_argument foreign isLast with ⟨value, found, receives⟩
    exact ⟨value, run.completes.kept found, receives⟩
  · intro token handle foreign unsupplied isFirst
    rw [← run.isSome_lastOf?_iff, Bool.not_eq_true, Option.isSome_eq_false_iff,
      Option.isNone_iff_eq_none] at unsupplied
    exact run.completes.made (run.getElem?_of_none foreign unsupplied) isFirst

/-- In the small plan the loop index keeps its native index, although an
argument supplies a number for it, and the table is made as a constant. -/
theorem final_identities_of_sample :
    ∃ lowered after array,
      lower Sample.arguments Sample.bindings (Sample.lowering Sample.busyNest) =
          .ok lowered after ∧
        lowered.identities[Sample.loop.id]? = some (.index ⟨lowered.space.id, 0⟩) ∧
        lowered.identities[Sample.table.id]? = some (.array array) ∧
        array.elementType = .int32 ∧ array.origin = .constant := by
  rcases Sample.succeeds with ⟨lowered, after, done⟩
  have distinct : (Sample.lowering Sample.busyNest).plan.nest.ownTokens.Nodup := by decide
  rcases final_identities distinct done with ⟨_, indices, _, made⟩
  rcases made Sample.table.id Sample.table (by decide) (by decide) rfl with
    ⟨array, found, becomes⟩
  exact ⟨lowered, after, array, done, (indices.2 0 Sample.loop rfl).2, found,
    becomes.elementType, (Option.some.inj becomes.origin).symm⟩

end Lowering

end LoopNest
