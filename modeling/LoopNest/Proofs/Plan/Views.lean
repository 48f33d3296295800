import LoopNest.Proofs.Nest.Declaration
import LoopNest.Proofs.Plan.Repetition

namespace LoopNest

/-!
# The views of an iteration space

After a pass the iteration space of a nest can be looked at in four places: the
current extents of the nest, what the schedule knows of its loop indices, the
native space, and the identity map.  They are filled at different stages, and the
first two stay from pass to pass.  After a pass that gives a result all of them
agree, whatever passes there were before, and they tell the extents that this
pass resolved.
-/

namespace Nest

variable {σ : Type}

/-- A nest that was declared over this shape in some arena.  Since then logic may
have been attached, and the extents may have been replayed and the nest lowered,
on any backend and with any outcome. -/
inductive DeclaredOver (shape : List (Extent σ)) : Nest σ -> Prop
  | declare (arena : Arena) : DeclaredOver shape ((Nest.declare shape).run arena).1
  | attach {nest : Nest σ} (history : DeclaredOver shape nest) (logic : LogicFunction σ)
      (scheduling : Scheduling) : DeclaredOver shape (nest.attach logic scheduling)
  | replay {nest replayed : Nest σ} {store after : Store σ} (history : DeclaredOver shape nest)
      (done : nest.replayDeferred store = .ok replayed after) : DeclaredOver shape replayed
  | pass {β : Type} [Backend σ β] {lowering : Lowering β σ}
      (history : DeclaredOver shape lowering.plan.nest) (arguments : Arguments σ)
      (bindings : Bindings σ) :
      DeclaredOver shape (Outcome.state (Lowering.lower arguments bindings lowering)).plan.nest

/-- Nothing that happens to a nest changes its shape and its loop indices. -/
theorem DeclaredOver.over {shape : List (Extent σ)} {nest : Nest σ}
    (history : DeclaredOver shape nest) (fits : shape.length <= UInt32.size) :
    nest.Over shape := by
  induction history with
  | declare arena => exact over_declare shape arena fits
  | attach _ logic scheduling inductionHypothesis => exact inductionHypothesis.of_same rfl rfl
  | replay _ done inductionHypothesis =>
      rw [replayDeferred_eq] at done
      rcases (Outcome.bind_eq_ok_iff _ _ _ _ _).mp done with ⟨numbers, middle, resolved, last⟩
      cases last
      have complete := complete_of_mapM_resolve resolved
      exact inductionHypothesis.of_same (declaredShape_withExtents _ complete)
        (ownIndices_withExtents _ complete)
  | @pass β _ lowering _ arguments bindings inductionHypothesis =>
      have same := Lowering.sameDeclaration_lower arguments bindings lowering
      exact inductionHypothesis.of_same same.declaredShape same.indices

end Nest

namespace Schedule

theorem getElem?_noteFrom_of_notMem {token : Token} (position : Nat)
    (known : Std.ExtTreeMap Token (Nat × Int)) (entries : List (LoopIndex × Int))
    (absent : token ∉ entries.map fun entry => entry.1.id) :
    (noteFrom position known entries)[token]? = known[token]? := by
  induction entries generalizing position known with
  | nil => rfl
  | cons entry rest inductionHypothesis =>
      rw [List.map_cons, List.mem_cons, not_or] at absent
      rw [noteFrom, inductionHypothesis _ _ absent.2, Std.ExtTreeMap.getElem?_insert, if_neg]
      intro equal
      exact absent.1 (Std.LawfulEqOrd.eq_of_compare equal).symm

/-- Of indices with distinct tokens each is known with its position. -/
theorem getElem?_noteFrom (position : Nat) (known : Std.ExtTreeMap Token (Nat × Int))
    {entries : List (LoopIndex × Int)} (distinct : (entries.map fun entry => entry.1.id).Nodup)
    {dimension : Nat} {index : LoopIndex} {extent : Int}
    (found : entries[dimension]? = some (index, extent)) :
    (noteFrom position known entries)[index.id]? = some (position + dimension, extent) := by
  induction entries generalizing position known dimension with
  | nil => cases found
  | cons entry rest inductionHypothesis =>
      rw [List.map_cons, List.nodup_cons] at distinct
      cases dimension with
      | zero =>
          cases found
          rw [noteFrom, getElem?_noteFrom_of_notMem _ _ _ distinct.1]
          exact Std.ExtTreeMap.getElem?_insert_self
      | succ dimension =>
          have later := inductionHypothesis (position + 1)
            (known.insert entry.1.id (position, entry.2)) distinct.2 found
          rw [noteFrom, later]
          congr 2
          omega

/-- What a prepared schedule knows of a loop index. -/
theorem getElem?_prepared {σ : Type} (schedule : Schedule σ) {numbers : List Int}
    (complete : numbers.length = schedule.nest.rank) (distinct : schedule.nest.ownTokens.Nodup)
    {dimension : Nat} {index : LoopIndex} {number : Int}
    (found : schedule.nest.ownIndices[dimension]? = some index)
    (resolved : numbers[dimension]? = some number) :
    (schedule.prepared numbers).indexMap[index.id]? = some (dimension, number) := by
  have firsts : (schedule.nest.ownIndices.zip numbers).map Prod.fst = schedule.nest.ownIndices := by
    apply List.map_fst_zip
    rw [complete]
    exact Nat.le_of_eq (List.length_map _)
  have tokens : ((schedule.nest.ownIndices.zip numbers).map fun entry => entry.1.id).Nodup := by
    rw [Nest.ownTokens, ← firsts, List.map_map] at distinct
    exact distinct
  have paired : (schedule.nest.ownIndices.zip numbers)[dimension]? = some (index, number) :=
    List.getElem?_zip_eq_some.mpr ⟨found, resolved⟩
  have noted := getElem?_noteFrom 0 ∅ tokens paired
  rw [Nat.zero_add] at noted
  exact noted

end Schedule

namespace Lowering

variable {σ : Type}

section Run

variable {arguments : Arguments σ} {bindings : Bindings σ} {lowering : Lowering (Recorder σ) σ}

/-- The numbers of a pass are the declared extents as the bindings of this pass
give them. -/
theorem Entry.exists_extent (entry : Entry arguments bindings lowering)
    (extentsRead : forall extent, extent ∈ lowering.plan.nest.declaredShape -> extent.ReadOnly)
    {dimension : Nat} {number : Int} (found : entry.numbers[dimension]? = some number) :
    ∃ extent, lowering.plan.nest.declaredShape[dimension]? = some extent ∧
      (bindings.applied lowering.store).answer? extent.resolve = some number := by
  have applied := ((bindings.apply_eq_ok_iff _ _ _).mp entry.application).2
  have answers := ((Extent.mapM_resolve_eq_ok_iff _ extentsRead _ _ _).mp entry.resolution).1
  have here := congrArg (·[dimension]?) answers
  simp only [List.getElem?_map, found, Option.map_some] at here
  rcases Option.map_eq_some_iff.mp here with ⟨extent, declared, answered⟩
  exact ⟨extent, declared, applied ▸ answered⟩

/-- The space of a pass has the numbers of the pass as its extents. -/
theorem Entry.rank_space (entry : Entry arguments bindings lowering) :
    entry.space.rank = lowering.plan.nest.rank :=
  (NativeSpace.rank_ofExtents _ _).trans entry.complete

end Run

/-- After a pass that gives a result all views of the iteration space agree, and
they tell the extents that the nest was declared with, as this pass resolves
them.  Rules only read the slots, and the numbers of the dimensions fit their
words. -/
theorem views_agree {shape : List (Extent σ)} {arguments : Arguments σ} {bindings : Bindings σ}
    {lowering after : Lowering (Recorder σ) σ} {lowered : LoweredNest}
    (history : Nest.DeclaredOver shape lowering.plan.nest)
    (fits : shape.length <= UInt32.size)
    (extentsRead : forall extent, extent ∈ shape -> extent.ReadOnly)
    (done : lower arguments bindings lowering = .ok lowered after) :
    lowered.space.rank = after.plan.nest.rank ∧ after.plan.nest.rank = shape.length ∧
    ∃ numbers, after.plan.nest.extents = .ok numbers ∧
      forall (dimension : Nat) (index : LoopIndex),
        after.plan.nest.ownIndices[dimension]? = some index ->
          ∃ extent number, shape[dimension]? = some extent ∧
            (bindings.applied lowering.store).answer? extent.resolve = some number ∧
            0 < number ∧ lowered.space.extents[dimension]? = some number ∧
            numbers[dimension]? = some number ∧
            after.plan.schedule.extent? index = some number ∧
            after.plan.schedule.dimension? index = some dimension ∧
            index.dimension.toNat = dimension ∧
            lowered.identities[index.id]? =
              some (.index ⟨lowered.space.id, index.dimension⟩) := by
  rcases (lower_eq_ok_iff _ _ _ _ _).mp done with ⟨run, rfl, rfl⟩
  have shaped := history.over fits
  have ranked : run.after.plan.nest.rank = lowering.plan.nest.rank :=
    lowering.plan.nest.rank_withExtents run.complete
  have indices : run.after.plan.nest.ownIndices = lowering.plan.nest.ownIndices :=
    lowering.plan.nest.ownIndices_withExtents run.complete
  have counted : lowering.plan.nest.rank = shape.length := by
    rw [← shaped.declaredShape]
    exact (List.length_map _).symm
  refine ⟨run.rank_space.trans ranked.symm, ranked.trans counted, run.numbers,
    lowering.plan.nest.extents_withExtents run.complete, ?_⟩
  intro dimension index found
  rw [indices] at found
  have within : dimension < run.numbers.length := by
    rw [run.complete_indices]
    exact (List.getElem?_eq_some_iff.mp found).1
  have resolved : run.numbers[dimension]? = some run.numbers[dimension] :=
    List.getElem?_eq_getElem within
  rcases run.exists_extent (shaped.declaredShape ▸ extentsRead) resolved with
    ⟨extent, declared, answered⟩
  have known := lowering.plan.schedule.getElem?_prepared run.complete shaped.tokens found resolved
  have number := shaped.dimensions found
  have mapped := run.completes.kept (run.getElem?_of_index shaped.tokens found)
  refine ⟨extent, run.numbers[dimension], shaped.declaredShape ▸ declared, answered,
    run.positive _ (List.getElem_mem within), resolved, resolved, ?_, ?_, number.2, ?_⟩
  · exact congrArg (Option.map Prod.snd) known
  · exact congrArg (Option.map Prod.fst) known
  · rw [number.1]
    exact mapped

end Lowering

/-! ## A plan with a history -/

namespace Sample

/-- The arena that has issued the token of the rows. -/
def arena : Arena :=
  ((Deferred.parameter (σ := Unit) "rows" 0).run Arena.empty).2

theorem busyNest_declared : Nest.DeclaredOver [.deferred rows] busyNest := by
  have fresh : ((Nest.declare [.deferred rows]).run arena).1 = nest := rfl
  have declared : Nest.DeclaredOver [.deferred rows] nest := fresh ▸ .declare arena
  exact (declared.attach logic .plain).attach logic .plain

/-- The small plan after a pass with seven rows and a pass that failed for want
of rows. -/
def used : Lowering (Recorder Unit) Unit :=
  let once := Outcome.state (Lowering.lower arguments (Bindings.empty.put rows 7)
    (lowering busyNest))
  Outcome.state (Lowering.lower arguments .empty once)

theorem used_declared : Nest.DeclaredOver [.deferred rows] used.plan.nest := by
  have declared : Nest.DeclaredOver [.deferred rows] (lowering busyNest).plan.nest :=
    busyNest_declared
  exact (declared.pass arguments (Bindings.empty.put rows 7)).pass arguments .empty

end Sample

namespace Lowering

/-- A pass of this plan with four rows gives a space with four iterations, and
the schedule knows that too. -/
theorem views_of_four_rows :
    ∃ lowered after, lower Sample.arguments Sample.bindings Sample.used = .ok lowered after ∧
      lowered.space.extents[0]? = some 4 ∧
      after.plan.schedule.extent? Sample.loop = some 4 ∧
      after.plan.schedule.dimension? Sample.loop = some 0 ∧
      lowered.identities[Sample.loop.id]? = some (.index ⟨lowered.space.id, 0⟩) := by
  have succeeds : Outcome.Succeeds (lower Sample.arguments Sample.bindings) Sample.used := by
    decide +kernel
  rcases succeeds with ⟨lowered, after, done⟩
  have fits : [Extent.deferred Sample.rows].length <= UInt32.size := by decide
  have reads : forall extent, extent ∈ [Extent.deferred Sample.rows] -> extent.ReadOnly :=
    Sample.extentsRead
  rcases views_agree Sample.used_declared fits reads done with ⟨_, _, numbers, _, views⟩
  have same := sameDeclaration_lower Sample.arguments Sample.bindings Sample.used
  rw [done] at same
  have indices : after.plan.nest.ownIndices = Sample.used.plan.nest.ownIndices := same.indices
  have declared : after.plan.nest.ownIndices[0]? = some Sample.loop := by
    rw [indices]
    decide +kernel
  rcases views 0 Sample.loop declared with
    ⟨extent, number, first, answered, _, inSpace, _, known, noted, _, mapped⟩
  cases first
  have four : (Sample.bindings.applied Sample.used.store).answer?
      (Extent.deferred Sample.rows).resolve = some 4 := by decide +kernel
  cases four.symm.trans answered
  exact ⟨lowered, after, done, inSpace, known, noted, mapped⟩

end Lowering

end LoopNest
