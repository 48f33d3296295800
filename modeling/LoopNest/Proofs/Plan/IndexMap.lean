import LoopNest.Proofs.Plan.Structure
import LoopNest.Proofs.Plan.Views

namespace LoopNest

/-!
# What a schedule knows

A schedule takes down the dimension and the extent of every loop index when a
pass is prepared, and it keeps this from pass to pass.  The current extents are
kept as well, but in the nest.  The two never disagree: before extents are
written the schedule forgets everything, and it takes the indices down only
after all extents are written.  So at any time the schedule knows nothing, or it
knows all loop indices of its nest with their current extents, and no others.
-/

/-- Among the loop indices of one arena, one that is not of the nest carries
another token. -/
theorem Nest.id_notMem_ownTokens {σ : Type} {nest : Nest σ} {index : LoopIndex}
    (issued : FromOneArena (σ := σ) (.index index :: nest.ownIndices.map .index))
    (other : index ∉ nest.ownIndices) : index.id ∉ nest.ownTokens := by
  intro shared
  rcases List.mem_map.mp shared with ⟨own, member, same⟩
  have ownMember : (Capture.index own : Capture σ) ∈
      Capture.index index :: nest.ownIndices.map Capture.index :=
    List.mem_cons_of_mem _ (List.mem_map_of_mem member)
  have equal := issued.eq_of_identity List.mem_cons_self ownMember rfl (congrArg some same)
  cases equal
  exact other member

namespace Schedule

variable {σ : Type}

/-- A schedule over this nest after passes were prepared and plans with the
schedule were lowered, on any backends, with any parameters bound at the time
and with any outcome. -/
inductive Used (nest : Nest σ) : Schedule σ -> Prop
  | fresh : Used nest (ofNest nest)
  | prepare {schedule : Schedule σ} (history : Used nest schedule) (store : Store σ) :
      Used nest (Outcome.state (preparePass (schedule, store))).1
  | lower {β : Type} [Backend σ β] {lowering : Lowering β σ}
      (history : Used nest lowering.plan.schedule) (arguments : Arguments σ)
      (bindings : Bindings σ) :
      Used nest (Outcome.state (Lowering.lower arguments bindings lowering)).plan.schedule

/-- The schedule knows the loop indices of its nest, each with its dimension and
its current extent, and nothing else. -/
structure KnowsAll (schedule : Schedule σ) : Prop where
  size : schedule.indexMap.size = schedule.nest.rank
  known : forall {dimension : Nat} {index : LoopIndex},
    schedule.nest.ownIndices[dimension]? = some index ->
      ∃ extent, schedule.nest.currentExtents[dimension]? = some (.fixed extent) ∧
        schedule.indexMap[index.id]? = some (dimension, extent)
  others : forall {token : Token}, token ∉ schedule.nest.ownTokens ->
    schedule.indexMap[token]? = none

/-- Indices with distinct tokens that are new to the map all add to it. -/
theorem size_noteFrom (position : Nat) (known : Std.ExtTreeMap Token (Nat × Int))
    {entries : List (LoopIndex × Int)} (distinct : (entries.map fun entry => entry.1.id).Nodup)
    (fresh : forall entry, entry ∈ entries -> entry.1.id ∉ known) :
    (noteFrom position known entries).size = known.size + entries.length := by
  induction entries generalizing position known with
  | nil => rfl
  | cons entry rest inductionHypothesis =>
      rw [List.map_cons, List.nodup_cons] at distinct
      rw [List.forall_mem_cons] at fresh
      have freshRest : forall other, other ∈ rest ->
          other.1.id ∉ known.insert entry.1.id (position, entry.2) := by
        intro other member inserted
        rcases Std.ExtTreeMap.mem_insert.mp inserted with same | earlier
        · refine distinct.1 (List.mem_map.mpr ⟨other, member, ?_⟩)
          exact (Std.LawfulEqOrd.eq_of_compare same).symm
        · exact fresh.2 other member earlier
      have absent : ¬known.contains entry.1.id = true := fresh.1
      rw [noteFrom, inductionHypothesis _ _ distinct.2 freshRest, Std.ExtTreeMap.size_insert,
        if_neg absent, List.length_cons]
      omega

section Prepared

variable (schedule : Schedule σ) {numbers : List Int}

/-- The tokens that are taken down are those of the loop indices. -/
theorem tokens_zip (complete : numbers.length = schedule.nest.rank) :
    ((schedule.nest.ownIndices.zip numbers).map fun entry => entry.1.id) =
      schedule.nest.ownTokens := by
  have firsts : (schedule.nest.ownIndices.zip numbers).map Prod.fst = schedule.nest.ownIndices := by
    apply List.map_fst_zip
    rw [complete]
    exact Nat.le_of_eq (List.length_map _)
  have mapped := congrArg (List.map LoopIndex.id) firsts
  rw [List.map_map] at mapped
  exact mapped

/-- A schedule that is prepared knows all loop indices, whatever it knew
before. -/
theorem knowsAll_prepared (complete : numbers.length = schedule.nest.rank)
    (distinct : schedule.nest.ownTokens.Nodup) : (schedule.prepared numbers).KnowsAll := by
  have indices : (schedule.prepared numbers).nest.ownIndices = schedule.nest.ownIndices :=
    schedule.nest.ownIndices_withExtents complete
  have extents : (schedule.prepared numbers).nest.currentExtents = numbers.map .fixed :=
    schedule.nest.currentExtents_withExtents complete
  have ranked : (schedule.prepared numbers).nest.rank = schedule.nest.rank :=
    schedule.nest.rank_withExtents complete
  have counted : schedule.nest.ownIndices.length = schedule.nest.rank := List.length_map _
  have tokens := schedule.tokens_zip complete
  refine ⟨?_, ?_, ?_⟩
  · have nothing : forall entry, entry ∈ schedule.nest.ownIndices.zip numbers ->
        entry.1.id ∉ (∅ : Std.ExtTreeMap Token (Nat × Int)) := fun _ _ =>
      Std.ExtTreeMap.not_mem_empty
    have added := size_noteFrom 0 ∅ (tokens ▸ distinct) nothing
    rw [List.length_zip, counted, complete, Nat.min_self, Std.ExtTreeMap.size_empty,
      Nat.zero_add] at added
    exact added.trans ranked.symm
  · intro dimension index found
    rw [indices] at found
    have within : dimension < numbers.length := by
      rw [complete, ← counted]
      exact (List.getElem?_eq_some_iff.mp found).1
    have number := List.getElem?_eq_getElem within
    refine ⟨numbers[dimension], ?_, schedule.getElem?_prepared complete distinct found number⟩
    rw [extents, List.getElem?_map, number]
    rfl
  · intro token foreign
    rw [Nest.ownTokens, indices] at foreign
    have absent : token ∉ (schedule.nest.ownIndices.zip numbers).map fun entry => entry.1.id := by
      rw [tokens]
      exact foreign
    have unnoted := getElem?_noteFrom_of_notMem 0 ∅ _ absent
    exact unnoted.trans Std.ExtTreeMap.getElem?_empty

end Prepared

/-- The schedule knows nothing, or all loop indices of its nest. -/
def InStep (schedule : Schedule σ) : Prop :=
  schedule.indexMap = ∅ ∨ schedule.KnowsAll

/-- Whatever becomes of a schedule, it stays in step with its nest. -/
theorem InStep.proceeds {schedule next : Schedule σ} (inStep : schedule.InStep)
    (distinct : schedule.nest.ownTokens.Nodup) (proceeds : schedule.Proceeds next) :
    next.InStep := by
  cases proceeds with
  | kept => exact inStep
  | cleared => exact .inl rfl
  | prepared resolved =>
      have complete := Nest.complete_of_mapM_resolve resolved
      exact .inr (schedule.knowsAll_prepared complete distinct)

theorem Proceeds.ownTokens {schedule next : Schedule σ} (proceeds : schedule.Proceeds next) :
    next.nest.ownTokens = schedule.nest.ownTokens := by
  cases proceeds with
  | kept => rfl
  | cleared => rfl
  | prepared resolved =>
      have complete := Nest.complete_of_mapM_resolve resolved
      exact congrArg (·.map LoopIndex.id) (schedule.nest.ownIndices_withExtents complete)

/-- A schedule in use keeps the tokens of its loop indices, and it is in step. -/
theorem Used.inStep {nest : Nest σ} {schedule : Schedule σ} (history : Used nest schedule)
    (distinct : nest.ownTokens.Nodup) :
    schedule.nest.ownTokens = nest.ownTokens ∧ schedule.InStep := by
  have proceeds {earlier later : Schedule σ} (proceeds : earlier.Proceeds later)
      (before : earlier.nest.ownTokens = nest.ownTokens ∧ earlier.InStep) :
      later.nest.ownTokens = nest.ownTokens ∧ later.InStep :=
    ⟨proceeds.ownTokens.trans before.1, before.2.proceeds (before.1 ▸ distinct) proceeds⟩
  induction history with
  | fresh => exact ⟨rfl, .inl rfl⟩
  | prepare _ store inductionHypothesis =>
      exact proceeds (proceeds_preparePass _ store) inductionHypothesis
  | lower _ arguments bindings inductionHypothesis =>
      exact proceeds (Lowering.proceeds_lower arguments bindings _) inductionHypothesis

section InStep

variable {schedule : Schedule σ}

/-- What a schedule in step tells of a loop index of its nest: nothing, or the
dimension and the current extent. -/
theorem InStep.own (inStep : schedule.InStep) {dimension : Nat} {index : LoopIndex}
    (found : schedule.nest.ownIndices[dimension]? = some index) :
    (schedule.dimension? index = none ∧ schedule.extent? index = none) ∨
      ∃ extent, schedule.nest.currentExtents[dimension]? = some (.fixed extent) ∧
        schedule.dimension? index = some dimension ∧ schedule.extent? index = some extent := by
  unfold dimension? extent?
  rcases inStep with nothing | knowsAll
  · rw [nothing, Std.ExtTreeMap.getElem?_empty]
    exact .inl ⟨rfl, rfl⟩
  · rcases knowsAll.known found with ⟨extent, current, entry⟩
    rw [entry]
    exact .inr ⟨extent, current, rfl, rfl⟩

/-- A schedule in step tells nothing of other tokens. -/
theorem InStep.other (inStep : schedule.InStep) {index : LoopIndex}
    (foreign : index.id ∉ schedule.nest.ownTokens) :
    schedule.dimension? index = none ∧ schedule.extent? index = none := by
  have missing : schedule.indexMap[index.id]? = none := by
    rcases inStep with nothing | knowsAll
    · rw [nothing, Std.ExtTreeMap.getElem?_empty]
    · exact knowsAll.others foreign
  unfold dimension? extent?
  rw [missing]
  exact ⟨rfl, rfl⟩

end InStep

/-- However a schedule was used, its index map is empty or it has one entry for
each dimension, which takes the token of the loop index to the dimension and to
the current extent.  It is empty after a pass could not be prepared, and full
after one could.  So of a loop index of the nest the schedule tells nothing that
the nest no longer has, and of another index of the arena it tells nothing at
all. -/
theorem index_map_in_step {shape : List (Extent σ)} {nest : Nest σ} {schedule : Schedule σ}
    (fits : shape.length <= UInt32.size) (declared : nest.DeclaredOver shape)
    (history : Used nest schedule) :
    (schedule.indexMap = ∅ ∨ schedule.KnowsAll) ∧
    (forall store after error,
      preparePass (schedule, store) = .error error after -> after.1.indexMap = ∅) ∧
    (forall store after,
      preparePass (schedule, store) = .ok () after -> after.1.KnowsAll) ∧
    (forall (dimension : Nat) (index : LoopIndex),
      schedule.nest.ownIndices[dimension]? = some index ->
        (schedule.dimension? index = none ∧ schedule.extent? index = none) ∨
          ∃ extent, schedule.nest.currentExtents[dimension]? = some (.fixed extent) ∧
            schedule.dimension? index = some dimension ∧ schedule.extent? index = some extent) ∧
    forall index : LoopIndex,
      FromOneArena (σ := σ) (.index index :: schedule.nest.ownIndices.map .index) ->
        index ∉ schedule.nest.ownIndices ->
          schedule.dimension? index = none ∧ schedule.extent? index = none := by
  have distinct := (declared.over fits).tokens
  rcases history.inStep distinct with ⟨tokens, inStep⟩
  refine ⟨inStep, ?_, ?_, fun _ _ found => inStep.own found, ?_⟩
  · intro store after error failed
    cases resolution : schedule.nest.declaredShape.mapM Extent.resolve store with
    | error fault resolved =>
        rw [schedule.preparePass_of_error resolution] at failed
        cases failed
        rfl
    | ok numbers resolved =>
        rw [schedule.preparePass_of_ok resolution] at failed
        cases failed
  · intro store after done
    cases resolution : schedule.nest.declaredShape.mapM Extent.resolve store with
    | error fault resolved =>
        rw [schedule.preparePass_of_error resolution] at done
        cases done
    | ok numbers resolved =>
        rw [schedule.preparePass_of_ok resolution] at done
        cases done
        exact schedule.knowsAll_prepared (Nest.complete_of_mapM_resolve resolution)
          (tokens ▸ distinct)
  · intro index issued other
    exact inStep.other (Nest.id_notMem_ownTokens issued other)

end Schedule

/-! ## A schedule between two nests -/

namespace Sample

/-- The schedule of the small plan after a pass with seven rows. -/
def sevenRows : Schedule Unit :=
  (Outcome.state (Lowering.lower arguments (Bindings.empty.put rows 7)
    (lowering busyNest))).plan.schedule

/-- The loop index of the nest that is declared next in the arena. -/
def otherLoop : LoopIndex :=
  ⟨⟨5⟩, ⟨1⟩, 0⟩

theorem sevenRows_used : Schedule.Used busyNest sevenRows :=
  have unused : Schedule.Used busyNest (lowering busyNest).plan.schedule := .fresh
  unused.lower arguments (Bindings.empty.put rows 7)

theorem ownIndices_sevenRows : sevenRows.nest.ownIndices = [loop] := by
  decide +kernel

/-- Both loop indices come from one arena. -/
theorem otherLoop_issued :
    FromOneArena (σ := Unit) (.index otherLoop :: sevenRows.nest.ownIndices.map .index) := by
  rw [ownIndices_sevenRows]
  refine ⟨[.deferred "rows" (.parameter 0), .nest, .index ⟨0⟩ 0,
    .array .temporary .float64 ⟨[4], .first⟩,
    .array (.constant (.ints [1, 2])) .int32 ⟨[2], .first⟩,
    .array .input .float32 ⟨[4], .first⟩, .nest, .index ⟨1⟩ 0], by decide, ?_⟩
  intro value member _
  have served : ((Arena.serveAll [.deferred "rows" (.parameter 0), .nest, .index ⟨0⟩ 0,
      .array .temporary .float64 ⟨[4], .first⟩,
      .array (.constant (.ints [1, 2])) .int32 ⟨[2], .first⟩,
      .array .input .float32 ⟨[4], .first⟩, .nest, .index ⟨1⟩ 0]).run Arena.empty).1 =
      [.deferred rows, .index loop, .array scratch, .array table, .array input,
        .index otherLoop] := rfl
  rw [served]
  rcases List.mem_cons.mp member with rfl | own
  · simp
  · rw [List.mem_singleton.mp own]
    simp

end Sample

namespace Schedule

/-- After a pass with seven rows the schedule tells that there are seven, which
is the current extent, and it tells nothing of the other nest.  When it cannot be
prepared again for want of rows, it forgets what it knew. -/
theorem index_map_of_seven_rows :
    Sample.sevenRows.dimension? Sample.loop = some 0 ∧
      Sample.sevenRows.extent? Sample.loop = some 7 ∧
      Sample.sevenRows.nest.currentExtents[0]? = some (.fixed 7) ∧
      Sample.sevenRows.dimension? Sample.otherLoop = none ∧
      Sample.sevenRows.extent? Sample.otherLoop = none ∧
      ∃ error after,
        preparePass (Sample.sevenRows, Store.initial ()) = .error error after ∧
          after.1.indexMap = ∅ := by
  have fits : [Extent.deferred Sample.rows].length <= UInt32.size := by decide
  rcases index_map_in_step fits Sample.busyNest_declared Sample.sevenRows_used with
    ⟨_, failing, _, own, foreign⟩
  have other : Sample.otherLoop ∉ Sample.sevenRows.nest.ownIndices := by
    rw [Sample.ownIndices_sevenRows]
    decide
  have unknown := foreign Sample.otherLoop Sample.otherLoop_issued other
  have first : Sample.sevenRows.nest.ownIndices[0]? = some Sample.loop := by
    rw [Sample.ownIndices_sevenRows]
    rfl
  have seven : Sample.sevenRows.extent? Sample.loop = some 7 := by decide +kernel
  have unprepared : ∃ error after,
      preparePass (Sample.sevenRows, Store.initial ()) = .error error after := by
    have stuck : ¬Outcome.Succeeds preparePass (Sample.sevenRows, Store.initial ()) := by
      decide +kernel
    cases failed : preparePass (Sample.sevenRows, Store.initial ()) with
    | ok _ after => exact absurd ⟨_, after, failed⟩ stuck
    | error error after => exact ⟨error, after, rfl⟩
  rcases unprepared with ⟨error, after, failed⟩
  rcases own 0 Sample.loop first with ⟨_, nothing⟩ | ⟨extent, current, dimension, told⟩
  · rw [seven] at nothing
    cases nothing
  · cases seven.symm.trans told
    exact ⟨dimension, seven, current, unknown.1, unknown.2, error, after, failed,
      failing _ _ _ failed⟩

end Schedule

end LoopNest
