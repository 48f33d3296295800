import LoopNest.Plan.Schedule
import LoopNest.Proofs.Declaration.Slots

namespace LoopNest

/-!
# Extents of a prepared nest

Preparing a pass comes down to one thing: the declared extents are resolved in
order, and the numbers become the current extents.  Nothing else of the nest
changes, and when one extent does not resolve nothing of it changes at all.
-/

/-- The values that attached logic captures directly, in the order of
capture. -/
def Attachment.captured {σ : Type} (attachment : Attachment σ) : List (Capture σ) :=
  attachment.logic.captures.map Prod.snd

namespace Nest

variable {σ : Type}

/-- The loop indices in order, whatever their number. -/
def ownIndices (nest : Nest σ) : List LoopIndex :=
  nest.dimensions.map Dimension.index

/-- The values that all attached logic captures directly, command by command. -/
def captured (nest : Nest σ) : List (Capture σ) :=
  nest.attachments.flatMap Attachment.captured

/-! ## The step of a replay -/

theorem onStore_pure {ε α : Type} (value : α) :
    (onStore (pure value) : EStateM ε (Nest σ × Store σ) α) = pure value :=
  rfl

theorem onStore_bind {ε α γ : Type} (first : EStateM ε (Store σ) α)
    (next : α -> EStateM ε (Store σ) γ) :
    onStore (first >>= next) = onStore first >>= fun value => onStore (next value) := by
  funext ⟨nest, store⟩
  cases outcome : first store with
  | ok value middle =>
      have beside : onStore first (nest, store) = .ok value (nest, middle) := by
        simp only [onStore, outcome]
      rw [Outcome.bind_of_ok beside]
      simp only [onStore, Outcome.bind_of_ok outcome]
  | error error middle =>
      have beside : onStore first (nest, store) = .error error (nest, middle) := by
        simp only [onStore, outcome]
      rw [Outcome.bind_of_error beside]
      simp only [onStore, Outcome.bind_of_error outcome]

theorem mapM_onStore (extents : List (Extent σ)) :
    (extents.mapM fun extent => onStore extent.resolve) =
      onStore (extents.mapM Extent.resolve) := by
  induction extents with
  | nil => rw [List.mapM_nil, List.mapM_nil, onStore_pure]
  | cons extent rest inductionHypothesis =>
      simp only [List.mapM_cons, onStore_bind, inductionHypothesis, onStore_pure]

/-- What runs on the store leaves the nest alone. -/
theorem keeps_onStore {ε α : Type} (program : EStateM ε (Store σ) α) :
    Outcome.Keeps Prod.fst (onStore program) := by
  rintro ⟨nest, store⟩
  unfold onStore
  cases outcome : program store <;> simp only [outcome] <;> rfl

theorem replay_of_ok {nest : Nest σ} {store after : Store σ} {numbers : List Int}
    (resolved : nest.declaredShape.mapM Extent.resolve store = .ok numbers after) :
    replay (nest, store) = .ok () (nest.withExtents numbers, after) := by
  have beside : onStore (nest.declaredShape.mapM Extent.resolve) (nest, store) =
      .ok numbers (nest, after) := by
    simp only [onStore, resolved]
  rw [← mapM_onStore] at beside
  exact Outcome.bind_of_ok beside _

theorem replay_of_error {nest : Nest σ} {store after : Store σ} {error : DeferredError}
    (failed : nest.declaredShape.mapM Extent.resolve store = .error error after) :
    replay (nest, store) = .error error (nest, after) := by
  have beside : onStore (nest.declaredShape.mapM Extent.resolve) (nest, store) =
      .error error (nest, after) := by
    simp only [onStore, failed]
  rw [← mapM_onStore] at beside
  exact Outcome.bind_of_error beside _

/-- A replay that succeeds has resolved all extents and written the numbers. -/
theorem resolved_of_replay {nest : Nest σ} {store : Store σ} {done : Unit}
    {left : Nest σ × Store σ} (replayed : replay (nest, store) = .ok done left) :
    ∃ numbers after, nest.declaredShape.mapM Extent.resolve store = .ok numbers after ∧
      left = (nest.withExtents numbers, after) := by
  cases resolution : nest.declaredShape.mapM Extent.resolve store with
  | ok numbers after =>
      rw [replay_of_ok resolution] at replayed
      cases replayed
      exact ⟨numbers, after, rfl, rfl⟩
  | error error after =>
      rw [replay_of_error resolution] at replayed
      cases replayed

/-- A replay that fails changes nothing of the nest: until all extents are
resolved it works on the store only, and writing them does not fail. -/
theorem nest_of_replay_error {nest left : Nest σ} {store after : Store σ} {error : DeferredError}
    (failed : replay (nest, store) = .error error (left, after)) : left = nest := by
  rcases (Outcome.bind_eq_error_iff _ _ _ _ _).mp failed with impossible | ⟨_, _, read, later⟩
  · cases impossible
  · cases read
    rcases (Outcome.bind_eq_error_iff _ _ _ _ _).mp later with
      unresolved | ⟨numbers, _, _, impossible⟩
    · rw [mapM_onStore] at unresolved
      exact (keeps_onStore _).of_error unresolved
    · cases impossible

theorem replayDeferred_eq (nest : Nest σ) :
    nest.replayDeferred =
      (do
        let numbers <- nest.declaredShape.mapM Extent.resolve
        pure (nest.withExtents numbers)) := by
  funext store
  unfold replayDeferred
  cases resolution : nest.declaredShape.mapM Extent.resolve store with
  | ok numbers after =>
      rw [replay_of_ok resolution, Outcome.bind_of_ok resolution]
      rfl
  | error error after =>
      rw [replay_of_error resolution, Outcome.bind_of_error resolution]

theorem replayDeferred_of_ok {nest : Nest σ} {store after : Store σ} {numbers : List Int}
    (resolved : nest.declaredShape.mapM Extent.resolve store = .ok numbers after) :
    nest.replayDeferred store = .ok (nest.withExtents numbers) after := by
  rw [replayDeferred_eq, Outcome.bind_of_ok resolved]
  rfl

theorem replayDeferred_of_error {nest : Nest σ} {store after : Store σ} {error : DeferredError}
    (failed : nest.declaredShape.mapM Extent.resolve store = .error error after) :
    nest.replayDeferred store = .error error after := by
  rw [replayDeferred_eq, Outcome.bind_of_error failed]

theorem length_of_mapM_resolve {extents : List (Extent σ)} {store after : Store σ}
    {numbers : List Int} (resolved : extents.mapM Extent.resolve store = .ok numbers after) :
    numbers.length = extents.length := by
  induction extents generalizing store numbers with
  | nil =>
      rw [List.mapM_nil] at resolved
      cases resolved
      rfl
  | cons extent rest inductionHypothesis =>
      rw [List.mapM_cons] at resolved
      simp only [Outcome.bind_eq_ok_iff] at resolved
      rcases resolved with ⟨number, middle, _, others, last, tail, ended⟩
      cases ended
      rw [List.length_cons, List.length_cons, inductionHypothesis tail]

/-- Resolving the declared extents gives one number for each dimension. -/
theorem complete_of_mapM_resolve {nest : Nest σ} {store after : Store σ} {numbers : List Int}
    (resolved : nest.declaredShape.mapM Extent.resolve store = .ok numbers after) :
    numbers.length = nest.rank :=
  (length_of_mapM_resolve resolved).trans (List.length_map _)

section WithExtents

variable (nest : Nest σ) {numbers : List Int}

@[simp] theorem attachments_withExtents :
    (nest.withExtents numbers).attachments = nest.attachments :=
  rfl

@[simp] theorem kernelCount_withExtents :
    (nest.withExtents numbers).kernelCount = nest.kernelCount :=
  rfl

theorem currentExtents_withExtents (complete : numbers.length = nest.rank) :
    (nest.withExtents numbers).dimensions.map Dimension.extent = numbers.map .fixed := by
  have seconds : (nest.dimensions.zip numbers).map Prod.snd = numbers :=
    List.map_snd_zip (Nat.le_of_eq complete)
  conv => rhs; rw [← seconds]
  simp only [withExtents, List.map_map]
  rfl

theorem ownIndices_withExtents (complete : numbers.length = nest.rank) :
    (nest.withExtents numbers).ownIndices = nest.ownIndices := by
  have firsts : (nest.dimensions.zip numbers).map Prod.fst = nest.dimensions :=
    List.map_fst_zip (Nat.le_of_eq complete.symm)
  conv => rhs; rw [ownIndices, ← firsts]
  simp only [ownIndices, withExtents, List.map_map]
  rfl

theorem declaredShape_withExtents (complete : numbers.length = nest.rank) :
    (nest.withExtents numbers).declaredShape = nest.declaredShape := by
  have firsts : (nest.dimensions.zip numbers).map Prod.fst = nest.dimensions :=
    List.map_fst_zip (Nat.le_of_eq complete.symm)
  conv => rhs; rw [declaredShape, ← firsts]
  simp only [declaredShape, withExtents, List.map_map]
  rfl

theorem rank_withExtents (complete : numbers.length = nest.rank) :
    (nest.withExtents numbers).rank = nest.rank := by
  have same := congrArg List.length (nest.ownIndices_withExtents complete)
  rw [ownIndices, ownIndices, List.length_map, List.length_map] at same
  exact same

end WithExtents

private theorem map_fixed_eq {first second : List (Dimension σ)}
    (declared : second.map Dimension.declared = first.map Dimension.declared)
    (indices : second.map Dimension.index = first.map Dimension.index) (numbers : List Int) :
    ((second.zip numbers).map fun entry => { entry.1 with extent := Extent.fixed entry.2 }) =
      (first.zip numbers).map fun entry => { entry.1 with extent := Extent.fixed entry.2 } := by
  induction first generalizing second numbers with
  | nil =>
      cases List.map_eq_nil_iff.mp indices
      rfl
  | cons dimension rest inductionHypothesis =>
      cases second with
      | nil => cases indices
      | cons other others =>
          cases numbers with
          | nil => rfl
          | cons number numbers =>
              rw [List.map_cons, List.map_cons, List.cons.injEq] at indices declared
              have heads : ({ other with extent := .fixed number } : Dimension σ) =
                  { dimension with extent := .fixed number } := by
                rw [indices.1, declared.1]
              exact List.cons_eq_cons.mpr ⟨heads, inductionHypothesis declared.2 indices.2 numbers⟩

/-- Once the extents are written, it makes no difference what they were.  Nests
that agree in all else can still list other logic functions. -/
theorem withExtents_eq {first second : Nest σ} (id : second.id = first.id)
    (declared : second.declaredShape = first.declaredShape)
    (indices : second.ownIndices = first.ownIndices)
    (attachments : second.attachments = first.attachments) (numbers : List Int) :
    second.withExtents numbers =
      { first.withExtents numbers with logicFunctions := second.logicFunctions } := by
  unfold withExtents
  rw [map_fixed_eq declared indices numbers, id, attachments]

/-- Extents that are numbers are these numbers. -/
theorem extentsFrom_fixed (position : Nat) (numbers : List Int) :
    extentsFrom position (numbers.map (Extent.fixed (σ := σ))) = .ok numbers := by
  induction numbers generalizing position with
  | nil => rfl
  | cons number rest inductionHypothesis =>
      rw [List.map_cons, extentsFrom, inductionHypothesis]
      rfl

theorem extents_withExtents (nest : Nest σ) {numbers : List Int}
    (complete : numbers.length = nest.rank) :
    (nest.withExtents numbers).extents = .ok numbers := by
  unfold extents
  rw [nest.currentExtents_withExtents complete, extentsFrom_fixed]

end Nest

namespace Schedule

variable {σ : Type}

/-- The schedule after a pass was prepared with these extents. -/
def prepared (schedule : Schedule σ) (numbers : List Int) : Schedule σ :=
  ⟨schedule.nest.withExtents numbers, noteFrom 0 ∅ (schedule.nest.ownIndices.zip numbers)⟩

/-- Preparing a pass succeeds when the declared extents resolve. -/
theorem preparePass_of_ok (schedule : Schedule σ) {store after : Store σ} {numbers : List Int}
    (resolved : schedule.nest.declaredShape.mapM Extent.resolve store = .ok numbers after) :
    preparePass (schedule, store) = .ok () (schedule.prepared numbers, after) := by
  have complete := Nest.complete_of_mapM_resolve resolved
  have replayed : onNest .unresolvableDeferred Nest.replay (ofNest schedule.nest, store) =
      .ok () (ofNest (schedule.nest.withExtents numbers), after) := by
    have done : Nest.replay ((ofNest schedule.nest).nest, store) = _ := Nest.replay_of_ok resolved
    simp only [onNest, done]
    rfl
  refine (Outcome.bind_of_ok replayed _).trans ?_
  have numbered : (ofNest (schedule.nest.withExtents numbers)).nest.extents = .ok numbers :=
    schedule.nest.extents_withExtents complete
  have indices := schedule.nest.ownIndices_withExtents complete
  unfold prepared
  rw [← indices]
  refine (Outcome.bind_of_ok rfl _).trans ?_
  rw [numbered]
  rfl

/-- Preparing a pass fails when a declared extent does not resolve, and then
the schedule knows nothing. -/
theorem preparePass_of_error (schedule : Schedule σ) {store after : Store σ}
    {error : DeferredError}
    (failed : schedule.nest.declaredShape.mapM Extent.resolve store = .error error after) :
    preparePass (schedule, store) =
      .error (.unresolvableDeferred error) (ofNest schedule.nest, after) := by
  have stopped : onNest .unresolvableDeferred Nest.replay (ofNest schedule.nest, store) =
      .error (.unresolvableDeferred error) (ofNest schedule.nest, after) := by
    have left : Nest.replay ((ofNest schedule.nest).nest, store) = _ := Nest.replay_of_error failed
    simp only [onNest, left]
  exact Outcome.bind_of_error stopped _

end Schedule

end LoopNest
