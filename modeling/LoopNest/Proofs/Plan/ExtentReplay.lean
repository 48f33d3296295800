import LoopNest.Proofs.First
import LoopNest.Proofs.Plan.Extents
import LoopNest.Proofs.Plan.Structure

namespace LoopNest

/-!
# Replaying the extents of a nest

A nest is replayed as often as passes need it, with other parameters bound each
time.  Only the declared extents are resolved, never the current ones, so what a
replay gives does not depend on the replays before it.  If the extents only read
the slots, replay gives a number for each of them, or it fails at the first one
that has none, and then the nest stays as it was.
-/

namespace Extent

variable {σ : Type}

/-- The extent gives no number now. -/
def Unanswered (store : Store σ) (extent : Extent σ) : Prop :=
  store.answer? extent.resolve = none

/-- Extents that are numbers always answer. -/
theorem Unanswered.exists_deferred {store : Store σ} {extent : Extent σ}
    (unanswered : extent.Unanswered store) : ∃ value, extent = .deferred value := by
  cases extent with
  | fixed number => cases unanswered
  | deferred value => exact ⟨value, rfl⟩

theorem not_unanswered_iff (store : Store σ) (extent : Extent σ) :
    ¬ extent.Unanswered store <-> ∃ number, store.answer? extent.resolve = some number :=
  Option.ne_none_iff_exists'

/-- An extent that only reads the slots fails when it gives no number, and the
store stays as it is. -/
theorem ReadOnly.exists_error {extent : Extent σ} (reads : extent.ReadOnly) {store : Store σ}
    (unanswered : extent.Unanswered store) :
    ∃ error, extent.resolve store = .error error store := by
  rcases reads.resolve with ⟨read, rule_eq⟩
  unfold Unanswered Store.answer? at unanswered
  rw [rule_eq] at unanswered ⊢
  cases answer : read store.bound with
  | ok number =>
      rw [answer] at unanswered
      cases unanswered
  | error error => exact ⟨error, rfl⟩

theorem exists_numbers {extents : List (Extent σ)} {store : Store σ}
    (answered : forall extent, extent ∈ extents -> ¬ extent.Unanswered store) :
    ∃ numbers : List Int,
      (extents.map fun extent => store.answer? extent.resolve) = numbers.map some := by
  have answers : forall extent, extent ∈ extents ->
      ∃ number, store.answer? extent.resolve = some number ∧ True := by
    intro extent member
    rcases (not_unanswered_iff _ _).mp (answered extent member) with ⟨number, given⟩
    exact ⟨number, given, trivial⟩
  rcases (exists_answers_iff (fun _ => True) extents store).mpr answers with ⟨numbers, all, _⟩
  exact ⟨numbers, all⟩

section ReadOnly

variable {extents : List (Extent σ)}

/-- Resolving extents in order fails at the first one that gives no number.
Those before it answer, and leave the store as it is. -/
theorem mapM_resolve_of_first (reads : forall extent, extent ∈ extents -> extent.ReadOnly)
    {store : Store σ} {dimension : Nat} {extent : Extent σ} {error : DeferredError}
    (first : FirstAt (Unanswered store) extents dimension extent)
    (failed : extent.resolve store = .error error store) :
    extents.mapM resolve store = .error error store := by
  rcases exists_numbers first.earlier with ⟨numbers, answers⟩
  have readsEarlier : forall other, other ∈ extents.take dimension -> other.ReadOnly :=
    fun other member => reads other (List.mem_of_mem_take member)
  have before := (mapM_resolve_eq_ok_iff _ readsEarlier store store numbers).mpr ⟨answers, rfl⟩
  rw [first.split, List.mapM_append, Outcome.bind_of_ok before, List.mapM_cons]
  exact Outcome.bind_of_error (Outcome.bind_of_error failed _) _

/-- The outcome of resolving extents in order: all of them answer, or there is a
first one that does not. -/
theorem resolves_or_fails (reads : forall extent, extent ∈ extents -> extent.ReadOnly)
    (store : Store σ) :
    (∃ numbers, extents.mapM resolve store = .ok numbers store ∧
        (extents.map fun extent => store.answer? extent.resolve) = numbers.map some) ∨
      ∃ error dimension value, extents.mapM resolve store = .error error store ∧
        FirstAt (Unanswered store) extents dimension (.deferred value) ∧
          value.resolve store = .error error store := by
  rcases FirstAt.exists_or_forall (Unanswered store) extents with
    ⟨dimension, extent, first⟩ | answered
  · rcases first.here.exists_deferred with ⟨value, rfl⟩
    rcases (reads _ (List.mem_of_getElem? first.found)).exists_error first.here with
      ⟨error, failed⟩
    exact .inr ⟨error, dimension, value, mapM_resolve_of_first reads first failed, first, failed⟩
  · rcases exists_numbers answered with ⟨numbers, answers⟩
    exact .inl ⟨numbers, (mapM_resolve_eq_ok_iff _ reads _ _ _).mpr ⟨answers, rfl⟩, answers⟩

end ReadOnly

end Extent

namespace Nest

variable {σ : Type}

/-- Replay does the same to nests of one declaration, whatever their current
extents are. -/
theorem replayDeferred_congr {first second : Nest σ} (id : second.id = first.id)
    (declared : second.declaredShape = first.declaredShape)
    (indices : second.ownIndices = first.ownIndices)
    (attachments : second.attachments = first.attachments)
    (logicFunctions : second.logicFunctions = first.logicFunctions) :
    second.replayDeferred = first.replayDeferred := by
  have written (numbers : List Int) :
      second.withExtents numbers = first.withExtents numbers := by
    rw [withExtents_eq id declared indices attachments, logicFunctions]
    rfl
  simp only [replayDeferred_eq, declared, written]

section ReadOnly

variable {nest : Nest σ} (reads : forall extent, extent ∈ nest.declaredShape -> extent.ReadOnly)
  (store : Store σ)
include reads

/-- Replay only reads the slots if the extents do. -/
theorem readOnly_replayDeferred : Store.ReadOnly nest.replayDeferred := by
  rw [replayDeferred_eq]
  exact (Store.ReadOnly.mapM fun extent member => (reads extent member).resolve).bind
    fun _ => Store.readOnly_pure _

/-- The outcome of a replay: the extents are the answers, or the first extent
that gives no number is the error. -/
theorem replays_or_fails :
    (∃ numbers : List Int, nest.replayDeferred store = .ok (nest.withExtents numbers) store ∧
        (nest.declaredShape.map fun extent => store.answer? extent.resolve) = numbers.map some) ∨
      ∃ error dimension value, nest.replayDeferred store = .error error store ∧
        FirstAt (Extent.Unanswered store) nest.declaredShape dimension (.deferred value) ∧
          value.resolve store = .error error store := by
  rcases Extent.resolves_or_fails reads store with
    ⟨numbers, resolved, answers⟩ | ⟨error, dimension, value, failed, first, unresolved⟩
  · exact .inl ⟨numbers, replayDeferred_of_ok resolved, answers⟩
  · exact .inr ⟨error, dimension, value, replayDeferred_of_error failed, first, unresolved⟩

/-- Replay succeeds when every deferred extent gives a number. -/
theorem succeeds_replayDeferred_iff :
    Outcome.Succeeds nest.replayDeferred store <->
      forall value, .deferred value ∈ nest.declaredShape ->
        ∃ number, store.answer? value.resolve = some number := by
  constructor
  · rintro ⟨next, after, done⟩ value member
    rcases replays_or_fails reads store with ⟨numbers, _, answers⟩ | ⟨_, _, _, failed, _⟩
    · have listed := List.mem_map_of_mem (f := fun extent => store.answer? extent.resolve) member
      rw [answers] at listed
      rcases List.mem_map.mp listed with ⟨number, _, same⟩
      exact ⟨number, same.symm⟩
    · cases done.symm.trans failed
  · intro answered
    rcases replays_or_fails reads store with ⟨numbers, done, _⟩ | ⟨_, _, value, _, first, _⟩
    · exact ⟨_, _, done⟩
    · have member := List.mem_of_getElem? first.found
      exact absurd first.here ((Extent.not_unanswered_iff _ _).mpr (answered value member))

variable {store}

/-- A replay that succeeds leaves the store as it is and writes the answers. -/
theorem exists_answers_of_ok {next : Nest σ} {after : Store σ}
    (done : nest.replayDeferred store = .ok next after) :
    after = store ∧ ∃ numbers : List Int, numbers.length = nest.rank ∧
      next = nest.withExtents numbers ∧
        (nest.declaredShape.map fun extent => store.answer? extent.resolve) =
          numbers.map some := by
  rcases replays_or_fails reads store with ⟨numbers, written, answers⟩ | ⟨_, _, _, failed, _⟩
  · cases written.symm.trans done
    have counted := congrArg List.length answers
    rw [List.length_map, List.length_map] at counted
    exact ⟨rfl, numbers, counted.symm.trans (List.length_map _), rfl, answers⟩
  · cases failed.symm.trans done

/-- A replay that fails leaves the store as it is and fails as the first extent
does that gives no number. -/
theorem exists_first_of_error {error : DeferredError} {after : Store σ}
    (failed : nest.replayDeferred store = .error error after) :
    after = store ∧ ∃ dimension value,
      FirstAt (Extent.Unanswered store) nest.declaredShape dimension (.deferred value) ∧
        value.resolve store = .error error store := by
  rcases replays_or_fails reads store with
    ⟨_, done, _⟩ | ⟨_, dimension, value, stopped, first, unresolved⟩
  · cases failed.symm.trans done
  · cases stopped.symm.trans failed
    exact ⟨rfl, dimension, value, first, unresolved⟩

end ReadOnly

/-- Whatever happened to a nest whose extents only read the slots, replay gives a
number for each declared extent if each of them answers now, and otherwise it
fails with the failure of the first one that does not.  In the first case the
extents are the answers, in the second the nest is as it was.  With the same
slots bound the same replay gives the same again, and it does what it does to a
nest to which the commands were attached and nothing else was done. -/
theorem replay_follows_the_slots {shape : List (Extent σ)} {arena : Arena}
    {commands : List (Attachment σ)} {nest : Nest σ}
    (reads : forall extent, extent ∈ shape -> extent.ReadOnly)
    (history : Evolves ((declare shape).run arena).1 commands nest) (store : Store σ) :
    let unreplayed : Nest σ :=
      { ((declare shape).run arena).1 with
        attachments := commands
        logicFunctions := commands.map Attachment.logic }
    (Outcome.Succeeds nest.replayDeferred store <->
      forall value, .deferred value ∈ shape ->
        ∃ number, store.answer? value.resolve = some number) ∧
    (forall next after, nest.replayDeferred store = .ok next after ->
      after = store ∧ nest.replayed store = next ∧
      (∃ numbers : List Int,
        (shape.map fun extent => store.answer? extent.resolve) = numbers.map some ∧
          next.shape.toList = numbers.map .fixed) ∧
      forall again, again.bound = store.bound -> next.replayDeferred again = .ok next again) ∧
    (forall error after, nest.replayDeferred store = .error error after ->
      after = store ∧ nest.replayed store = nest ∧
      (∃ dimension value,
        FirstAt (Extent.Unanswered store) shape dimension (.deferred value) ∧
          value.resolve store = .error error store) ∧
      forall again, again.bound = store.bound ->
        nest.replayDeferred again = .error error again) ∧
    nest.replayDeferred = unreplayed.replayDeferred := by
  intro unreplayed
  have kept := history.kept (currentExtents_declare shape arena)
  have declared : nest.declaredShape = shape :=
    kept.declaredShape.trans (declaredShape_declare shape arena)
  rw [← declared] at reads
  have readOnly := readOnly_replayDeferred reads
  refine ⟨?succeeds, ?ok, ?error, ?memoryless⟩
  case succeeds =>
    rw [succeeds_replayDeferred_iff reads, declared]
  case ok =>
    intro next after done
    have replayed : nest.replayed store = next := replayed_of_ok done
    rcases exists_answers_of_ok reads done with ⟨unchanged, numbers, complete, rfl, answers⟩
    have sameReplay : (nest.withExtents numbers).replayDeferred = nest.replayDeferred :=
      replayDeferred_congr rfl (nest.declaredShape_withExtents complete)
        (nest.ownIndices_withExtents complete) rfl rfl
    have written := nest.currentExtents_withExtents complete
    rw [declared] at answers
    refine ⟨unchanged, replayed, ⟨numbers, answers, (Dims.toList_ofList _).trans written⟩, ?_⟩
    intro again same
    rw [sameReplay]
    exact readOnly.again_of_ok done same
  case error =>
    intro error after failed
    have replayed : nest.replayed store = nest := replayed_of_error failed
    rcases exists_first_of_error reads failed with ⟨unchanged, dimension, value, first, unresolved⟩
    rw [declared] at first
    exact ⟨unchanged, replayed, ⟨dimension, value, first, unresolved⟩,
      fun again same => readOnly.again_of_error failed same⟩
  case memoryless =>
    exact replayDeferred_congr kept.id kept.declaredShape kept.indices
      (kept.attachments.trans (List.nil_append commands))
      (kept.logicFunctions.trans (List.nil_append _))

end Nest

/-! ## A nest that was lowered before -/

namespace Sample

/-- Nine rows. -/
def nineRows : Store Unit :=
  (Store.initial ()).write 0 9

end Sample

namespace Nest

/-- After a pass with four rows the nest is replayed with nine, and its extents
are three and nine.  With nothing bound the replay fails, and the nest stays as
that pass left it. -/
theorem replay_of_grownGrid :
    (Sample.grownGrid.replayed Sample.nineRows).shape.toList = [.fixed 3, .fixed 9] ∧
      Sample.grownGrid.replayed (Store.initial ()) = Sample.grownGrid := by
  have reads : forall extent, extent ∈ [Extent.fixed 3, .deferred Sample.rows] ->
      extent.ReadOnly := by
    rw [List.forall_mem_cons, List.forall_mem_singleton]
    exact ⟨trivial, Sample.rows_readOnly⟩
  have follows := replay_follows_the_slots reads Sample.grownGrid_evolves
  constructor
  · rcases follows Sample.nineRows with ⟨succeeds, ok, _, _⟩
    have answered : Outcome.Succeeds Sample.grownGrid.replayDeferred Sample.nineRows := by
      refine succeeds.mpr fun value member => ⟨9, ?_⟩
      rcases List.mem_cons.mp member with same | listed
      · cases same
      · cases List.mem_singleton.mp listed
        decide +kernel
    rcases answered with ⟨next, after, done⟩
    rcases ok next after done with ⟨_, replayed, ⟨numbers, answers, shape⟩, _⟩
    have computed : ([Extent.fixed 3, .deferred Sample.rows].map fun extent =>
        Sample.nineRows.answer? extent.resolve) = [3, 9].map some := by decide +kernel
    have same : numbers = [3, 9] :=
      (List.map_inj_right fun _ _ => Option.some.inj).mp (answers.symm.trans computed)
    rw [replayed, shape, same]
    rfl
  · rcases follows (Store.initial ()) with ⟨succeeds, _, fails, _⟩
    cases outcome : Sample.grownGrid.replayDeferred (Store.initial ()) with
    | ok next after =>
        rcases succeeds.mp ⟨next, after, outcome⟩ Sample.rows
          (List.mem_cons_of_mem _ List.mem_cons_self) with ⟨number, answered⟩
        have unbound : (Store.initial ()).answer? Sample.rows.resolve = none := by decide +kernel
        cases unbound.symm.trans answered
    | error error after => exact (fails error after outcome).2.1

end Nest

end LoopNest
