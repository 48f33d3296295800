import LoopNest.Proofs.Nest.Replay
import LoopNest.Proofs.Pass.Supplying
import LoopNest.Proofs.Plan.Identities

namespace LoopNest

/-!
# When a pass succeeds

A pass on a recorder that rejects nothing, without strictness, succeeds when
its inputs are in order.  The inputs are looked at before the pass: the
bindings, the declared extents, the arguments, and the values that the logic
captures, all of them with the bindings applied.  What an earlier stage of the
pass recorded excuses a captured value in one case only, when an argument
carries its token.
-/

/-! ## The handles of the small plan -/

namespace Sample

/-- The values that the logic of the small plan captures. -/
def values : List (Capture Unit) :=
  [.deferred rows, .index loop, .array scratch, .array table,
    .sequence [.array input, .array scratch, .index loop]]

theorem captured_eq : busyNest.captured = values ++ values :=
  rfl

theorem readOnly :
    forall capture, capture ∈ busyNest.captured -> capture.ReadOnly := by
  have once : forall capture, capture ∈ values -> capture.ReadOnly := by
    simp [values, Capture.ReadOnly, Deferred.ReadOnly, rows]
  rw [captured_eq, List.forall_mem_append]
  exact ⟨once, once⟩

theorem extentsRead :
    forall extent, extent ∈ busyNest.declaredShape -> extent.ReadOnly := by
  intro extent member
  rw [List.mem_singleton.mp member]
  trivial

/-- All handles of the small plan, in the order in which an arena issues them. -/
theorem fromOneArena :
    FromOneArena (busyNest.ownIndices.map .index ++ busyNest.captured) := by
  refine ⟨[.deferred "rows" (.parameter 0), .nest, .index ⟨0⟩ 0,
    .array .temporary .float64 ⟨[4], .first⟩,
    .array (.constant (.ints [1, 2])) .int32 ⟨[2], .first⟩,
    .array .input .float32 ⟨[4], .first⟩], by decide, ?_⟩
  have served : forall value, value ∈ values -> value.identity?.isSome = true ->
      value ∈ [.deferred rows, .index loop, .array scratch,
        .array table, .array input] := by
    simp [values, Capture.identity?]
  rw [captured_eq, List.forall_mem_append, List.forall_mem_append]
  refine ⟨?_, served, served⟩
  intro value member _
  rw [List.mem_singleton.mp member]
  exact List.mem_cons_of_mem _ List.mem_cons_self

end Sample

/-! ## Inputs in order -/

namespace Lowering

variable {σ : Type}

/-- The inputs of a pass are in order. -/
structure Ready (arguments : Arguments σ) (bindings : Bindings σ)
    (lowering : Lowering (Recorder σ) σ) : Prop where
  parameters : forall entry, entry ∈ bindings.entries -> entry.1.isParameter = true
  extents : forall extent, extent ∈ lowering.plan.nest.declaredShape ->
    ∃ number, (bindings.applied lowering.store).answer? extent.resolve = some number ∧ 0 < number
  counts : arguments.captures.length = arguments.runtime.length
  pairs : forall pair, pair ∈ arguments.captures.zip arguments.runtime -> pair.1.Takes pair.2
  deferred : forall value, .deferred value ∈ lowering.plan.nest.captured ->
    value.id ∉ arguments.tokens ->
      ∃ number, (bindings.applied lowering.store).answer? value.resolve = some number
  sequences : forall produce, .lazy produce ∈ lowering.plan.nest.captured ->
    ∃ elements, (bindings.applied lowering.store).answer? produce = some elements
  constants : forall handle data, .array handle ∈ lowering.plan.nest.captured ->
    handle.source = .constant data -> handle.id ∉ arguments.tokens ->
      ∃ count, handle.layout.elementCount? = some count ∧ data.length = count.toNat

/-- The captured values are in order when each of them is resolvable. -/
theorem forall_resolvable_iff (captured : List (Capture σ)) (supplied : List Token)
    (store : Store σ) :
    (forall capture, capture ∈ captured -> capture.Resolvable supplied store) <->
      (forall value, .deferred value ∈ captured -> value.id ∉ supplied ->
        ∃ number, store.answer? value.resolve = some number) ∧
      (forall produce, .lazy produce ∈ captured ->
        ∃ elements, store.answer? produce = some elements) ∧
      (forall handle data, .array handle ∈ captured -> handle.source = .constant data ->
        handle.id ∉ supplied ->
          ∃ count, handle.layout.elementCount? = some count ∧ data.length = count.toNat) := by
  constructor
  · intro resolvable
    refine ⟨?_, ?_, ?_⟩
    · intro value member unsupplied
      refine resolvable (.deferred value) member ?_
      rintro token ⟨⟩
      exact unsupplied
    · intro produce member
      refine resolvable (.lazy produce) member ?_
      rintro token ⟨⟩
    · intro handle data member constant unsupplied
      have fits : handle.DataFit := by
        refine resolvable (.array handle) member ?_
        rintro token ⟨⟩
        exact unsupplied
      exact fits data constant
  · rintro ⟨deferred, sequences, constants⟩ capture member unsupplied
    cases capture with
    | deferred value => exact deferred value member (unsupplied value.id rfl)
    | lazy produce => exact sequences produce member
    | array handle =>
        intro data constant
        exact constants handle data member constant (unsupplied handle.id rfl)
    | index loop => trivial
    | scalar value => trivial
    | sequence elements => trivial

section Stages

variable {arguments : Arguments σ} {bindings : Bindings σ} {lowering : Lowering (Recorder σ) σ}

theorem Entry.store_eq (entry : Entry arguments bindings lowering)
    (extentsRead : forall extent, extent ∈ lowering.plan.nest.declaredShape -> extent.ReadOnly) :
    entry.pass.store = bindings.applied lowering.store := by
  have applied := ((bindings.apply_eq_ok_iff _ _ _).mp entry.application).2
  have resolved := ((Extent.mapM_resolve_eq_ok_iff _ extentsRead _ _ _).mp entry.resolution).2
  have seeded : entry.seeded.store = entry.resolved := entry.seedsAll.store
  exact seeded.trans (resolved.trans applied)

/-- The first stages succeed when the bindings, the extents and the arguments
are in order. -/
theorem nonempty_entry_iff (accepting : lowering.backend.rejected = [])
    (extentsRead : forall extent, extent ∈ lowering.plan.nest.declaredShape -> extent.ReadOnly) :
    Nonempty (Entry arguments bindings lowering) <->
      (forall entry, entry ∈ bindings.entries -> entry.1.isParameter = true) ∧
      (forall extent, extent ∈ lowering.plan.nest.declaredShape ->
        ∃ number,
          (bindings.applied lowering.store).answer? extent.resolve = some number ∧ 0 < number) ∧
      arguments.captures.length = arguments.runtime.length ∧
      (forall pair, pair ∈ arguments.pairs -> pair.1.Takes pair.2) := by
  rw [← Extent.exists_answers_iff (0 < ·)]
  constructor
  · rintro ⟨entry⟩
    have application := (bindings.apply_eq_ok_iff _ _ _).mp entry.application
    have resolution := (Extent.mapM_resolve_eq_ok_iff _ extentsRead _ _ _).mp entry.resolution
    refine ⟨application.1, ⟨entry.numbers, ?_, entry.positive⟩, entry.counts, ?_⟩
    · rw [← application.2]
      exact resolution.1
    · exact (Pass.succeeds_seedFrom_iff 0 arguments.pairs _ accepting).mp ⟨_, _, entry.seeding⟩
  · rintro ⟨parameters, ⟨numbers, answers, positive⟩, counts, pairs⟩
    have application := (bindings.apply_eq_ok_iff lowering.store _ ()).mpr ⟨parameters, rfl⟩
    have resolution := (Extent.mapM_resolve_eq_ok_iff _ extentsRead _ _ _).mpr ⟨answers, rfl⟩
    rcases (Pass.succeeds_seedFrom_iff 0 arguments.pairs
      (Pass.start lowering.backend (bindings.applied lowering.store) arguments
        lowering.plan.options) accepting).mpr pairs with ⟨_, seeded, seeding⟩
    have accepted : BackendOperation.createSpace ∉ seeded.backend.rejected := by
      rw [(Pass.seedsAll_of_ok seeding).continues.rejected]
      exact accepting ▸ List.not_mem_nil
    exact ⟨⟨_, _, numbers, seeded, application, resolution, counts, seeding, accepted, positive⟩⟩

/-- Once it is in its space, the pass has entries for the arguments and for the
loop indices. -/
theorem Entry.stands (entry : Entry arguments bindings lowering)
    (extentsRead : forall extent, extent ∈ lowering.plan.nest.declaredShape -> extent.ReadOnly)
    {supplied : List Token} (known : forall token, token ∈ supplied ->
      token ∈ arguments.tokens ∨ token ∈ lowering.plan.nest.ownTokens) :
    entry.pass.Stands supplied (bindings.applied lowering.store) where
  unchanged := entry.store_eq extentsRead
  present := fun token member => (entry.exists_getElem?_iff token).mpr (known token member)

/-- Once it is in its space, the pass can begin to replay commands. -/
theorem Entry.replays (entry : Entry arguments bindings lowering)
    (accepting : lowering.backend.rejected = [])
    (lenient : lowering.plan.options.strictSequences = false)
    (extentsRead : forall extent, extent ∈ lowering.plan.nest.declaredShape -> extent.ReadOnly)
    (issued : FromOneArena
      (lowering.plan.nest.ownIndices.map .index ++ lowering.plan.nest.captured)) :
    entry.pass.Replays (lowering.plan.nest.ownIndices.map .index ++ lowering.plan.nest.captured)
      arguments.tokens (bindings.applied lowering.store) where
  toStands := entry.stands extentsRead fun _ supplied => .inl supplied
  accepting := entry.seedsAll.continues.rejected.trans accepting
  lenient := (congrArg PassOptions.strictSequences entry.seedsAll.continues.options).trans lenient
  entered := ⟨entry.space, rfl, entry.space, List.mem_append_right _ List.mem_cons_self, rfl⟩
  entries := by
    intro capture member value found unsupplied
    rcases Option.bind_eq_some_iff.mp found with ⟨token, identity, mapped⟩
    rcases (entry.exists_getElem?_iff token).mp ⟨value, mapped⟩ with supplied | own
    · exact absurd supplied (unsupplied token identity)
    · rcases List.mem_map.mp own with ⟨loop, loopMember, carries⟩
      have loopCapture : (Capture.index loop : Capture σ) ∈
          lowering.plan.nest.ownIndices.map .index ++ lowering.plan.nest.captured :=
        List.mem_append_left _ (List.mem_map_of_mem loopMember)
      have carried : (Capture.index loop : Capture σ).identity? = some token :=
        congrArg some carries
      rw [issued.eq_of_identity member loopCapture identity carried]
      trivial

end Stages

/-- A pass on a recorder that rejects nothing, without strictness, succeeds
exactly when its inputs are in order.  Rules only read the slots, and handles
come from one arena. -/
theorem succeeds_iff_ready {arguments : Arguments σ} {bindings : Bindings σ}
    {lowering : Lowering (Recorder σ) σ} (accepting : lowering.backend.rejected = [])
    (lenient : lowering.plan.options.strictSequences = false)
    (extentsRead : forall extent, extent ∈ lowering.plan.nest.declaredShape -> extent.ReadOnly)
    (capturesRead : forall capture, capture ∈ lowering.plan.nest.captured -> capture.ReadOnly)
    (issued : FromOneArena
      (lowering.plan.nest.ownIndices.map .index ++ lowering.plan.nest.captured)) :
    (∃ lowered after, lower arguments bindings lowering = .ok lowered after) <->
      lowering.Ready arguments bindings := by
  have reads : forall capture,
      capture ∈ lowering.plan.nest.ownIndices.map .index ++ lowering.plan.nest.captured ->
        capture.ReadOnly := by
    rw [List.forall_mem_append, List.forall_mem_map]
    exact ⟨fun loop member => trivial, capturesRead⟩
  have members : forall capture, capture ∈ lowering.plan.nest.captured ->
      capture ∈ lowering.plan.nest.ownIndices.map .index ++ lowering.plan.nest.captured :=
    fun capture member => List.mem_append_right _ member
  have replayed (entry : Entry arguments bindings lowering) :=
    Nest.addsAll_iff (entry.replays accepting lenient extentsRead issued) issued
      lowering.plan.nest.attachments members reads
  constructor
  · rintro ⟨lowered, after, done⟩
    rcases (lower_eq_ok_iff _ _ _ _ _).mp done with ⟨run, _, _⟩
    have begun := (nonempty_entry_iff accepting extentsRead).mp ⟨run.toEntry⟩
    have resolvable := (replayed run.toEntry).mp ⟨run.added, run.done, run.adding⟩
    have values := (forall_resolvable_iff _ _ _).mp resolvable
    exact ⟨begun.1, begun.2.1, begun.2.2.1, begun.2.2.2, values.1, values.2.1, values.2.2⟩
  · intro ready
    rcases (nonempty_entry_iff accepting extentsRead).mpr
      ⟨ready.parameters, ready.extents, ready.counts, ready.pairs⟩ with ⟨entry⟩
    have resolvable := (forall_resolvable_iff lowering.plan.nest.captured arguments.tokens
      (bindings.applied lowering.store)).mpr ⟨ready.deferred, ready.sequences, ready.constants⟩
    rcases (replayed entry).mpr resolvable with ⟨added, final, adding⟩
    have run : Run arguments bindings lowering := ⟨entry, added, final, adding⟩
    exact ⟨run.lowered, run.after, (lower_eq_ok_iff _ _ _ _ _).mpr ⟨run, rfl, rfl⟩⟩

/-- The small plan is in order with four rows, since its pass succeeds. -/
theorem ready_of_sample :
    (Sample.lowering Sample.busyNest).Ready Sample.arguments Sample.bindings := by
  exact (succeeds_iff_ready rfl rfl Sample.extentsRead Sample.readOnly Sample.fromOneArena).mp
    Sample.succeeds

end Lowering

end LoopNest
