import Mathlib.Logic.Function.Iterate
import LoopNest.Proofs.Nest.Making
import LoopNest.Proofs.Plan.Success

namespace LoopNest

/-!
# Every array is made once

A pass logs one array for each array argument and, after these, one array for
each handle that it makes: temporary storage or a constant that some command
captures directly and whose token no argument has.  A handle is made where it is
captured first.  So it does not matter how often it is captured, under how many
names and by how many commands, nor that sequences mention it, and a handle that
only sequences mention is not made.
-/

/-! ## First captures -/

theorem nodup_map_id_firsts (handles : List ArrayHandle) :
    ((firsts handles).map ArrayHandle.id).Nodup := by
  induction handles with
  | nil => exact List.nodup_nil
  | cons handle rest inductionHypothesis =>
      rw [firsts, List.map_cons, List.nodup_cons]
      constructor
      · intro repeated
        rcases List.mem_map.mp repeated with ⟨later, member, same⟩
        exact of_decide_eq_true (List.mem_filter.mp member).2 same
      · exact inductionHypothesis.sublist (List.filter_sublist.map ArrayHandle.id)

/-- Handles that came before can be left out. -/
theorem firsts_of_covered {first extra : List ArrayHandle} (rest : List ArrayHandle)
    (covered : forall handle, handle ∈ extra -> handle.id ∈ first.map ArrayHandle.id) :
    firsts (first ++ extra ++ rest) = firsts (first ++ rest) := by
  have nothing : extra.filter (fun handle => decide (handle.id ∉ first.map ArrayHandle.id)) =
      [] := by
    apply List.filter_eq_nil_iff.mpr
    intro handle member
    simpa using covered handle member
  rw [List.append_assoc, firsts_append, firsts_append, List.filter_append, nothing,
    List.nil_append]

namespace Nest

variable {σ : Type}

/-- The handles that a pass makes for the nest, if these tokens are supplied by
arguments, in the order of their first capture. -/
def freshHandles (nest : Nest σ) (supplied : List Token) : List ArrayHandle :=
  firsts (nest.madeHandles.filter fun handle => decide (handle.id ∉ supplied))

/-- The tokens of the handles that are made. -/
theorem mem_map_id_freshHandles_iff (nest : Nest σ) (supplied : List Token) (token : Token) :
    token ∈ (nest.freshHandles supplied).map ArrayHandle.id <->
      token ∉ supplied ∧ ∃ handle origin, .array handle ∈ nest.captured ∧
        handle.source.origin? = some origin ∧ handle.id = token := by
  rw [freshHandles, mem_map_id_firsts, List.mem_map]
  constructor
  · rintro ⟨handle, member, rfl⟩
    rcases List.mem_filter.mp member with ⟨made, unsupplied⟩
    rcases (Capture.mem_madeIn_iff _ _).mp made with ⟨captured, origin, source⟩
    exact ⟨of_decide_eq_true unsupplied, handle, origin, captured, source, rfl⟩
  · rintro ⟨unsupplied, handle, origin, captured, source, rfl⟩
    have made := (Capture.mem_madeIn_iff _ _).mpr ⟨captured, origin, source⟩
    exact ⟨handle, List.mem_filter.mpr ⟨made, decide_eq_true unsupplied⟩, rfl⟩

/-- Captured values that add no new handle can be left out, whatever else they
are. -/
theorem freshHandles_of_covered {nest other : Nest σ} {supplied : List Token}
    {first extra rest : List (Capture σ)} (captured : nest.captured = first ++ extra ++ rest)
    (without : other.captured = first ++ rest)
    (covered : forall handle, handle ∈ Capture.madeIn extra ->
      handle.id ∈ supplied ∨ handle.id ∈ (Capture.madeIn first).map ArrayHandle.id) :
    other.freshHandles supplied = nest.freshHandles supplied := by
  unfold freshHandles madeHandles
  rw [captured, without, Capture.madeIn_append, Capture.madeIn_append, Capture.madeIn_append,
    List.filter_append, List.filter_append, List.filter_append]
  refine (firsts_of_covered _ ?_).symm
  intro handle member
  rcases List.mem_filter.mp member with ⟨made, unsupplied⟩
  have earlier := (covered handle made).resolve_left (of_decide_eq_true unsupplied)
  rcases List.mem_map.mp earlier with ⟨maker, makerMember, same⟩
  refine List.mem_map.mpr ⟨maker, List.mem_filter.mpr ⟨makerMember, ?_⟩, same⟩
  rw [same]
  exact unsupplied

end Nest

/-- The handles of the array arguments, in the order of the arguments. -/
def Arguments.arrays {σ : Type} (arguments : Arguments σ) : List ArrayHandle :=
  arguments.captures.filterMap Capture.handle?

namespace Lowering

variable {σ : Type}

/-- The state after all kernels of the backend were run. -/
def invoked (lowering : Lowering (Recorder σ) σ) : Lowering (Recorder σ) σ :=
  { lowering with store := lowering.backend.invokeAll lowering.store }

/-- Running kernels logs nothing. -/
theorem backend_iterate_invoked (times : Nat) (lowering : Lowering (Recorder σ) σ) :
    (invoked^[times] lowering).backend = lowering.backend := by
  induction times generalizing lowering with
  | zero => rfl
  | succ times inductionHypothesis => exact inductionHypothesis lowering.invoked

section Entry

variable {arguments : Arguments σ} {bindings : Bindings σ} {lowering : Lowering (Recorder σ) σ}

/-- Among values of one arena, a captured array has no token of a loop index.  So
what is left to be made are the handles that no argument supplies. -/
theorem Entry.unmade_eq (entry : Entry arguments bindings lowering)
    (issued : FromOneArena
      (lowering.plan.nest.ownIndices.map .index ++ lowering.plan.nest.captured)) :
    entry.pass.unmade lowering.plan.nest.madeHandles =
      lowering.plan.nest.freshHandles arguments.tokens := by
  unfold Pass.unmade Nest.freshHandles
  refine congrArg firsts (List.filter_congr fun handle made => ?_)
  rcases (Capture.mem_madeIn_iff _ _).mp made with ⟨captured, _⟩
  have foreign : handle.id ∉ lowering.plan.nest.ownTokens := by
    intro own
    rcases List.mem_map.mp own with ⟨loop, member, same⟩
    have loopMember : (Capture.index loop : Capture σ) ∈
        lowering.plan.nest.ownIndices.map .index ++ lowering.plan.nest.captured :=
      List.mem_append_left _ (List.mem_map_of_mem member)
    have one := issued.eq_of_identity loopMember (List.mem_append_right _ captured)
      (congrArg some same) rfl
    cases one
  have entries := entry.exists_getElem?_iff handle.id
  rw [or_iff_left foreign, ← Option.isSome_iff_exists] at entries
  rw [Bool.eq_iff_iff, decide_eq_true_iff, ← entries]
  simp

/-- The arrays that are logged before any command is replayed. -/
theorem Entry.wraps (entry : Entry arguments bindings lowering) :
    ∃ wrapped, entry.pass.backend.arrays = lowering.backend.arrays ++ wrapped ∧
      List.Forall₂ ArrayHandle.WrappedBy arguments.arrays wrapped := by
  have firsts : arguments.pairs.map Prod.fst = arguments.captures :=
    List.map_fst_zip (Nat.le_of_eq entry.counts)
  rcases Pass.wraps_of_seedFrom entry.seeding with ⟨wrapped, logged, told⟩
  rw [firsts] at told
  exact ⟨wrapped, logged, told⟩

end Entry

/-- A pass that gives a result logged one array for each array argument and then
one for each handle that it makes, in the order of the first capture.  Running
kernels adds nothing.  Made are the handles of temporary storage and constants
that are captured directly and that no argument supplies, each token once, and
captured values that add no handle of this kind make no difference. -/
theorem makes_each_array_once {arguments : Arguments σ} {bindings : Bindings σ}
    {lowering after : Lowering (Recorder σ) σ} {lowered : LoweredNest}
    (issued : FromOneArena
      (lowering.plan.nest.ownIndices.map .index ++ lowering.plan.nest.captured))
    (done : lower arguments bindings lowering = .ok lowered after) :
    (∃ wrapped made,
      (forall times, (invoked^[times] after).backend.arrays =
        lowering.backend.arrays ++ wrapped ++ made) ∧
      List.Forall₂ ArrayHandle.WrappedBy arguments.arrays wrapped ∧
      List.Forall₂ (Pass.Counterpart lowered.identities)
        (lowering.plan.nest.freshHandles arguments.tokens) made) ∧
    ((lowering.plan.nest.freshHandles arguments.tokens).map ArrayHandle.id).Nodup ∧
    (forall token,
      token ∈ (lowering.plan.nest.freshHandles arguments.tokens).map ArrayHandle.id <->
        token ∉ arguments.tokens ∧ ∃ handle origin, .array handle ∈ lowering.plan.nest.captured ∧
          handle.source.origin? = some origin ∧ handle.id = token) ∧
    forall (other : Nest σ) (first extra rest : List (Capture σ)),
      lowering.plan.nest.captured = first ++ extra ++ rest -> other.captured = first ++ rest ->
      (forall handle, handle ∈ Capture.madeIn extra ->
        handle.id ∈ arguments.tokens ∨ handle.id ∈ (Capture.madeIn first).map ArrayHandle.id) ->
        other.freshHandles arguments.tokens =
          lowering.plan.nest.freshHandles arguments.tokens := by
  rcases (lower_eq_ok_iff _ _ _ _ _).mp done with ⟨run, rfl, rfl⟩
  refine ⟨?_, nodup_map_id_firsts _, Nest.mem_map_id_freshHandles_iff _ _, ?_⟩
  · rcases run.wraps with ⟨wrapped, loggedFirst, told⟩
    rcases run.adding.materializes.logged with ⟨made, loggedLater, paired⟩
    have fresh := run.unmade_eq issued
    refine ⟨wrapped, made, ?_, told, fresh ▸ paired⟩
    intro times
    rw [backend_iterate_invoked, ← loggedFirst]
    exact loggedLater
  · intro other first extra rest captured without covered
    exact Nest.freshHandles_of_covered captured without covered

/-- The small plan wraps the input and then makes the scratch storage and the
table.  Without the second of its commands it would make the same. -/
theorem makes_scratch_and_table :
    ∃ lowered after input scratch table,
      lower Sample.arguments Sample.bindings (Sample.lowering Sample.busyNest) =
          .ok lowered after ∧
        after.backend.arrays = [input, scratch, table] ∧
        Sample.input.WrappedBy input ∧
        Pass.Counterpart lowered.identities Sample.scratch scratch ∧
        Pass.Counterpart lowered.identities Sample.table table ∧
        (Sample.nest.attach Sample.logic .plain).freshHandles Sample.arguments.tokens =
          [Sample.scratch, Sample.table] := by
  rcases Sample.succeeds with ⟨lowered, after, done⟩
  rcases @makes_each_array_once _ _ _ (Sample.lowering Sample.busyNest) _ _ Sample.fromOneArena
    done with ⟨⟨wrapped, made, logged, told, paired⟩, _, _, others⟩
  have again : forall handle, handle ∈ Capture.madeIn Sample.values ->
      handle.id ∈ Sample.arguments.tokens ∨
        handle.id ∈ (Capture.madeIn Sample.values).map ArrayHandle.id := by
    intro handle member
    exact .inr (List.mem_map_of_mem member)
  have once := others (Sample.nest.attach Sample.logic .plain) Sample.values Sample.values []
    Sample.captured_eq rfl again
  have wraps : List.Forall₂ ArrayHandle.WrappedBy [Sample.input] wrapped := told
  have makes : List.Forall₂ (Pass.Counterpart lowered.identities)
    [Sample.scratch, Sample.table] made := paired
  cases wraps with
  | @cons _ input _ _ inputTold noMore =>
      cases noMore
      cases makes with
      | @cons _ scratch _ _ scratchPaired tables =>
          cases tables with
          | @cons _ table _ _ tablePaired noMore =>
              cases noMore
              exact ⟨lowered, after, input, scratch, table, done, logged 0, inputTold,
                scratchPaired, tablePaired, once⟩

end Lowering

end LoopNest
