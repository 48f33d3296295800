import Mathlib.Data.List.Induction
import LoopNest.Proofs.Native.Calls

namespace LoopNest

/-!
# Logs after any calls

Any calls may follow each other, those that reject an operation or accept all of
them again among the others.  Since a call adds one entry or none, the number of
an entry is its position whatever failed before, and a kernel always names a space
that is recorded.

An operation is rejected by the calls alone: it was rejected at some time, and
nothing was accepted since.
-/

namespace Recorder

variable {σ : Type}

/-! ## What is rejected -/

/-- The operation was rejected, and nothing was accepted again since then. -/
def RejectedSince (calls : List (Call σ)) (operation : BackendOperation) : Prop :=
  ∃ before later, calls = before ++ .reject operation :: later ∧ .acceptAll ∉ later

theorem rejectedSince_nil (operation : BackendOperation) :
    ¬ RejectedSince ([] : List (Call σ)) operation := by
  rintro ⟨before, later, impossible, _⟩
  have last := (List.append_eq_nil_iff.mp impossible.symm).2
  cases last

/-- The last call decides, or what was before it stands. -/
theorem rejectedSince_concat_iff (calls : List (Call σ)) (call : Call σ)
    (operation : BackendOperation) :
    RejectedSince (calls ++ [call]) operation <->
      call = .reject operation ∨ call ≠ .acceptAll ∧ RejectedSince calls operation := by
  constructor
  · rintro ⟨before, later, same, kept⟩
    cases later using List.reverseRecOn with
    | nil =>
        rcases List.append_inj' same rfl with ⟨_, last⟩
        cases last
        exact .inl rfl
    | append_singleton shorter last _ =>
        rw [← List.cons_append, ← List.append_assoc] at same
        rcases List.append_inj' same rfl with ⟨rfl, lastSame⟩
        cases lastSame
        simp only [List.mem_append, List.mem_singleton, not_or] at kept
        exact .inr ⟨Ne.symm kept.2, before, shorter, rfl, kept.1⟩
  · rintro (rfl | ⟨different, before, later, rfl, kept⟩)
    · exact ⟨calls, [], rfl, List.not_mem_nil⟩
    · refine ⟨before, later ++ [call], ?_, ?_⟩
      · rw [List.append_assoc, List.cons_append]
      · simp only [List.mem_append, List.mem_singleton, not_or]
        exact ⟨kept, Ne.symm different⟩

theorem mem_rejected_reject_iff (recorder : Recorder σ) (other operation : BackendOperation) :
    operation ∈ (recorder.reject other).rejected <->
      other = operation ∨ operation ∈ recorder.rejected := by
  unfold reject
  split
  · next already =>
      constructor
      · exact .inr
      · rintro (rfl | member)
        · exact already
        · exact member
  · rw [List.mem_append, List.mem_singleton, or_comm, eq_comm]

/-- A call of an operation changes nothing about what is rejected. -/
theorem rejected_afterCall_of_some {call : Call σ} {operation : BackendOperation}
    (called : call.operation? = some operation) (recorder : Recorder σ) :
    (recorder.afterCall call).rejected = recorder.rejected := by
  rcases afterCall_cases recorder call with same | ⟨answer, appends⟩ | ⟨uncalled, _⟩
  · rw [same]
  · generalize recorder.afterCall call = after at appends
    cases appends <;> rfl
  · rw [called] at uncalled
    cases uncalled

theorem mem_rejected_afterCall_iff (recorder : Recorder σ) (call : Call σ)
    (operation : BackendOperation) :
    operation ∈ (recorder.afterCall call).rejected <->
      call = .reject operation ∨ call ≠ .acceptAll ∧ operation ∈ recorder.rejected := by
  cases called : call.operation? with
  | some other =>
      rw [rejected_afterCall_of_some called]
      have noReject : call ≠ .reject operation := by
        rintro rfl
        cases called
      have noAccept : call ≠ .acceptAll := by
        rintro rfl
        cases called
      simp only [noReject, noAccept, ne_eq, not_false_eq_true, true_and, false_or]
  | none =>
      cases call with
      | reject other => simpa [afterCall] using mem_rejected_reject_iff recorder other operation
      | acceptAll => simp [afterCall, acceptAll]
      | createSpace extents => cases called
      | allocate elementType layout => cases called
      | resolveConstant elementType layout data => cases called
      | wrapArgument elementType layout buffer => cases called
      | addKernel space kernel predicate placement => cases called

theorem afterCalls_concat (recorder : Recorder σ) (calls : List (Call σ)) (call : Call σ) :
    recorder.afterCalls (calls ++ [call]) = (recorder.afterCalls calls).afterCall call := by
  rw [afterCalls, List.foldl_append]
  rfl

/-- After any calls exactly those operations are rejected that were rejected and
not accepted since. -/
theorem mem_rejected_afterCalls_iff (calls : List (Call σ)) (operation : BackendOperation) :
    operation ∈ (empty.afterCalls calls).rejected <-> RejectedSince calls operation := by
  induction calls using List.reverseRecOn with
  | nil => exact ⟨nofun, fun impossible => absurd impossible (rejectedSince_nil operation)⟩
  | append_singleton calls call inductionHypothesis =>
      rw [afterCalls_concat, mem_rejected_afterCall_iff, rejectedSince_concat_iff,
        inductionHypothesis]

/-! ## What is recorded -/

/-- The entries of the logs are in order: each array and each space has its
position as its number, a space has positive extents and one index for each of
them in order, and a kernel names a space that is recorded. -/
structure InOrder (recorder : Recorder σ) : Prop where
  arrays : recorder.arrays.map (fun entry => entry.1.id.toNat) =
    List.range recorder.arrays.length
  spaces : recorder.spaces.map (fun space => space.id.raw.toNat) =
    List.range recorder.spaces.length
  positive : forall space, space ∈ recorder.spaces ->
    forall extent, extent ∈ space.extents -> 0 < extent
  indices : forall space, space ∈ recorder.spaces ->
    space.indices = (List.range space.extents.length).map fun dimension =>
      ⟨space.id, UInt32.ofNat dimension⟩
  dimensions : forall space, space ∈ recorder.spaces -> space.extents.length <= UInt32.size ->
    space.indices.map (fun index => index.dimension.toNat) = List.range space.extents.length
  kernels : forall entry, entry ∈ recorder.kernels ->
    ∃ space, space ∈ recorder.spaces ∧ space.id = entry.space

/-- What calls keep besides the numbers. -/
structure Valid (recorder : Recorder σ) : Prop where
  positive : forall space, space ∈ recorder.spaces ->
    forall extent, extent ∈ space.extents -> 0 < extent
  kernels : forall entry, entry ∈ recorder.kernels ->
    ∃ space, space ∈ recorder.spaces ∧ space.id = entry.space

theorem valid_empty : (empty : Recorder σ).Valid :=
  ⟨nofun, nofun⟩

/-- One entry more is as valid as those before. -/
theorem Appends.valid {before after : Recorder σ} {call : Call σ} {answer : Answer}
    (appends : Appends before call answer after) (valid : before.Valid) : after.Valid := by
  cases appends with
  | space positive =>
      refine ⟨?_, ?_⟩
      · intro space member
        rcases List.mem_append.mp member with earlier | last
        · exact valid.positive space earlier
        · cases List.mem_singleton.mp last
          exact positive
      · intro entry member
        rcases valid.kernels entry member with ⟨space, recorded, same⟩
        exact ⟨space, List.mem_append_left _ recorded, same⟩
  | array _ => exact ⟨valid.positive, valid.kernels⟩
  | kernel recorded =>
      refine ⟨valid.positive, ?_⟩
      intro entry member
      rcases List.mem_append.mp member with earlier | last
      · exact valid.kernels entry earlier
      · cases List.mem_singleton.mp last
        exact recorded

theorem Valid.afterCall {recorder : Recorder σ} (valid : recorder.Valid) (call : Call σ) :
    (recorder.afterCall call).Valid := by
  rcases afterCall_cases recorder call with same | ⟨answer, appends⟩ | ⟨_, rejected, same⟩
  · rw [same]
    exact valid
  · exact appends.valid valid
  · rw [same]
    exact ⟨valid.positive, valid.kernels⟩

theorem valid_afterCalls (calls : List (Call σ)) : (empty.afterCalls calls).Valid := by
  induction calls using List.reverseRecOn with
  | nil => exact valid_empty
  | append_singleton calls call inductionHypothesis =>
      rw [afterCalls_concat]
      exact inductionHypothesis.afterCall call

/-- Every space has an index for each of its extents. -/
theorem Numbered.indices {recorder : Recorder σ} (numbered : recorder.Numbered)
    {space : NativeSpace} (member : space ∈ recorder.spaces) :
    space.indices = (List.range space.extents.length).map fun dimension =>
      ⟨space.id, UInt32.ofNat dimension⟩ := by
  rcases List.mem_iff_getElem?.mp member with ⟨position, found⟩
  rcases numbered.spaces found with ⟨extents, rfl⟩
  rfl

theorem Numbered.inOrder {recorder : Recorder σ} (numbered : recorder.Numbered)
    (valid : recorder.Valid) (fits : recorder.Fits) : recorder.InOrder where
  arrays := by
    refine List.ext_getElem (by simp) fun position within _ => ?_
    have bound : position < recorder.arrays.length := by simpa using within
    have number := numbered.arrays (List.getElem?_eq_getElem bound)
    rw [List.getElem_map, List.getElem_range, number]
    exact UInt32.toNat_ofNat_of_lt' (Nat.lt_of_lt_of_le bound fits.arrays)
  spaces := by
    refine List.ext_getElem (by simp) fun position within _ => ?_
    have bound : position < recorder.spaces.length := by simpa using within
    rw [List.getElem_map, List.getElem_range]
    exact numbered.space_number fits.spaces (List.getElem?_eq_getElem bound)
  positive := valid.positive
  indices := fun _ member => numbered.indices member
  dimensions := by
    intro space member room
    rw [numbered.indices member, List.map_map]
    refine List.ext_getElem (by simp) fun position within _ => ?_
    have bound : position < space.extents.length := by simpa using within
    rw [List.getElem_map, List.getElem_range]
    exact UInt32.toNat_ofNat_of_lt' (Nat.lt_of_lt_of_le bound room)
  kernels := valid.kernels

/-- After any calls of a recorder its logs are in order, and the next call adds
one entry to one log or fails for a reason and without a trace.  An operation
fails as rejected exactly if it was rejected and not accepted since, and a space
that is not rejected fails exactly if an extent is not positive, with the first of
these. -/
theorem logs_after_calls (calls : List (Call σ)) (fits : (empty.afterCalls calls).Fits) :
    (empty.afterCalls calls).InOrder ∧
    (forall call, empty.afterCalls (calls ++ [call]) =
      Outcome.state (perform call (empty.afterCalls calls))) ∧
    (forall call answer after, call.operation?.isSome ->
      perform call (empty.afterCalls calls) = .ok answer after ->
        Appends (empty.afterCalls calls) call answer after) ∧
    (forall call error after, perform call (empty.afterCalls calls) = .error error after ->
      after = empty.afterCalls calls ∧ Fails (empty.afterCalls calls) call error) ∧
    (forall call, call.operation? = none -> ∃ rejected,
      perform call (empty.afterCalls calls) =
        .ok .done { empty.afterCalls calls with rejected }) ∧
    (forall call operation, call.operation? = some operation ->
      (RejectedSince calls operation ->
        perform call (empty.afterCalls calls) =
          .error (.rejected operation "rejected by test configuration")
            (empty.afterCalls calls)) ∧
      forall named reason after,
        perform call (empty.afterCalls calls) = .error (.rejected named reason) after ->
          named = operation ∧ RejectedSince calls operation) ∧
    (forall extents, ¬ RejectedSince calls .createSpace ->
      ((∃ error after,
          perform (.createSpace extents) (empty.afterCalls calls) = .error error after) <->
        ∃ extent, extent ∈ extents ∧ extent <= 0) ∧
      forall error after,
        perform (.createSpace extents) (empty.afterCalls calls) = .error error after ->
          ∃ dimension extent, error = .invalidExtent dimension extent ∧
            extents[dimension]? = some extent ∧ extent <= 0 ∧
            forall earlier, earlier ∈ extents.take dimension -> 0 < earlier) := by
  have numbered := (changes_afterCalls empty calls).numbered numbered_empty
  refine ⟨numbered.inOrder (valid_afterCalls calls) fits, ?_, ?_, ?_, ?_, ?_, ?_⟩
  · intro call
    rw [afterCalls_concat, state_perform]
  · intro call answer after called done
    rcases Option.isSome_iff_exists.mp called with ⟨operation, called⟩
    exact (perform_of_ok called done).2
  · intro call error after failed
    exact perform_of_error failed
  · intro call called
    exact perform_of_none called _
  · intro call operation called
    refine ⟨fun rejected => ?_, fun named reason after failed => ?_⟩
    · exact perform_of_rejected called ((mem_rejected_afterCalls_iff calls operation).mpr rejected)
    · cases (perform_of_error failed).2 with
      | rejected same rejected =>
          cases called.symm.trans same
          exact ⟨rfl, (mem_rejected_afterCalls_iff calls operation).mp rejected⟩
  · intro extents accepted
    exact createSpace_of_accepted fun rejected =>
      accepted ((mem_rejected_afterCalls_iff calls .createSpace).mp rejected)

end Recorder

namespace Sample

/-- Two spaces with a rejected and an invalid one between them, an array, and
rejections of which the last stands. -/
def mixedCalls : List (Recorder.Call Unit) :=
  [.createSpace [4, 3], .reject .createSpace, .createSpace [2], .acceptAll, .createSpace [2, 0],
    .allocate .int32 ⟨[2, 3], .first⟩, .createSpace [5], .reject .allocate,
    .allocate .int32 ⟨[2, 3], .first⟩]

end Sample

namespace Recorder

/-- The second space has the number one although two requests failed in between,
and only the allocation is still rejected. -/
theorem logs_after_mixed_calls :
    (empty.afterCalls Sample.mixedCalls).Fits ∧
      (empty.afterCalls Sample.mixedCalls).spaces.map (fun space => space.id.raw.toNat) = [0, 1] ∧
      perform (.allocate .int32 ⟨[7], .first⟩) (empty.afterCalls Sample.mixedCalls) =
        .error (.rejected .allocate "rejected by test configuration")
          (empty.afterCalls Sample.mixedCalls) ∧
      ∃ error after,
        perform (.createSpace [1, 0, -1]) (empty.afterCalls Sample.mixedCalls) =
          .error error after := by
  have fits : (empty.afterCalls Sample.mixedCalls).Fits := ⟨by decide, by decide⟩
  have logs := logs_after_calls Sample.mixedCalls fits
  rcases logs with ⟨order, _, _, _, _, rejected, spaces⟩
  have accepted : ¬ RejectedSince Sample.mixedCalls .createSpace := by
    rw [← mem_rejected_afterCalls_iff]
    decide
  have standing : RejectedSince Sample.mixedCalls .allocate := by
    rw [← mem_rejected_afterCalls_iff]
    decide
  refine ⟨fits, order.spaces, (rejected _ .allocate rfl).1 standing, ?_⟩
  exact (spaces [1, 0, -1] accepted).1.mpr ⟨0, by decide, by decide⟩

end Recorder

end LoopNest
