import LoopNest.Proofs.Native.Growth

namespace LoopNest

/-!
# Calls of a recorder

A call of a recorder is answered or fails, and what both mean is told here once
for all calls.  One that is answered was accepted and has added one entry to the
log of its operation.  One that fails was rejected or has a reason of its own, and
left everything as it was.
-/

namespace Recorder

variable {σ : Type}

/-- What a call hands out. -/
inductive Answer where
  | space (space : NativeSpace)
  | array (array : NativeArray)
  | done

/-- The operation of the backend that is called, if it is one. -/
def Call.operation? : Call σ -> Option BackendOperation
  | .createSpace _ => some .createSpace
  | .allocate _ _ => some .allocate
  | .resolveConstant _ _ _ => some .resolveConstant
  | .wrapArgument _ _ _ => some .wrapArgument
  | .addKernel _ _ _ _ => some .addKernel
  | .reject _ => none
  | .acceptAll => none

/-- The array that is asked for, if it is one. -/
def Call.array? : Call σ -> Option (ElementType × Layout × ArrayOrigin)
  | .allocate elementType layout => some (elementType, layout, .allocated)
  | .resolveConstant elementType layout _ => some (elementType, layout, .constant)
  | .wrapArgument elementType layout _ => some (elementType, layout, .argument)
  | .createSpace _ => none
  | .addKernel _ _ _ _ => none
  | .reject _ => none
  | .acceptAll => none

/-- What an operation gives, as an answer. -/
def answering {α : Type} (answer : α -> Answer) (operation : EStateM BackendError (Recorder σ) α) :
    EStateM BackendError (Recorder σ) Answer := do
  return answer (← operation)

/-- A call with its answer. -/
def perform : Call σ -> EStateM BackendError (Recorder σ) Answer
  | .createSpace extents => answering .space (createSpace extents)
  | .allocate elementType layout => answering .array (allocate elementType layout)
  | .resolveConstant elementType layout data =>
      answering .array (resolveConstant elementType layout data)
  | .wrapArgument elementType layout buffer =>
      answering .array (wrapArgument elementType layout buffer)
  | .addKernel space kernel predicate placement =>
      answering (fun _ => .done) (addKernel space kernel predicate placement)
  | .reject operation => fun recorder => .ok .done (recorder.reject operation)
  | .acceptAll => fun recorder => .ok .done recorder.acceptAll

/-- One entry more in one log, which is what is handed out.  The recorder is as
before otherwise. -/
inductive Appends (before : Recorder σ) : Call σ -> Answer -> Recorder σ -> Prop
  | space {extents : List Int} (positive : forall extent, extent ∈ extents -> 0 < extent) :
      Appends before (.createSpace extents) (.space (before.nextSpace extents))
        (before.withSpace extents)
  | array {call : Call σ} {elementType : ElementType} {layout : Layout} {origin : ArrayOrigin}
      (asked : call.array? = some (elementType, layout, origin)) :
      Appends before call (.array (before.nextArray elementType origin))
        (before.withArray elementType layout origin)
  | kernel {space : NativeSpace} {kernel : Kernel σ} {predicate : Option Predicate}
      {placement : Option Placement}
      (recorded : ∃ known, known ∈ before.spaces ∧ known.id = space.id) :
      Appends before (.addKernel space kernel predicate placement) .done
        (before.withKernel ⟨space.id, kernel, predicate, placement⟩)

/-- The reasons for which a call fails. -/
inductive Fails (before : Recorder σ) : Call σ -> BackendError -> Prop
  | rejected {call : Call σ} {operation : BackendOperation}
      (called : call.operation? = some operation) (rejected : operation ∈ before.rejected) :
      Fails before call (.rejected operation "rejected by test configuration")
  | invalidExtent {extents : List Int} {dimension : Nat} {extent : Int}
      (accepted : BackendOperation.createSpace ∉ before.rejected)
      (found : extents[dimension]? = some extent) (invalid : extent <= 0)
      (valid : forall earlier, earlier ∈ extents.take dimension -> 0 < earlier) :
      Fails before (.createSpace extents) (.invalidExtent dimension extent)
  | layoutOverflow {elementType : ElementType} {layout : Layout} {data : ConstantData}
      (accepted : BackendOperation.resolveConstant ∉ before.rejected)
      (uncounted : layout.elementCount? = none) :
      Fails before (.resolveConstant elementType layout data) (.layoutOverflow layout.shape)
  | constantSizeMismatch {elementType : ElementType} {layout : Layout} {data : ConstantData}
      {count : UInt64} (accepted : BackendOperation.resolveConstant ∉ before.rejected)
      (counted : layout.elementCount? = some count) (different : data.length ≠ count.toNat) :
      Fails before (.resolveConstant elementType layout data)
        (.constantSizeMismatch count data.length)
  | unknownSpace {space : NativeSpace} {kernel : Kernel σ} {predicate : Option Predicate}
      {placement : Option Placement} (accepted : BackendOperation.addKernel ∉ before.rejected)
      (unknown : forall known, known ∈ before.spaces -> known.id ≠ space.id) :
      Fails before (.addKernel space kernel predicate placement) (.unknownSpace space.id)

/-! ## One call -/

section Perform

variable {recorder after : Recorder σ} {answer : Answer} {error : BackendError}

theorem answering_eq_ok_iff {α : Type} (wrap : α -> Answer)
    (operation : EStateM BackendError (Recorder σ) α) :
    answering wrap operation recorder = .ok answer after <->
      ∃ value, operation recorder = .ok value after ∧ answer = wrap value := by
  unfold answering
  rw [Outcome.bind_eq_ok_iff]
  constructor
  · rintro ⟨value, middle, done, same⟩
    cases same
    exact ⟨value, done, rfl⟩
  · rintro ⟨value, done, rfl⟩
    exact ⟨value, after, done, rfl⟩

theorem answering_eq_error_iff {α : Type} (wrap : α -> Answer)
    (operation : EStateM BackendError (Recorder σ) α) :
    answering wrap operation recorder = .error error after <->
      operation recorder = .error error after := by
  unfold answering
  rw [Outcome.bind_eq_error_iff]
  constructor
  · rintro (failed | ⟨_, _, _, impossible⟩)
    · exact failed
    · cases impossible
  · exact .inl

theorem state_answering {α : Type} (wrap : α -> Answer)
    (operation : EStateM BackendError (Recorder σ) α) (recorder : Recorder σ) :
    Outcome.state (answering wrap operation recorder) = Outcome.state (operation recorder) := by
  cases outcome : operation recorder with
  | ok value after =>
      rw [(answering_eq_ok_iff wrap operation).mpr ⟨value, outcome, rfl⟩]
      rfl
  | error error after =>
      rw [(answering_eq_error_iff wrap operation).mpr outcome]
      rfl

/-- A call with its answer leaves what the call leaves. -/
theorem state_perform (recorder : Recorder σ) (call : Call σ) :
    Outcome.state (perform call recorder) = recorder.afterCall call := by
  cases call with
  | createSpace extents => exact state_answering _ _ _
  | allocate elementType layout => exact state_answering _ _ _
  | resolveConstant elementType layout data => exact state_answering _ _ _
  | wrapArgument elementType layout buffer => exact state_answering _ _ _
  | addKernel space kernel predicate placement => exact state_answering _ _ _
  | reject operation => rfl
  | acceptAll => rfl

/-- An operation that is answered was accepted and adds one entry. -/
theorem perform_of_ok {call : Call σ} {operation : BackendOperation}
    (called : call.operation? = some operation)
    (done : perform call recorder = .ok answer after) :
    operation ∉ recorder.rejected ∧ Appends recorder call answer after := by
  cases call with
  | createSpace extents =>
      cases called
      rcases (answering_eq_ok_iff _ _).mp done with ⟨space, created, rfl⟩
      rcases (createSpace_eq_ok_iff _ _ _ _).mp created with ⟨accepted, positive, rfl, rfl⟩
      exact ⟨accepted, .space positive⟩
  | allocate elementType layout =>
      cases called
      rcases (answering_eq_ok_iff _ _).mp done with ⟨array, allocated, rfl⟩
      rcases (allocate_eq_ok_iff _ _ _ _ _).mp allocated with ⟨accepted, rfl, rfl⟩
      exact ⟨accepted, .array rfl⟩
  | resolveConstant elementType layout data =>
      cases called
      rcases (answering_eq_ok_iff _ _).mp done with ⟨array, resolved, rfl⟩
      rcases (resolveConstant_eq_ok_iff _ _ _ _ _ _).mp resolved with ⟨accepted, _, rfl, rfl⟩
      exact ⟨accepted, .array rfl⟩
  | wrapArgument elementType layout buffer =>
      cases called
      rcases (answering_eq_ok_iff _ _).mp done with ⟨array, wrapped, rfl⟩
      rcases (wrapArgument_eq_ok_iff _ _ _ _ _ _).mp wrapped with ⟨accepted, rfl, rfl⟩
      exact ⟨accepted, .array rfl⟩
  | addKernel space kernel predicate placement =>
      cases called
      rcases (answering_eq_ok_iff _ _).mp done with ⟨value, registered, rfl⟩
      rcases (addKernel_eq_ok_iff _ _ _ _ _ _ _).mp registered with ⟨accepted, known, rfl⟩
      exact ⟨accepted, .kernel known⟩
  | reject operation => cases called
  | acceptAll => cases called

/-- A call fails for one of the reasons that there are, and leaves everything as
it was. -/
theorem perform_of_error {call : Call σ} (failed : perform call recorder = .error error after) :
    after = recorder ∧ Fails recorder call error := by
  cases call with
  | createSpace extents =>
      rcases (createSpace_eq_error_iff _).mp ((answering_eq_error_iff _ _).mp failed) with
        ⟨rejected, rfl, rfl⟩ | ⟨accepted, rfl, dimension, extent, rfl, first⟩
      · exact ⟨rfl, .rejected rfl rejected⟩
      · rcases (firstInvalid?_eq_some_iff _ _ _).mp first with ⟨found, invalid, valid⟩
        exact ⟨rfl, .invalidExtent accepted found invalid valid⟩
  | allocate elementType layout =>
      rcases (allocate_eq_error_iff _ _).mp ((answering_eq_error_iff _ _).mp failed) with
        ⟨rejected, rfl, rfl⟩
      exact ⟨rfl, .rejected rfl rejected⟩
  | resolveConstant elementType layout data =>
      rcases (resolveConstant_eq_error_iff _ _ _).mp ((answering_eq_error_iff _ _).mp failed) with
        ⟨rejected, rfl, rfl⟩ | ⟨accepted, rfl, ⟨uncounted, rfl⟩ | ⟨count, counted, different, rfl⟩⟩
      · exact ⟨rfl, .rejected rfl rejected⟩
      · exact ⟨rfl, .layoutOverflow accepted uncounted⟩
      · exact ⟨rfl, .constantSizeMismatch accepted counted different⟩
  | wrapArgument elementType layout buffer =>
      rcases (wrapArgument_eq_error_iff _ _ _).mp ((answering_eq_error_iff _ _).mp failed) with
        ⟨rejected, rfl, rfl⟩
      exact ⟨rfl, .rejected rfl rejected⟩
  | addKernel space kernel predicate placement =>
      rcases (addKernel_eq_error_iff _ _ _ _).mp ((answering_eq_error_iff _ _).mp failed) with
        ⟨rejected, rfl, rfl⟩ | ⟨accepted, rfl, unknown, rfl⟩
      · exact ⟨rfl, .rejected rfl rejected⟩
      · exact ⟨rfl, .unknownSpace accepted unknown⟩
  | reject operation => cases failed
  | acceptAll => cases failed

/-- A rejected operation fails with its own name, whatever it is called with. -/
theorem perform_of_rejected {call : Call σ} {operation : BackendOperation}
    (called : call.operation? = some operation) (rejected : operation ∈ recorder.rejected) :
    perform call recorder =
      .error (.rejected operation "rejected by test configuration") recorder := by
  cases outcome : perform call recorder with
  | ok answer after => exact absurd rejected (perform_of_ok called outcome).1
  | error error after =>
      rcases perform_of_error outcome with ⟨rfl, fails⟩
      cases fails with
      | rejected other _ =>
          rw [other] at called
          cases called
          rfl
      | invalidExtent accepted _ _ _ =>
          cases called
          exact absurd rejected accepted
      | layoutOverflow accepted _ =>
          cases called
          exact absurd rejected accepted
      | constantSizeMismatch accepted _ _ =>
          cases called
          exact absurd rejected accepted
      | unknownSpace accepted _ =>
          cases called
          exact absurd rejected accepted

/-- An accepted space is created or has a first extent that is not positive. -/
theorem createSpace_of_accepted {extents : List Int}
    (accepted : BackendOperation.createSpace ∉ recorder.rejected) :
    ((∃ error after, perform (.createSpace extents) recorder = .error error after) <->
      ∃ extent, extent ∈ extents ∧ extent <= 0) ∧
    (forall error after, perform (.createSpace extents) recorder = .error error after ->
      ∃ dimension extent, error = .invalidExtent dimension extent ∧
        extents[dimension]? = some extent ∧ extent <= 0 ∧
        forall earlier, earlier ∈ extents.take dimension -> 0 < earlier) := by
  have told : forall error after, perform (.createSpace extents) recorder = .error error after ->
      ∃ dimension extent, error = .invalidExtent dimension extent ∧
        extents[dimension]? = some extent ∧ extent <= 0 ∧
        forall earlier, earlier ∈ extents.take dimension -> 0 < earlier := by
    intro error after failed
    cases (perform_of_error failed).2 with
    | rejected called rejected =>
        cases called
        exact absurd rejected accepted
    | invalidExtent _ found invalid valid => exact ⟨_, _, rfl, found, invalid, valid⟩
  refine ⟨⟨?_, ?_⟩, told⟩
  · rintro ⟨error, after, failed⟩
    rcases told error after failed with ⟨_, extent, _, found, invalid, _⟩
    exact ⟨extent, List.mem_of_getElem? found, invalid⟩
  · rintro ⟨extent, member, invalid⟩
    cases outcome : perform (.createSpace extents) recorder with
    | error error after => exact ⟨error, after, rfl⟩
    | ok answer after =>
        have called : (Call.createSpace extents : Call σ).operation? = some .createSpace := rfl
        cases (perform_of_ok called outcome).2 with
        | space positive => exact absurd (positive extent member) (Int.not_lt.mpr invalid)
        | array asked => cases asked

/-- What rejects or accepts operations leaves the logs alone. -/
theorem perform_of_none {call : Call σ} (called : call.operation? = none)
    (recorder : Recorder σ) :
    ∃ rejected, perform call recorder = .ok .done { recorder with rejected } := by
  cases call with
  | reject operation =>
      refine ⟨(recorder.reject operation).rejected, ?_⟩
      have same : recorder.reject operation =
          { recorder with rejected := (recorder.reject operation).rejected } := by
        unfold reject
        split <;> rfl
      exact congrArg (EStateM.Result.ok Answer.done) same
  | acceptAll => exact ⟨[], rfl⟩
  | createSpace extents => cases called
  | allocate elementType layout => cases called
  | resolveConstant elementType layout data => cases called
  | wrapArgument elementType layout buffer => cases called
  | addKernel space kernel predicate placement => cases called

end Perform

/-! ## Calls as changes -/

/-- One entry more is a change. -/
theorem Appends.change {before after : Recorder σ} {call : Call σ} {answer : Answer}
    (appends : Appends before call answer after) : Change before after := by
  cases appends with
  | space _ => exact .space _
  | array _ => exact .array _ _ _
  | kernel _ => exact .kernel _

/-- A call leaves everything as it was, adds one entry, or changes what is
rejected. -/
theorem afterCall_cases (recorder : Recorder σ) (call : Call σ) :
    recorder.afterCall call = recorder ∨
      (∃ answer, Appends recorder call answer (recorder.afterCall call)) ∨
      call.operation? = none ∧
        ∃ rejected, recorder.afterCall call = { recorder with rejected } := by
  rw [← state_perform]
  cases called : call.operation? with
  | none =>
      rcases perform_of_none called recorder with ⟨rejected, done⟩
      rw [done]
      exact .inr (.inr ⟨rfl, rejected, rfl⟩)
  | some operation =>
      cases outcome : perform call recorder with
      | ok answer after => exact .inr (.inl ⟨answer, (perform_of_ok called outcome).2⟩)
      | error error after => exact .inl (perform_of_error outcome).1

/-- A call only makes changes. -/
theorem changes_afterCall (recorder : Recorder σ) (call : Call σ) :
    Changes recorder (recorder.afterCall call) := by
  rcases afterCall_cases recorder call with same | ⟨answer, appends⟩ | ⟨_, rejected, same⟩
  · rw [same]
  · exact .single appends.change
  · rw [same]
    exact .single (.rejected rejected)

theorem changes_afterCalls (recorder : Recorder σ) (calls : List (Call σ)) :
    Changes recorder (recorder.afterCalls calls) := by
  induction calls generalizing recorder with
  | nil => exact .refl
  | cons call rest inductionHypothesis =>
      exact (changes_afterCall recorder call).trans (inductionHypothesis _)

end Recorder

end LoopNest
