import LoopNest.Proofs.Nest.Steps
import LoopNest.Proofs.Pass.Causes
import LoopNest.Proofs.Pass.Reordering
import LoopNest.Proofs.Plan.Strictness

namespace LoopNest

/-!
# What a lowering pass fails by

A pass checks more than can go wrong in it.  When the nest is built all extents
are numbers, the space of a recorder has the rank of the nest, and when commands
are replayed the pass is in a space that the recorder knows.  What remains are
the four causes by which the parts of a pass fail.
-/

namespace Nest

variable {σ : Type}

open Pass (FailsBy)

/-- A pass that is in its space stays there while commands are replayed. -/
theorem failsBy_addAttachments {all : List (Attachment σ)} {space : NativeSpace}
    (attachments : List (Attachment σ))
    (members : forall attachment, attachment ∈ attachments -> attachment ∈ all)
    (pass : Pass (Recorder σ) σ) (entered : pass.space = some space) :
    FailsBy (NestError.EndsPass all) (addAttachments attachments) pass := by
  induction attachments generalizing pass with
  | nil => exact .pure ()
  | cons attachment rest inductionHypothesis =>
      rw [List.forall_mem_cons] at members
      refine (Pass.failsBy_addLogic members.1 entered).bind fun done middle added => ?_
      have steps := (Pass.runs_addLogic attachment.logic attachment.scheduling pass).steps
      rw [added] at steps
      exact inductionHypothesis members.2 middle ((Pass.Steps.continues steps).space.trans entered)

/-- A nest whose extents are numbers is neither refused for its shape nor for
the rank of its space. -/
theorem failsBy_buildSpace {attachments : List (Attachment σ)} (nest : Nest σ)
    {numbers : List Int} (complete : numbers.length = nest.rank) (pass : Pass (Recorder σ) σ) :
    FailsBy (NestError.EndsPass attachments) (nest.withExtents numbers).buildSpace pass := by
  unfold buildSpace
  rw [nest.extents_withExtents complete, nest.rank_withExtents complete]
  refine (Pass.failsBy_seedArguments pass).bind fun _ seeded _ => ?_
  refine FailsBy.bind (.onBackend .backend _) fun space middle created => ?_
  rcases (Pass.onBackend_eq_ok_iff _ _ _ _).mp created with ⟨backend, made, rfl⟩
  rcases (Recorder.createSpace_eq_ok_iff _ _ _ _).mp made with ⟨_, _, rfl, rfl⟩
  have ranked : (seeded.backend.nextSpace numbers).rank = nest.rank :=
    (NativeSpace.rank_ofExtents _ numbers).trans complete
  rw [if_pos ranked]
  intro error after failed
  rw [Outcome.bind_of_ok (seedIndices_apply _ _)] at failed
  cases failed

end Nest

namespace Lowering

variable {σ : Type}

open Pass (FailsBy)

/-- Building the nest enters the space, so neither the commands nor the result
miss it. -/
theorem failsBy_steps (nest : Nest σ) {numbers : List Int} (complete : numbers.length = nest.rank)
    (target : Target) (pass : Pass (Recorder σ) σ) :
    FailsBy (NestError.EndsPass nest.attachments) (steps (nest.withExtents numbers) target)
      pass := by
  refine (nest.failsBy_buildSpace complete pass).bind fun _ opened built => ?_
  have entered : ∃ space, opened.space = some space := by
    rcases Nest.buildSpace_of_ok built with ⟨_, _, _, _, rfl⟩
    exact ⟨_, rfl⟩
  rcases entered with ⟨space, entered⟩
  have adding := Nest.failsBy_addAttachments nest.attachments (fun _ member => member) opened
    entered
  refine adding.bind fun _ final added => FailsBy.get_bind ?_
  have steps := (Nest.runs_addAttachments nest.attachments opened).steps
  rw [added] at steps
  have still : final.space = some space := (Pass.Steps.continues steps).space.trans entered
  simp only [still]
  exact .pure _

/-- The space that a pass adds kernels in is one that it created. -/
theorem spaceKnown_steps {nest : Nest σ} {target : Target} {pass : Pass (Recorder σ) σ}
    (outside : pass.space = none) : FailsBy NestError.SpaceKnown (steps nest target) pass := by
  have recorded : pass.SpaceRecorded := by
    intro space entered
    rw [outside] at entered
    cases entered
  have building : FailsBy NestError.SpaceKnown nest.buildSpace pass := fun _ _ failed =>
    (Nest.buildSpace_of_error recorded failed).2
  refine building.bind fun _ opened built => ?_
  have adding : FailsBy NestError.SpaceKnown nest.addKernels opened := fun _ _ failed =>
    (Nest.runs_addAttachments nest.attachments opened).known (Nest.spaceRecorded_of_ok built) failed
  refine adding.bind fun _ final _ => FailsBy.get_bind ?_
  split
  · exact .throw nofun
  · exact .pure _

/-- A pass ends by one of the four causes, and a space that the backend does not
know is not among them. -/
theorem endsPass_of_error {arguments : Arguments σ} {bindings : Bindings σ}
    {lowering after : Lowering (Recorder σ) σ} {error : NestError}
    (failed : lower arguments bindings lowering = .error error after) :
    NestError.EndsPass lowering.plan.nest.attachments error ∧ error.SpaceKnown := by
  have ends := ends_lower arguments bindings lowering
  rw [failed] at ends
  cases ends with
  | unapplied _ => exact ⟨.deferred _, nofun⟩
  | unresolved _ _ => exact ⟨.deferred _, nofun⟩
  | failed application resolution stopped =>
      have complete := Nest.complete_of_mapM_resolve resolution
      exact ⟨failsBy_steps _ complete _ _ _ _ stopped, spaceKnown_steps rfl _ _ stopped⟩

/-- A failed pass never says that a logic function is malformed, that an extent
is still deferred, that there is no space, or that the space has another rank
or is unknown to the backend.  If it says that a captured value could not be
resolved, that value is a sequence.  It never says that a constant has no data:
whatever state the pass is in, the array of a captured handle is not missing
them. -/
theorem ruled_out_causes {arguments : Arguments σ} {bindings : Bindings σ}
    {lowering after : Lowering (Recorder σ) σ} {error : NestError}
    (failed : lower arguments bindings lowering = .error error after) :
    (forall invalid, error ≠ .invalidLogic invalid) ∧
      (forall dimension parameter, error ≠ .unresolvedShape dimension parameter) ∧
      error ≠ .missingSpace ∧
      (forall expected found, error ≠ .spaceRankMismatch expected found) ∧
      (forall space, error ≠ .backend (.unknownSpace space)) ∧
      (forall logic name fault, error = .captureResolution logic name fault ->
        ∃ attachment capture, attachment ∈ lowering.plan.nest.attachments ∧
          attachment.logic.name = logic ∧ attachment.logic.capture? name = some capture ∧
          capture.elements?.isSome = true) ∧
      (forall logic name, error ≠ .captureResolution logic name .missingData) ∧
      forall handle, .array handle ∈ lowering.plan.nest.captured ->
        forall (logic name : String) (pass stopped : Pass (Recorder σ) σ),
          Pass.materialize (.captureResolution logic name) handle.record pass ≠
            .error (.captureResolution logic name .missingData) stopped := by
  rcases endsPass_of_error failed with ⟨ends, known⟩
  refine ⟨?_, ?_, ?_, ?_, known, ?_, ?_, ?_⟩
  · rintro invalid rfl
    cases ends
  · rintro dimension parameter rfl
    cases ends
  · rintro rfl
    cases ends
  · rintro expected found rfl
    cases ends
  · rintro logic name fault rfl
    cases ends with
    | @sequence attachment _ capture attached captured elements _ _ =>
        exact ⟨attachment, capture, attached, rfl,
          (attachment.logic.capture?_eq_some_iff _ _).mpr captured, elements⟩
  · rintro logic name rfl
    cases ends with
    | sequence attached captured elements fault ofSequence => exact ofSequence
  · intro handle _ logic name pass stopped missing
    rcases (Pass.materialize_missingData_iff logic name handle.record pass stopped).mp missing with
      ⟨constant, bare, _⟩
    exact handle.data?_ne_none constant bare

/-- Without arguments the strict pass over the small nest fails, and by the
captured sequence. -/
theorem sequence_without_input :
    ∃ fault after,
      lower .empty Sample.bindings ((Sample.lowering Sample.busyNest).withOptions .strict) =
        .error (.captureResolution "kernel" "all" fault) after ∧
      ∃ attachment capture, attachment ∈ Sample.busyNest.attachments ∧
        attachment.logic.name = "kernel" ∧ attachment.logic.capture? "all" = some capture ∧
        capture.elements?.isSome = true := by
  have stops :
      (match lower .empty Sample.bindings
          ((Sample.lowering Sample.busyNest).withOptions .strict) with
        | .ok _ _ => none
        | .error error _ => some error) =
      some (NestError.captureResolution "kernel" "all" (.unmapped 0 "array")) := by
    decide +kernel
  cases outcome : lower .empty Sample.bindings
      ((Sample.lowering Sample.busyNest).withOptions .strict) with
  | ok lowered after =>
      rw [outcome] at stops
      cases stops
  | error error after =>
      rw [outcome] at stops
      cases stops
      exact ⟨_, after, rfl, (ruled_out_causes outcome).2.2.2.2.2.1 "kernel" "all" _ rfl⟩

end Lowering

end LoopNest
