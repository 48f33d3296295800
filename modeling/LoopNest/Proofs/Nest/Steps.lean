import LoopNest.Proofs.Nest.Space
import LoopNest.Proofs.Pass.Steps

namespace LoopNest

/-!
# The steps of building a nest

Building the space of a nest runs by steps until the arguments are recorded.
If it gives a result, the pass then entered a new space with one native index
per loop index; if it fails, it failed before that.  Registering the kernels
runs by steps again.
-/

namespace Nest

variable {σ : Type}

theorem runs_addAttachments (attachments : List (Attachment σ)) (pass : Pass (Recorder σ) σ) :
    Pass.Runs (addAttachments attachments) pass := by
  induction attachments generalizing pass with
  | nil => exact .pure () pass
  | cons attachment rest inductionHypothesis =>
      exact (Pass.runs_addLogic attachment.logic attachment.scheduling pass).bind
        fun _ middle _ => inductionHypothesis middle

/-- Extents are refused only for being deferred. -/
theorem spaceKnown_of_extentsFrom {position : Nat} {extents : List (Extent σ)} {error : NestError}
    (failed : extentsFrom position extents = .error error) : error.SpaceKnown := by
  induction extents generalizing position with
  | nil => cases failed
  | cons extent rest inductionHypothesis =>
      cases extent with
      | deferred value =>
          cases failed
          exact nofun
      | fixed value =>
          rw [extentsFrom] at failed
          cases later : extentsFrom (position + 1) rest with
          | error fault =>
              rw [later] at failed
              cases failed
              exact inductionHypothesis later
          | ok others =>
              rw [later] at failed
              cases failed

/-- A pass that built the space is in a new one. -/
theorem buildSpace_of_ok {nest : Nest σ} {pass after : Pass (Recorder σ) σ} {done : Unit}
    (built : nest.buildSpace pass = .ok done after) :
    ∃ seeded numbers, Pass.Steps pass seeded ∧ numbers.length = nest.rank ∧
      after = seeded.inSpace nest.ownIndices numbers := by
  rcases exists_extents_of_ok built with ⟨numbers, fixed⟩
  rcases (buildSpace_eq_ok_iff_of_extents fixed _ _).mp built with
    ⟨seeded, recorded, _, _, entered⟩
  have steps := (Pass.runs_seedArguments pass).steps
  rw [recorded] at steps
  exact ⟨seeded, numbers, steps, length_of_extents fixed, entered⟩

/-- The space of a pass that just entered it is recorded. -/
theorem spaceRecorded_of_ok {nest : Nest σ} {pass after : Pass (Recorder σ) σ} {done : Unit}
    (built : nest.buildSpace pass = .ok done after) : after.SpaceRecorded := by
  rcases buildSpace_of_ok built with ⟨seeded, numbers, _, _, rfl⟩
  intro space entered
  cases entered
  exact ⟨_, List.mem_append_right _ (List.mem_singleton.mpr rfl), rfl⟩

/-- A pass that did not build the space is in no new one, whatever space it was
in before. -/
private theorem buildSpace_fails {nest : Nest σ} {pass after : Pass (Recorder σ) σ}
    {error : NestError} (failed : nest.buildSpace pass = .error error after) :
    Pass.Steps pass after ∧ (pass.SpaceRecorded -> error.SpaceKnown) := by
  cases extents : nest.extents with
  | error fault =>
      rw [buildSpace_of_unresolved extents] at failed
      cases failed
      exact ⟨.refl, fun _ => spaceKnown_of_extentsFrom extents⟩
  | ok numbers =>
      have seeding := Pass.runs_seedArguments pass
      have steps := seeding.steps
      cases recording : Pass.seedArguments pass with
      | error fault seeded =>
          rw [buildSpace_of_unseeded extents recording] at failed
          cases failed
          rw [recording] at steps
          exact ⟨steps, fun recorded => seeding.known recorded recording⟩
      | ok done seeded =>
          rw [recording] at steps
          rcases (buildSpace_eq_error_iff_of_seeded extents recording _ _).mp failed with
            ⟨fault, refused, rfl, rfl⟩
          exact ⟨steps, fun _ => (Recorder.createSpace_of_error refused).2.nestError⟩

theorem buildSpace_of_error {nest : Nest σ} {pass after : Pass (Recorder σ) σ} {error : NestError}
    (recorded : pass.SpaceRecorded) (failed : nest.buildSpace pass = .error error after) :
    Pass.Steps pass after ∧ error.SpaceKnown :=
  (buildSpace_fails failed).imp_right fun known => known recorded

/-- When building fails, the space is the one before, and none is logged. -/
theorem continues_of_buildSpace_error {nest : Nest σ} {pass after : Pass (Recorder σ) σ}
    {error : NestError} (failed : nest.buildSpace pass = .error error after) :
    Pass.Continues pass after :=
  (buildSpace_fails failed).1.continues

/-- Building a space only makes changes to the backend. -/
theorem changes_buildSpace (nest : Nest σ) (pass : Pass (Recorder σ) σ) :
    Recorder.Changes pass.backend (Outcome.state (nest.buildSpace pass)).backend := by
  cases outcome : nest.buildSpace pass with
  | ok done after =>
      rcases buildSpace_of_ok outcome with ⟨seeded, numbers, steps, _, rfl⟩
      exact steps.changes.tail (.space numbers)
  | error error after => exact (buildSpace_fails outcome).1.changes

end Nest

end LoopNest
