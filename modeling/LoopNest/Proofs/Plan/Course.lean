import LoopNest.Proofs.Pass.Provenance
import LoopNest.Proofs.Plan.Stages

namespace LoopNest

/-!
# The course of a pass, also of one that fails

However a lowering pass on a recorder ends, it took steps, entered at most one
new space, and took more steps in it.  A pass that gives a result did enter a
space, and its result is read off the state in which it ended.  So the backend
that any pass leaves has grown by at most one space.
-/

namespace Pass

variable {σ : Type}

/-- How a pass over a nest went until it ended, and the space that it entered
if it entered one. -/
inductive Course (nest : Nest σ) (start : Pass (Recorder σ) σ) :
    Option NativeSpace -> Pass (Recorder σ) σ -> Prop
  | outside {final : Pass (Recorder σ) σ} (steps : Steps start final) :
      Course nest start none final
  | inside {seeded final : Pass (Recorder σ) σ} {numbers : List Int}
      (steps : Steps start seeded) (complete : numbers.length = nest.rank)
      (later : Steps (seeded.inSpace nest.ownIndices numbers) final) :
      Course nest start (some (seeded.backend.nextSpace numbers)) final

section Course

variable {nest : Nest σ} {start final : Pass (Recorder σ) σ} {created? : Option NativeSpace}

theorem Course.changes (course : Course nest start created? final) :
    Recorder.Changes start.backend final.backend := by
  cases course with
  | outside steps => exact steps.changes
  | inside steps complete later =>
      exact (steps.changes.tail (.space _)).trans later.changes

/-- The log of spaces grows by the space that is entered. -/
theorem Course.spaces (course : Course nest start created? final) :
    final.backend.spaces = start.backend.spaces ++ created?.toList := by
  cases course with
  | outside steps => exact steps.continues.spaces.trans (List.append_nil _).symm
  | @inside seeded _ numbers steps complete later =>
      have entered : (seeded.inSpace nest.ownIndices numbers).backend.spaces =
          seeded.backend.spaces ++ [seeded.backend.nextSpace numbers] := rfl
      rw [later.continues.spaces, entered, steps.continues.spaces]
      rfl

theorem Course.grounded {base : Recorder σ} (course : Course nest start created? final)
    (grounded : Grounded base start) : Grounded base final := by
  cases course with
  | outside steps => exact steps.grounded grounded
  | inside steps complete later =>
      exact later.grounded ((steps.grounded grounded).inSpace _ _)

end Course

end Pass

namespace Lowering

variable {σ : Type}

/-- The course of the steps over a nest, from a pass that is in no space. -/
theorem exists_course_of_steps (nest : Nest σ) (target : Target) {pass : Pass (Recorder σ) σ}
    (outside : pass.space = none) :
    ∃ created?, pass.Course nest created? (Outcome.state (steps nest target pass)) ∧
      forall lowered after, steps nest target pass = .ok lowered after ->
        created? = some lowered.space ∧ lowered.identities = after.identities := by
  cases building : nest.buildSpace pass with
  | error error stopped =>
      have unrecorded : pass.SpaceRecorded := by
        intro space entered
        rw [outside] at entered
        cases entered
      have failed : steps nest target pass = .error error stopped :=
        Outcome.bind_of_error building _
      rw [failed]
      exact ⟨none, .outside (Nest.buildSpace_of_error unrecorded building).1, nofun⟩
  | ok done built =>
      rcases Nest.buildSpace_of_ok building with ⟨seeded, numbers, begun, complete, rfl⟩
      have later := (Nest.runs_addAttachments nest.attachments
        (seeded.inSpace nest.ownIndices numbers)).steps
      refine ⟨some (seeded.backend.nextSpace numbers), ?_⟩
      unfold steps
      rw [Outcome.bind_of_ok building]
      cases adding : nest.addKernels (seeded.inSpace nest.ownIndices numbers) with
      | error error stopped =>
          rw [Outcome.bind_of_error adding]
          unfold Nest.addKernels at adding
          rw [adding] at later
          exact ⟨.inside begun complete later, nofun⟩
      | ok done final =>
          rw [Outcome.bind_of_ok adding, Outcome.bind_of_ok (Pass.get_apply final)]
          unfold Nest.addKernels at adding
          rw [adding] at later
          have entered : final.space = some (seeded.backend.nextSpace numbers) :=
            later.continues.space
          rw [entered]
          refine ⟨.inside begun complete later, ?_⟩
          intro lowered after result
          cases result
          exact ⟨rfl, rfl⟩

/-- The course of a whole pass.  One that ends before anything is built took no
steps. -/
theorem exists_course (arguments : Arguments σ) (bindings : Bindings σ)
    (lowering : Lowering (Recorder σ) σ) :
    ∃ nest store created? final,
      (Pass.start lowering.backend store arguments lowering.plan.options).Course nest created?
        final ∧
      (Outcome.state (lower arguments bindings lowering)).backend = final.backend ∧
      forall lowered after, lower arguments bindings lowering = .ok lowered after ->
        created? = some lowered.space ∧ lowered.identities = final.identities := by
  have idle (store : Store σ) :
      (Pass.start lowering.backend store arguments lowering.plan.options).Course
        lowering.plan.nest none _ := .outside .refl
  have outside (store : Store σ) :
      (Pass.start lowering.backend store arguments lowering.plan.options).space = none := rfl
  have ends := ends_lower arguments bindings lowering
  generalize lower arguments bindings lowering = outcome at ends
  cases ends with
  | @unapplied store _ _ => exact ⟨_, store, none, _, idle store, rfl, nofun⟩
  | @unresolved _ resolved _ _ _ => exact ⟨_, resolved, none, _, idle resolved, rfl, nofun⟩
  | @failed _ resolved numbers stopped _ _ _ failed =>
      rcases exists_course_of_steps (lowering.plan.nest.withExtents numbers) lowering.plan.target
          (outside resolved) with ⟨created?, course, _⟩
      rw [failed] at course
      exact ⟨_, resolved, created?, stopped, course, rfl, nofun⟩
  | @done _ resolved numbers final _ _ _ done =>
      rcases exists_course_of_steps (lowering.plan.nest.withExtents numbers) lowering.plan.target
          (outside resolved) with ⟨created?, course, result⟩
      rw [done] at course
      refine ⟨_, resolved, created?, final, course, rfl, ?_⟩
      intro lowered after same
      cases same
      exact result _ _ done

/-- A pass only makes changes to the backend. -/
theorem changes_lower (arguments : Arguments σ) (bindings : Bindings σ)
    (lowering : Lowering (Recorder σ) σ) :
    Recorder.Changes lowering.backend
      (Outcome.state (lower arguments bindings lowering)).backend := by
  rcases exists_course arguments bindings lowering with ⟨_, _, _, final, course, left, _⟩
  rw [left]
  exact course.changes

end Lowering

end LoopNest
