import LoopNest.Proofs.Nest.Kernels
import LoopNest.Proofs.Nest.Space
import LoopNest.Proofs.Plan.Stages

namespace LoopNest

/-!
# Runs of a lowering pass

A pass on a recorder that gives a result went through all its stages.  A run
keeps the state that each stage left together with the reason why the stage
did not fail, and the result of the pass can be read off it.  There is a run
exactly when the pass gives a result.
-/

namespace Lowering

variable {σ : Type}

/-- The stages of a pass until it is in its space. -/
structure Entry (arguments : Arguments σ) (bindings : Bindings σ)
    (lowering : Lowering (Recorder σ) σ) where
  /-- The store with the bindings applied. -/
  applied : Store σ
  /-- The store after the declared extents are resolved. -/
  resolved : Store σ
  numbers : List Int
  /-- The pass after the arguments are recorded. -/
  seeded : Pass (Recorder σ) σ
  application : bindings.apply lowering.store = .ok () applied
  resolution :
    lowering.plan.nest.declaredShape.mapM Extent.resolve applied = .ok numbers resolved
  counts : arguments.captures.length = arguments.runtime.length
  seeding :
    Pass.seedFrom 0 arguments.pairs
      (Pass.start lowering.backend resolved arguments lowering.plan.options) = .ok () seeded
  accepted : BackendOperation.createSpace ∉ seeded.backend.rejected
  positive : forall number, number ∈ numbers -> 0 < number

section Entry

variable {arguments : Arguments σ} {bindings : Bindings σ} {lowering : Lowering (Recorder σ) σ}

namespace Entry

/-- The space of the pass. -/
def space (entry : Entry arguments bindings lowering) : NativeSpace :=
  entry.seeded.backend.nextSpace entry.numbers

/-- The pass once it is in its space. -/
def pass (entry : Entry arguments bindings lowering) : Pass (Recorder σ) σ :=
  entry.seeded.inSpace lowering.plan.nest.ownIndices entry.numbers

theorem complete (entry : Entry arguments bindings lowering) :
    entry.numbers.length = lowering.plan.nest.rank :=
  Nest.complete_of_mapM_resolve entry.resolution

theorem complete_indices (entry : Entry arguments bindings lowering) :
    entry.numbers.length = lowering.plan.nest.ownIndices.length := by
  rw [entry.complete]
  exact (List.length_map _).symm

end Entry

/-- The stages of a pass that gives a result. -/
structure Run (arguments : Arguments σ) (bindings : Bindings σ)
    (lowering : Lowering (Recorder σ) σ) extends Entry arguments bindings lowering where
  /-- The kernels that are registered. -/
  added : List (RecordedKernel σ)
  /-- The pass after all kernels are registered. -/
  done : Pass (Recorder σ) σ
  adding : Nest.AddsAll toEntry.pass lowering.plan.nest.attachments added done

namespace Run

/-- What the pass produced. -/
def lowered (run : Run arguments bindings lowering) : LoweredNest :=
  { target := lowering.plan.target.name
    space := run.space
    identities := run.done.identities
    kernels := lowering.plan.nest.kernelCount }

/-- The state that the pass left. -/
def after (run : Run arguments bindings lowering) : Lowering (Recorder σ) σ :=
  { plan := lowering.plan.prepared run.numbers
    backend := run.done.backend
    store := bindings.release run.done.store }

end Run

end Entry

/-- The steps over a prepared nest, from the state that a pass starts in. -/
theorem steps_eq_ok_iff (nest : Nest σ) (target : Target) {numbers : List Int}
    (complete : numbers.length = nest.rank) (pass after : Pass (Recorder σ) σ)
    (lowered : LoweredNest) :
    steps (nest.withExtents numbers) target pass = .ok lowered after <->
      pass.arguments.captures.length = pass.arguments.runtime.length ∧
        ∃ seeded added, Pass.seedFrom 0 pass.arguments.pairs pass = .ok () seeded ∧
          BackendOperation.createSpace ∉ seeded.backend.rejected ∧
          (forall number, number ∈ numbers -> 0 < number) ∧
          Nest.AddsAll (seeded.inSpace nest.ownIndices numbers) nest.attachments added after ∧
          lowered =
            { target := target.name
              space := seeded.backend.nextSpace numbers
              identities := after.identities
              kernels := nest.kernelCount } := by
  have last (seeded final : Pass (Recorder σ) σ) (added : List (RecordedKernel σ))
      (adding : Nest.AddsAll (seeded.inSpace nest.ownIndices numbers) nest.attachments added
        final) : final.space = some (seeded.backend.nextSpace numbers) :=
    adding.continues.space
  unfold steps Nest.addKernels
  simp only [Outcome.bind_eq_ok_iff, Nest.buildSpace_eq_ok_iff nest complete,
    Nest.addAttachments_eq_ok_iff, Nest.attachments_withExtents, Nest.kernelCount_withExtents]
  constructor
  · rintro ⟨_, middle, ⟨equal, seeded, recorded, accepted, positive, rfl⟩, _, final,
      ⟨added, adding⟩, current, _, reading, result⟩
    cases reading
    rw [last _ _ _ adding] at result
    cases result
    exact ⟨equal, seeded, added, recorded, accepted, positive, adding, rfl⟩
  · rintro ⟨equal, seeded, added, recorded, accepted, positive, adding, rfl⟩
    refine ⟨(), _, ⟨equal, seeded, recorded, accepted, positive, rfl⟩, (), after,
      ⟨added, adding⟩, after, after, rfl, ?_⟩
    rw [last _ _ _ adding]
    rfl

/-- A pass gives a result when there is a run, and the result is that of the
run. -/
theorem lower_eq_ok_iff (arguments : Arguments σ) (bindings : Bindings σ)
    (lowering after : Lowering (Recorder σ) σ) (lowered : LoweredNest) :
    lower arguments bindings lowering = .ok lowered after <->
      ∃ run : Run arguments bindings lowering, lowered = run.lowered ∧ after = run.after := by
  constructor
  · intro result
    have ends := ends_lower arguments bindings lowering
    rw [result] at ends
    cases ends with
    | @done applied resolved numbers final _ application resolution done =>
        have complete := Nest.complete_of_mapM_resolve resolution
        rcases (steps_eq_ok_iff _ _ complete _ _ _).mp done with
          ⟨counts, seeded, added, seeding, accepted, positive, adding, rfl⟩
        exact ⟨⟨⟨applied, resolved, numbers, seeded, application, resolution, counts, seeding,
          accepted, positive⟩, added, final, adding⟩, rfl, rfl⟩
  · rintro ⟨run, rfl, rfl⟩
    have outcome := (steps_eq_ok_iff lowering.plan.nest lowering.plan.target run.complete
      (Pass.start lowering.backend run.resolved arguments lowering.plan.options) run.done
      run.lowered).mpr ⟨run.counts, run.seeded, run.added, run.seeding, run.accepted,
        run.positive, run.adding, rfl⟩
    rw [lower_of_resolved arguments bindings run.application run.resolution, outcome]
    rfl

end Lowering

end LoopNest
