import LoopNest.Proofs.Nest.Steps
import LoopNest.Proofs.Pass.Failure
import LoopNest.Proofs.Plan.Stages

namespace LoopNest

/-!
# Before commands are replayed

A pass that gets as far as its space has applied the bindings, resolved the
extents, recorded the arguments and mapped the loop indices.  What is left is to
replay the commands, so from there on the outcome of the pass is that of the
replay.  A pass that does not get there fails, and it has registered no kernel.
-/

namespace Lowering

section Opened

variable {β σ : Type} [Backend σ β]

/-- The pass in its space, before any command is replayed, if the stages until
then succeed. -/
def opened? (arguments : Arguments σ) (bindings : Bindings σ) (lowering : Lowering β σ) :
    Option (Pass β σ) :=
  match bindings.apply lowering.store with
  | .error _ _ => none
  | .ok _ store =>
      match prepare { lowering with store } with
      | .error _ _ => none
      | .ok _ prepared =>
          let plan := prepared.plan
          let pass := Pass.start prepared.backend prepared.store arguments plan.options
          match plan.nest.buildSpace pass with
          | .error _ _ => none
          | .ok _ opened => some opened

/-- What a pass went through that is in its space. -/
structure Opens (arguments : Arguments σ) (bindings : Bindings σ) (lowering : Lowering β σ)
    (applied resolved : Store σ) (numbers : List Int) (pass : Pass β σ) : Prop where
  application : bindings.apply lowering.store = .ok () applied
  resolution :
    lowering.plan.nest.declaredShape.mapM Extent.resolve applied = .ok numbers resolved
  building :
    (lowering.plan.nest.withExtents numbers).buildSpace
      (Pass.start lowering.backend resolved arguments lowering.plan.options) = .ok () pass

variable {arguments : Arguments σ} {bindings : Bindings σ} {lowering : Lowering β σ}
  {applied resolved : Store σ} {numbers : List Int} {pass : Pass β σ}

private theorem opened?_of_resolved (application : bindings.apply lowering.store = .ok () applied)
    (resolution :
      lowering.plan.nest.declaredShape.mapM Extent.resolve applied = .ok numbers resolved) :
    lowering.opened? arguments bindings =
      match (lowering.plan.nest.withExtents numbers).buildSpace
          (Pass.start lowering.backend resolved arguments lowering.plan.options) with
      | .error _ _ => none
      | .ok _ opened => some opened := by
  unfold opened?
  simp only [application, prepare_of_ok { lowering with store := applied } resolution]
  rfl

theorem Opens.opened?_eq (opens : Opens arguments bindings lowering applied resolved numbers pass) :
    lowering.opened? arguments bindings = some pass := by
  rw [opened?_of_resolved opens.application opens.resolution, opens.building]

/-- There is a pass in its space when the stages succeed. -/
theorem opened?_eq_some_iff (pass : Pass β σ) :
    lowering.opened? arguments bindings = some pass <->
      ∃ applied resolved numbers,
        Opens arguments bindings lowering applied resolved numbers pass := by
  constructor
  · intro opened
    cases application : bindings.apply lowering.store with
    | error fault store => simp [opened?, application] at opened
    | ok done applied =>
        cases resolution : lowering.plan.nest.declaredShape.mapM Extent.resolve applied with
        | error fault resolved =>
            have stopped := prepare_of_error { lowering with store := applied } resolution
            simp [opened?, application, stopped] at opened
        | ok numbers resolved =>
            rw [opened?_of_resolved application resolution] at opened
            split at opened
            · cases opened
            · next building =>
                cases opened
                exact ⟨applied, resolved, numbers, application, resolution, building⟩
  · rintro ⟨applied, resolved, numbers, opens⟩
    exact opens.opened?_eq

end Opened

section Recorder

variable {σ : Type} {arguments : Arguments σ} {bindings : Bindings σ}
  {lowering : Lowering (Recorder σ) σ} {applied resolved : Store σ} {numbers : List Int}
  {pass : Pass (Recorder σ) σ}

theorem Opens.entered (opens : Opens arguments bindings lowering applied resolved numbers pass) :
    ∃ space, pass.space = some space := by
  rcases Nest.buildSpace_of_ok opens.building with ⟨seeded, extents, _, _, rfl⟩
  exact ⟨_, rfl⟩

/-- A pass that is in its space has not registered any kernel yet. -/
theorem Opens.kernels (opens : Opens arguments bindings lowering applied resolved numbers pass) :
    pass.backend.kernels = lowering.backend.kernels := by
  rcases Nest.buildSpace_of_ok opens.building with ⟨seeded, extents, steps, _, rfl⟩
  exact Pass.Steps.kernels_of_outside steps rfl

/-- Once a pass is in its space, its outcome is that of replaying the
commands. -/
theorem Opens.lower_eq (opens : Opens arguments bindings lowering applied resolved numbers pass)
    {space : NativeSpace} (entered : pass.space = some space) :
    lower arguments bindings lowering =
      match Nest.addAttachments lowering.plan.nest.attachments pass with
      | .ok _ final =>
          .ok
            { target := lowering.plan.target.name
              space
              identities := final.identities
              kernels := lowering.plan.nest.kernelCount }
            { plan := lowering.plan.prepared numbers
              backend := final.backend
              store := bindings.release final.store }
      | .error error stopped =>
          .error error
            { plan := lowering.plan.prepared numbers
              backend := stopped.backend
              store := bindings.release stopped.store } := by
  have later := (Nest.runs_addAttachments lowering.plan.nest.attachments pass).steps
  rw [lower_of_resolved arguments bindings opens.application opens.resolution]
  unfold steps Nest.addKernels
  rw [Outcome.bind_of_ok opens.building, Nest.attachments_withExtents]
  cases adding : Nest.addAttachments lowering.plan.nest.attachments pass with
  | error error stopped => rw [Outcome.bind_of_error adding]
  | ok done final =>
      rw [adding] at later
      have still : final.space = some space := (Pass.Steps.continues later).space.trans entered
      rw [Outcome.bind_of_ok adding, Outcome.bind_of_ok (Pass.get_apply final), still]
      rfl

/-- If the extents resolve and still the pass does not get into its space, then
building it failed, which registers no kernel. -/
theorem buildSpace_of_unopened (unopened : lowering.opened? arguments bindings = none)
    (application : bindings.apply lowering.store = .ok () applied)
    (resolution :
      lowering.plan.nest.declaredShape.mapM Extent.resolve applied = .ok numbers resolved) :
    ∃ error stopped,
      (lowering.plan.nest.withExtents numbers).buildSpace
          (Pass.start lowering.backend resolved arguments lowering.plan.options) =
        .error error stopped ∧
      stopped.backend.kernels = lowering.backend.kernels := by
  have outside : (Pass.start lowering.backend resolved arguments
    lowering.plan.options).space = none := rfl
  cases building : (lowering.plan.nest.withExtents numbers).buildSpace
      (Pass.start lowering.backend resolved arguments lowering.plan.options) with
  | ok done pass =>
      rw [Opens.opened?_eq ⟨application, resolution, building⟩] at unopened
      cases unopened
  | error error stopped =>
      have unrecorded : (Pass.start lowering.backend resolved arguments
          lowering.plan.options).SpaceRecorded := by
        intro space entered
        cases entered
      have begun := (Nest.buildSpace_of_error unrecorded building).1
      exact ⟨error, stopped, rfl, Pass.Steps.kernels_of_outside begun outside⟩

/-- A pass that does not get into its space fails and registers no kernel. -/
theorem lower_of_unopened (unopened : lowering.opened? arguments bindings = none) :
    ∃ error after, lower arguments bindings lowering = .error error after ∧
      after.backend.kernels = lowering.backend.kernels := by
  have ends := ends_lower arguments bindings lowering
  generalize lower arguments bindings lowering = outcome at ends
  cases ends with
  | unapplied _ => exact ⟨_, _, rfl, rfl⟩
  | unresolved _ _ => exact ⟨_, _, rfl, rfl⟩
  | failed application resolution failed =>
      rcases buildSpace_of_unopened unopened application resolution with
        ⟨error, stopped, building, kernels⟩
      rw [steps, Outcome.bind_of_error building] at failed
      cases failed
      exact ⟨_, _, rfl, kernels⟩
  | done application resolution done =>
      rcases buildSpace_of_unopened unopened application resolution with
        ⟨error, stopped, building, _⟩
      rw [steps, Outcome.bind_of_error building] at done
      cases done

end Recorder

end Lowering

end LoopNest
