import LoopNest.Proofs.Nest.Registration
import LoopNest.Proofs.Plan.Opening

namespace LoopNest

/-!
# The kernels that a pass adds

The number of kernels that a pass tells in its result is the number of commands
of the nest, and the backend is not asked.  Still it is right: a pass that gives
a result added one kernel for each command, in order, in its own space.  A pass
that fails added the kernels of the commands before the failing one, or none if
it did not get as far as the commands.  What was logged before stays in front.
-/

namespace Lowering

variable {σ : Type}

section Opens

variable {arguments : Arguments σ} {bindings : Bindings σ} {lowering : Lowering (Recorder σ) σ}
  {applied resolved : Store σ} {numbers : List Int} {pass : Pass (Recorder σ) σ}
  {space : NativeSpace}

/-- The replay of all commands adds one kernel for each. -/
theorem Opens.kernels_of_ok
    (opens : Opens arguments bindings lowering applied resolved numbers pass)
    (entered : pass.space = some space) {final : Pass (Recorder σ) σ}
    (replayed : Nest.addAttachments lowering.plan.nest.attachments pass = .ok () final) :
    ∃ added, final.backend.kernels = lowering.backend.kernels ++ added ∧
      List.Forall₂ (Attachment.RegisteredIn space) lowering.plan.nest.attachments added := by
  rcases (Nest.addAttachments_eq_ok_iff _ _ _ _).mp replayed with ⟨added, adds⟩
  exact ⟨added, opens.kernels ▸ adds.kernels, adds.registered entered⟩

/-- A replay that fails at a command adds one kernel for each command before. -/
theorem Opens.kernels_of_error
    (opens : Opens arguments bindings lowering applied resolved numbers pass)
    (entered : pass.space = some space) {stopped : Pass (Recorder σ) σ} {error : NestError}
    (failed : Nest.addAttachments lowering.plan.nest.attachments pass = .error error stopped) :
    ∃ before failing later middle added,
      lowering.plan.nest.attachments = before ++ failing :: later ∧
      Nest.addAttachments before pass = .ok () middle ∧
      Pass.addLogic failing.logic failing.scheduling middle = .error error stopped ∧
      stopped.backend.kernels = lowering.backend.kernels ++ added ∧
      List.Forall₂ (Attachment.RegisteredIn space) before added := by
  rcases (Nest.addAttachments_eq_error_iff _ _).mp failed with
    ⟨before, failing, later, added, middle, split, adds, here⟩
  have replayed := (Nest.addAttachments_eq_ok_iff before pass middle ()).mpr ⟨added, adds⟩
  have kernels : stopped.backend.kernels = lowering.backend.kernels ++ added := by
    rw [Pass.kernels_of_addLogic_error here, adds.kernels, opens.kernels]
  exact ⟨before, failing, later, middle, added, split, replayed, here, kernels,
    adds.registered entered⟩

end Opens

/-- A pass adds one kernel for each command if it gives a result, and otherwise
one for each command before the one that fails, if it got to any. -/
theorem registers_commands (arguments : Arguments σ) (bindings : Bindings σ)
    (lowering : Lowering (Recorder σ) σ) :
    (forall lowered after, lower arguments bindings lowering = .ok lowered after ->
      ∃ added, after.backend.kernels = lowering.backend.kernels ++ added ∧
        added.length = lowering.plan.nest.kernelCount ∧ lowered.kernels = added.length ∧
        List.Forall₂ (Attachment.RegisteredIn lowered.space) lowering.plan.nest.attachments
          added) ∧
    forall error after, lower arguments bindings lowering = .error error after ->
      (lowering.opened? arguments bindings = none ∧
          after.backend.kernels = lowering.backend.kernels) ∨
        ∃ pass space stopped,
          lowering.opened? arguments bindings = some pass ∧ pass.space = some space ∧
          ∃ before failing later middle added,
            lowering.plan.nest.attachments = before ++ failing :: later ∧
            Nest.addAttachments before pass = .ok () middle ∧
            Pass.addLogic failing.logic failing.scheduling middle = .error error stopped ∧
            after.backend.kernels = lowering.backend.kernels ++ added ∧
            List.Forall₂ (Attachment.RegisteredIn space) before added := by
  cases opening : lowering.opened? arguments bindings with
  | none =>
      rcases lower_of_unopened opening with ⟨fault, stopped, failed, unchanged⟩
      rw [failed]
      constructor
      · intro lowered after impossible
        cases impossible
      · intro error after same
        cases same
        exact .inl ⟨rfl, unchanged⟩
  | some pass =>
      rcases (opened?_eq_some_iff pass).mp opening with ⟨applied, resolved, numbers, opens⟩
      rcases opens.entered with ⟨space, entered⟩
      rw [opens.lower_eq entered]
      cases replay : Nest.addAttachments lowering.plan.nest.attachments pass with
      | ok done final =>
          rcases opens.kernels_of_ok entered replay with ⟨added, kernels, registered⟩
          have counted : lowering.plan.nest.kernelCount = added.length := registered.length_eq
          constructor
          · intro lowered after same
            cases same
            exact ⟨added, kernels, counted.symm, counted, registered⟩
          · intro error after impossible
            cases impossible
      | error fault stopped =>
          constructor
          · intro lowered after impossible
            cases impossible
          · intro error after same
            cases same
            exact .inr ⟨pass, space, stopped, rfl, entered, opens.kernels_of_error entered replay⟩

end Lowering

/-! ## A command that fails -/

namespace Sample

/-- A logic function that needs a number of columns. -/
def needy : LogicFunction Unit where
  name := "needy"
  captures := [("columns", .deferred ⟨⟨5⟩, "columns", .parameter 1⟩)]
  body := fun _ store => store
  names_distinct := by decide

/-- The small plan with this logic between the two commands. -/
def stoppingNest : Nest Unit :=
  ((nest.attach logic .plain).attach needy .plain).attach logic .plain

end Sample

namespace Lowering

/-- In the small plan two kernels are added.  If a command in between needs a
number that is not bound, only the first of them is. -/
theorem registers_before_failing :
    (∃ lowered after, lower Sample.arguments Sample.bindings (Sample.lowering Sample.busyNest) =
        .ok lowered after ∧ after.backend.kernels.length = 2 ∧ lowered.kernels = 2) ∧
      ∃ error after entry,
        lower Sample.arguments Sample.bindings (Sample.lowering Sample.stoppingNest) =
            .error error after ∧
          after.backend.kernels = [entry] ∧ entry.kernel.name = "kernel" := by
  constructor
  · rcases Sample.succeeds with ⟨lowered, after, done⟩
    rcases (registers_commands _ _ _).1 lowered after done with
      ⟨added, kernels, counted, told, _⟩
    exact ⟨lowered, after, done, kernels ▸ counted, told.trans counted⟩
  · have stops : ¬ Outcome.Succeeds (lower Sample.arguments Sample.bindings)
        (Sample.lowering Sample.stoppingNest) := by decide +kernel
    have one : (Outcome.state (lower Sample.arguments Sample.bindings
        (Sample.lowering Sample.stoppingNest))).backend.kernels.length = 1 := by decide +kernel
    have opens : ((Sample.lowering Sample.stoppingNest).opened? Sample.arguments
        Sample.bindings).isSome = true := by decide +kernel
    cases outcome : lower Sample.arguments Sample.bindings
        (Sample.lowering Sample.stoppingNest) with
    | ok lowered after => exact absurd ⟨lowered, after, outcome⟩ stops
    | error error after =>
        rw [outcome] at one
        rcases (registers_commands _ _ _).2 error after outcome with
          ⟨unopened, _⟩ | ⟨_, _, _, _, _, before, failing, later, _, added, split, _, _, kernels,
            registered⟩
        · rw [unopened] at opens
          cases opens
        · have only : added.length = 1 := (congrArg List.length kernels).symm.trans one
          cases registered with
          | nil => cases only
          | @cons first entry before others told rest =>
              cases List.length_eq_zero_iff.mp (Nat.succ.inj only)
              have named : first = ⟨Sample.logic, .plain⟩ := (List.cons.inj split).1.symm
              exact ⟨error, after, entry, rfl, kernels, told.name.trans (named ▸ rfl)⟩

end Lowering

end LoopNest
