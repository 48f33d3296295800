import LoopNest.Proofs.Native.Calls
import LoopNest.Proofs.Nest.Registration
import LoopNest.Proofs.Pass.Contexts
import LoopNest.Proofs.Pass.PassingThrough
import LoopNest.Proofs.Plan.Course

namespace LoopNest

/-!
# Registered kernels are frozen

After a kernel is registered the client goes on: parameters are bound and
released, rules are run, plans are lowered, and kernels are invoked.  None of
this reaches the kernel.  The log only grows, so the kernel keeps its position,
and what its body finds in its scope does not depend on the store.
-/

/-- What registered kernels live in: the backend that logs them, and the store
that their bodies run on. -/
structure World (σ : Type) where
  backend : Recorder σ
  store : Store σ

/-- What the client may do with a world. -/
inductive Operation (σ : Type) where
  | bind (parameter : Deferred σ) (number : Int)
  | release (parameter : Deferred σ)
  | apply (bindings : Bindings σ)
  | releaseAll (bindings : Bindings σ)
  /-- Resolve a deferred integer, which runs its rule if it is derived. -/
  | resolve (value : Deferred σ)
  /-- Ask for the elements of a sequence. -/
  | produce (rule : EStateM String (Store σ) (List (Capture σ)))
  /-- Lower a plan. -/
  | lower (plan : Plan σ) (arguments : Arguments σ) (bindings : Bindings σ)
  /-- Use a part of a pass in a context. -/
  | perform (context : Pass (Recorder σ) σ) (call : Pass.Call σ)
  /-- Use the backend by itself. -/
  | call (call : Recorder.Call σ)
  /-- Run the kernel at a position of the log, if there is one. -/
  | invoke (position : Nat)
  | invokeAll
  /-- Let code of the client change the store, also in the middle of a body. -/
  | change (run : Store σ -> Store σ)

namespace World

variable {σ : Type}

/-- The world as a pass has it at the moment. -/
def ofPass (pass : Pass (Recorder σ) σ) : World σ :=
  ⟨pass.backend, pass.store⟩

/-- The world after an operation, whether it gave a result or failed. -/
def after (world : World σ) : Operation σ -> World σ
  | .bind parameter number =>
      { world with store := Outcome.state (parameter.bind number world.store) }
  | .release parameter => { world with store := parameter.release world.store }
  | .apply bindings => { world with store := Outcome.state (bindings.apply world.store) }
  | .releaseAll bindings => { world with store := bindings.release world.store }
  | .resolve value => { world with store := Outcome.state (value.resolve world.store) }
  | .produce rule => { world with store := Outcome.state (rule world.store) }
  | .lower plan arguments bindings =>
      let lowering :=
        Outcome.state (Lowering.lower arguments bindings ⟨plan, world.backend, world.store⟩)
      ⟨lowering.backend, lowering.store⟩
  | .perform context call =>
      ofPass (Outcome.state
        (Pass.perform call { context with backend := world.backend, store := world.store }))
  | .call call => { world with backend := world.backend.afterCall call }
  | .invoke position =>
      match world.backend.kernels[position]? with
      | some entry => { world with store := entry.kernel.invoke world.store }
      | none => world
  | .invokeAll => { world with store := world.backend.invokeAll world.store }
  | .change run => { world with store := run world.store }

/-- The world after operations in order. -/
def afterAll (world : World σ) (operations : List (Operation σ)) : World σ :=
  operations.foldl after world

end World

namespace Pass

variable {σ : Type}

/-- A part of a pass only makes changes to the backend. -/
theorem changes_perform (call : Call σ) (pass : Pass (Recorder σ) σ) :
    Recorder.Changes pass.backend (Outcome.state (perform call pass)).backend := by
  cases call with
  | build nest => exact Nest.changes_buildSpace nest pass
  | replay nest => exact (Nest.runs_addAttachments nest.attachments pass).steps.changes
  | resolve logic => exact (runs_perform_resolve logic pass).steps.changes

end Pass

namespace World

variable {σ : Type}

/-- Whatever is done, the logs of the backend only grow. -/
theorem grows_after (world : World σ) (operation : Operation σ) :
    Recorder.Grows world.backend (world.after operation).backend := by
  cases operation with
  | bind parameter number => exact .refl _
  | release parameter => exact .refl _
  | apply bindings => exact .refl _
  | releaseAll bindings => exact .refl _
  | resolve value => exact .refl _
  | produce rule => exact .refl _
  | lower plan arguments bindings =>
      exact (Lowering.changes_lower arguments bindings ⟨plan, world.backend, world.store⟩).grows
  | perform context call =>
      exact (Pass.changes_perform call
        { context with backend := world.backend, store := world.store }).grows
  | call call => exact (Recorder.changes_afterCall world.backend call).grows
  | invoke position =>
      rw [after]
      split
      · exact .refl _
      · exact .refl _
  | invokeAll => exact .refl _
  | change run => exact .refl _

theorem grows_afterAll (world : World σ) (operations : List (Operation σ)) :
    Recorder.Grows world.backend (world.afterAll operations).backend := by
  induction operations generalizing world with
  | nil => exact .refl _
  | cons operation rest inductionHypothesis =>
      exact (grows_after world operation).trans (inductionHypothesis (world.after operation))

end World

namespace Nest

variable {σ : Type}

/-- A kernel that a replay added, however the replay ended, was registered when
one of the commands was replayed.  From then on, whatever is done, it stays in
the log and its body finds the same under every name.  What the body finds as it
was captured is an index, a scalar or an array argument. -/
theorem registered_kernel_is_frozen (nest : Nest σ) {pass : Pass (Recorder σ) σ} {position : Nat}
    {entry : RecordedKernel σ} (later : pass.backend.kernels.length <= position)
    (registered :
      (Outcome.state (nest.addKernels pass)).backend.kernels[position]? = some entry) :
    ∃ before attachment rest earlier middle scope,
      nest.attachments = before ++ attachment :: rest ∧
        addAttachments before pass = .ok () earlier ∧
        Pass.addLogic attachment.logic attachment.scheduling earlier = .ok () middle ∧
        earlier.backend.kernels.length = position ∧
        middle.backend.kernels = earlier.backend.kernels ++ [entry] ∧
        entry.kernel.scope? = some scope ∧
        (forall store, entry.kernel.invoke store = attachment.logic.body scope store) ∧
        (forall name capture, scope.get? name = some (.captured capture) ->
          capture.PassesThrough) ∧
        forall operations,
          ((World.ofPass middle).afterAll operations).backend.kernels[position]? = some entry ∧
            forall name,
              scope.find ((World.ofPass middle).afterAll operations).store name =
                scope.find middle.store name := by
  rcases exists_adding later registered with
    ⟨before, attachment, rest, earlier, middle, split, replayed, adds, rfl⟩
  rcases adds.exists_scope with ⟨scope, seen, through, runs⟩
  refine ⟨before, attachment, rest, earlier, middle, scope, split, replayed,
    (addLogic_eq_ok_iff attachment earlier middle ()).mpr ⟨entry, adds⟩, rfl, adds.kernels, seen,
    runs, through, fun operations => ⟨?_, fun name => through.find_eq _ _ name⟩⟩
  have logged : middle.backend.kernels[earlier.backend.kernels.length]? = some entry := by
    rw [adds.kernels]
    exact List.getElem?_concat_length
  exact (World.grows_afterAll (World.ofPass middle) operations).getElem?_kernels logged

end Nest

namespace Sample

/-- The small pass in its space, with four rows bound. -/
def entered : Pass (Recorder Unit) Unit :=
  Outcome.state ((busyNest.withExtents [4]).buildSpace
    (Pass.start Recorder.empty ((Store.initial ()).write 0 4) arguments .lenient))

end Sample

namespace Nest

/-- In the small plan the body of the first kernel finds four rows, also after
nine rows are bound. -/
theorem rows_are_frozen :
    ∃ (entry : RecordedKernel Unit) (scope : Scope Unit) (world : World Unit),
      (Outcome.state (Sample.busyNest.addKernels Sample.entered)).backend.kernels[0]? =
          some entry ∧
        entry.kernel.scope? = some scope ∧
        (scope.find world.store "rows").int? = some 4 ∧
        (world.after (.bind Sample.rows 9)).store.read? 0 = some 9 ∧
        (scope.find (world.after (.bind Sample.rows 9)).store "rows").int? = some 4 := by
  have four :
      ((Outcome.state (Sample.busyNest.addKernels Sample.entered)).backend.kernels[0]?.bind
        fun entry => entry.kernel.scope?.bind fun scope => scope.int? "rows") = some 4 := by
    decide +kernel
  have none : Sample.entered.backend.kernels.length <= 0 := by decide +kernel
  rcases Option.bind_eq_some_iff.mp four with ⟨entry, registered, found⟩
  rcases registered_kernel_is_frozen Sample.busyNest none registered with
    ⟨_, _, _, _, middle, scope, _, _, _, _, _, seen, _, _, frozen⟩
  rw [seen, Option.bind_some] at found
  have still := (frozen [.bind Sample.rows 9]).2 "rows"
  refine ⟨entry, scope, World.ofPass middle, registered, seen, found, ?_, ?_⟩
  · exact (Store.read?_write middle.store 0 0 9).trans (if_pos rfl)
  · exact (congrArg Finding.int? still).trans found

end Nest

end LoopNest
