import LoopNest.Pass.Resolution
import LoopNest.Pass.Seeding
import LoopNest.Proofs.Outcome

namespace LoopNest

/-!
# Programs that do not look at the options

Almost every part of a pass does the same whatever the options are.  Run with
other options, it gives the same result or fails with the same error, and the
states that it leaves differ in the options alone.  The only exception is the
look-up of the elements of a sequence.
-/

namespace Pass

variable {β σ : Type}

/-- The pass with other options. -/
def withOptions (pass : Pass β σ) (options : PassOptions) : Pass β σ :=
  { pass with options }

/-- The program does not look at the options of the pass. -/
def Indifferent {α : Type} (options : PassOptions) (program : PassM β σ α) : Prop :=
  forall pass, Outcome.Agree Eq (fun after other => other = after.withOptions options)
    (program pass) (program (pass.withOptions options))

namespace Indifferent

variable {α γ : Type} {options : PassOptions}

theorem pure (value : α) : Indifferent (β := β) (σ := σ) options (Pure.pure value) :=
  fun _ => .ok rfl rfl

theorem throw (error : NestError) :
    Indifferent (β := β) (σ := σ) (α := α) options (MonadExcept.throw error) :=
  fun _ => .error error rfl

theorem bind {first : PassM β σ α} {next : α -> PassM β σ γ} (begun : Indifferent options first)
    (continued : forall value, Indifferent options (next value)) :
    Indifferent options (first >>= next) := by
  intro pass
  refine (begun pass).bind fun value other middle otherMiddle _ _ same states => ?_
  subst same states
  exact continued value middle

/-- What is read of the pass does not depend on the options. -/
theorem get_bind {next : Pass β σ -> PassM β σ α}
    (same : forall pass, next (pass.withOptions options) = next pass)
    (continued : forall pass, Indifferent options (next pass)) :
    Indifferent options (get >>= next) := by
  intro pass
  change Outcome.Agree _ _ (next pass pass) (next (pass.withOptions options) _)
  rw [same]
  exact continued pass pass

theorem onBackend (operation : EStateM BackendError β α) :
    Indifferent (σ := σ) options (Pass.onBackend operation) := by
  intro pass
  have backend : (pass.withOptions options).backend = pass.backend := rfl
  unfold Pass.onBackend
  rw [backend]
  cases operation pass.backend with
  | ok value after => exact .ok rfl rfl
  | error error after => exact .error _ rfl

theorem onStore {ε : Type} (failure : ε -> NestError) (rule : EStateM ε (Store σ) α) :
    Indifferent (β := β) options (Pass.onStore failure rule) := by
  intro pass
  have store : (pass.withOptions options).store = pass.store := rfl
  unfold Pass.onStore
  rw [store]
  cases rule pass.store with
  | ok value after => exact .ok rfl rfl
  | error error after => exact .error _ rfl

theorem record (token : Token) (value : NativeValue) :
    Indifferent (β := β) (σ := σ) options (Pass.record token value) :=
  fun _ => .ok rfl rfl

theorem enterSpace (space : NativeSpace) :
    Indifferent (β := β) (σ := σ) options (Pass.enterSpace space) :=
  fun _ => .ok rfl rfl

end Indifferent

variable [Backend σ β] (options : PassOptions)

/-! ## Captured values -/

theorem indifferent_materialize (failure : CaptureFault -> NestError) (handle : ArrayHandle) :
    Indifferent (β := β) options (materialize failure handle.record) := by
  have making (operation : EStateM BackendError β NativeArray) :
      Indifferent (σ := σ) options
        (do
          let array <- onBackend operation
          record handle.id (.array array)
          pure (some (NativeValue.array array))) :=
    (Indifferent.onBackend operation).bind fun _ => (Indifferent.record _ _).bind fun _ => .pure _
  rw [materialize_handle]
  cases handle.source with
  | temporary => exact making _
  | constant data => exact making _
  | input => exact .pure none
  | inputOutput => exact .pure none

/-- A captured value that is no sequence is resolved in one way. -/
theorem indifferent_resolveCapture (failure : CaptureFault -> NestError) {capture : Capture σ}
    (single : capture.elements? = none) :
    Indifferent (β := β) options (resolveCapture failure capture) := by
  apply Indifferent.get_bind
  · intro pass
    rfl
  · intro pass
    cases pass.lookup? capture with
    | some value => exact .pure (some (Replacement.value value))
    | none =>
        cases capture with
        | array handle =>
            exact (indifferent_materialize options failure handle).bind fun _ => .pure _
        | index loop => exact .pure none
        | scalar value => exact .pure none
        | deferred value => exact (Indifferent.onStore _ value.resolve).bind fun _ => .pure _
        | sequence elements => cases single
        | lazy produce => cases single

/-! ## Arguments -/

theorem indifferent_argumentValue (position : Nat) (capture : Capture σ)
    (runtime : RuntimeArgument) :
    Indifferent (β := β) options (argumentValue position capture runtime) := by
  cases capture with
  | array handle =>
      cases runtime with
      | buffer slot => exact (Indifferent.onBackend _).bind fun _ => .pure _
      | scalar value => exact .throw _
  | deferred value =>
      cases runtime with
      | buffer slot => exact .throw _
      | scalar number => exact .pure _
  | index loop =>
      cases runtime with
      | buffer slot => exact .throw _
      | scalar number => exact .pure _
  | scalar value =>
      cases runtime with
      | buffer slot => exact .throw _
      | scalar number => exact .pure _
  | sequence elements => exact .throw _
  | lazy produce => exact .throw _

theorem indifferent_seedFrom (position : Nat) (pairs : List (Capture σ × RuntimeArgument)) :
    Indifferent (β := β) options (seedFrom position pairs) := by
  induction pairs generalizing position with
  | nil => exact .pure ()
  | cons pair rest inductionHypothesis =>
      apply Indifferent.bind
      · refine (indifferent_argumentValue options position pair.1 pair.2).bind fun value => ?_
        cases pair.1.identity? with
        | some token => exact .record token value
        | none => exact .pure ()
      · intro _
        exact inductionHypothesis (position + 1)

theorem indifferent_seedArguments : Indifferent (β := β) (σ := σ) options seedArguments := by
  apply Indifferent.get_bind
  · intro pass
    rfl
  · intro pass
    dsimp only
    split
    · exact indifferent_seedFrom options 0 _
    · exact .throw _

end Pass

end LoopNest
