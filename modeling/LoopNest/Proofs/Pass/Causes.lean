import LoopNest.Proofs.Outcome
import LoopNest.Proofs.Pass.Composition

namespace LoopNest

/-!
# What the parts of a pass fail by

There are four things that a pass over commands can fail by: an argument that
does not fit, a deferred integer that gives no number, a captured sequence, and
the backend.  A captured value is at fault itself only if it is a sequence: an
index or a scalar does not fail at all, and an array fails by the backend that
does not make it.  A constant without data would be at fault too.  There can be a
record of such an array, but no handle.
-/

/-- A cause that ends a pass over these commands. -/
inductive NestError.EndsPass {σ : Type} (attachments : List (Attachment σ)) : NestError -> Prop
  | argument (position : Nat) (fault : ArgumentFault) :
      EndsPass attachments (.argumentMismatch position fault)
  | deferred (error : DeferredError) : EndsPass attachments (.unresolvableDeferred error)
  | sequence {attachment : Attachment σ} {name : String} {capture : Capture σ}
      (attached : attachment ∈ attachments)
      (captured : (name, capture) ∈ attachment.logic.captures)
      (elements : capture.elements?.isSome = true) (fault : CaptureFault)
      (ofSequence : fault.OfSequence) :
      EndsPass attachments (.captureResolution attachment.logic.name name fault)
  | backend (error : BackendError) : EndsPass attachments (.backend error)

namespace Pass

variable {β σ : Type}

/-- If the program fails from this state, then by one of these causes. -/
def FailsBy {α : Type} (causes : NestError -> Prop) (program : PassM β σ α) (pass : Pass β σ) :
    Prop :=
  forall (error : NestError) (after : Pass β σ), program pass = .error error after -> causes error

namespace FailsBy

variable {α γ : Type} {causes : NestError -> Prop} {pass : Pass β σ}

theorem pure (value : α) : FailsBy causes (Pure.pure value : PassM β σ α) pass :=
  nofun

theorem throw {error : NestError} (cause : causes error) :
    FailsBy causes (MonadExcept.throw error : PassM β σ α) pass := by
  intro _ _ failed
  cases failed
  exact cause

theorem bind {first : PassM β σ α} {next : α -> PassM β σ γ} (begun : FailsBy causes first pass)
    (continued : forall value middle, first pass = .ok value middle ->
      FailsBy causes (next value) middle) : FailsBy causes (first >>= next) pass := by
  intro error after failed
  rcases (Outcome.bind_eq_error_iff _ _ _ _ _).mp failed with here | ⟨value, middle, done, later⟩
  · exact begun error after here
  · exact continued value middle done error after later

/-- Reading the pass does not fail. -/
theorem get_bind {next : Pass β σ -> PassM β σ α} (continued : FailsBy causes (next pass) pass) :
    FailsBy causes (get >>= next) pass :=
  continued

theorem onBackend (cause : forall fault, causes (.backend fault))
    (operation : EStateM BackendError β α) : FailsBy causes (Pass.onBackend operation) pass := by
  intro error after failed
  unfold Pass.onBackend at failed
  cases outcome : operation pass.backend with
  | ok value backend =>
      rw [outcome] at failed
      cases failed
  | error fault backend =>
      rw [outcome] at failed
      cases failed
      exact cause fault

theorem onStore {ε : Type} {failure : ε -> NestError} (cause : forall fault, causes (failure fault))
    (rule : EStateM ε (Store σ) α) : FailsBy causes (Pass.onStore failure rule) pass := by
  intro error after failed
  unfold Pass.onStore at failed
  cases outcome : rule pass.store with
  | ok value store =>
      rw [outcome] at failed
      cases failed
  | error fault store =>
      rw [outcome] at failed
      cases failed
      exact cause fault

end FailsBy

/-- A composed program fails by the causes of its operations. -/
theorem Composed.failsBy {α : Type} {causes : NestError -> Prop} {admitted : Store.RuleProperty σ}
    {program : PassM β σ α} (composed : Composed causes admitted program) (pass : Pass β σ) :
    FailsBy causes program pass := by
  induction composed generalizing pass with
  | pure value => exact .pure value
  | throw cause => exact .throw cause
  | bind _ _ first next => exact (first pass).bind fun value middle _ => next value middle
  | get => exact nofun
  | onBackend cause operation => exact .onBackend cause operation
  | onStore cause _ => exact .onStore cause _
  | record token value => exact nofun
  | enterSpace space => exact nofun

variable [Backend σ β] {attachments : List (Attachment σ)}

theorem materialize_of_missingData (failure : CaptureFault -> NestError) {array : ArrayRecord}
    (constant : array.role = .constant) (bare : array.data? = none) :
    (materialize failure array : PassM β σ (Option NativeValue)) =
      MonadExcept.throw (failure .missingData) := by
  unfold materialize
  rw [constant, bare]
  rfl

/-- A pass says that data are missing when it makes the array of a constant that
has none, and never otherwise. -/
theorem materialize_missingData_iff (logic name : String) (array : ArrayRecord)
    (pass after : Pass β σ) :
    materialize (.captureResolution logic name) array pass =
        .error (.captureResolution logic name .missingData) after <->
      array.role = .constant ∧ array.data? = none ∧ after = pass := by
  constructor
  · intro failed
    have causes : Composed (β := β) (σ := σ)
        (fun error => (∃ fault, error = .backend fault) ∨
          array.role = .constant ∧ array.data? = none)
        (fun _ _ _ => True) (materialize (.captureResolution logic name) array) :=
      composed_materialize (fun fault => .inl ⟨fault, rfl⟩) fun constant bare =>
        .inr ⟨constant, bare⟩
    rcases causes.failsBy pass _ _ failed with ⟨fault, impossible⟩ | ⟨constant, bare⟩
    · cases impossible
    · rw [materialize_of_missingData _ constant bare] at failed
      cases failed
      exact ⟨constant, bare, rfl⟩
  · rintro ⟨constant, bare, rfl⟩
    rw [materialize_of_missingData _ constant bare]
    rfl

theorem failsBy_seedArguments (pass : Pass β σ) :
    FailsBy (NestError.EndsPass attachments) seedArguments pass := by
  have seeding : Composed (β := β) (σ := σ) (NestError.EndsPass attachments) (fun _ _ _ => True)
      seedArguments := composed_seedArguments .argument .backend
  exact seeding.failsBy pass

/-- In its space a pass does not miss it. -/
theorem failsBy_addLogic {attachment : Attachment σ} (attached : attachment ∈ attachments)
    {space : NativeSpace} {pass : Pass β σ} (entered : pass.space = some space) :
    FailsBy (NestError.EndsPass attachments)
      (addLogic attachment.logic attachment.scheduling) pass := by
  have resolving : Composed (β := β) (NestError.EndsPass attachments) (fun _ _ _ => True)
      (resolve attachment.logic) := by
    refine composed_resolve .backend .deferred ?_ ?_
    · rintro ⟨name, capture⟩ captured elements fault ofSequence
      exact .sequence attached captured elements fault ofSequence
    · rintro ⟨name, capture⟩ _
      cases capture <;> trivial
  apply FailsBy.get_bind
  rw [entered]
  exact (resolving.failsBy pass).bind fun substitution middle _ => .onBackend .backend _

end Pass

end LoopNest
