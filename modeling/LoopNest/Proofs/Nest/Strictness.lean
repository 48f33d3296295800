import LoopNest.Proofs.Nest.Steps
import LoopNest.Proofs.Pass.Strictness

namespace LoopNest

/-!
# Strict replays

The space of a nest is built whatever the options of the pass are.  When commands
are replayed, a strict pass goes like one that is not strict, until that one
drops an element for the first time.
-/

namespace Nest

section Options

variable {β σ : Type} (options : PassOptions)

theorem indifferent_seedIndices (entries : List (LoopIndex × NativeIndex)) :
    Pass.Indifferent (β := β) (σ := σ) options (seedIndices entries) := by
  induction entries with
  | nil => exact .pure ()
  | cons entry rest inductionHypothesis =>
      exact (Pass.Indifferent.record _ _).bind fun _ => inductionHypothesis

variable [Backend σ β]

theorem indifferent_buildSpace (nest : Nest σ) :
    Pass.Indifferent (β := β) options nest.buildSpace := by
  unfold buildSpace
  cases nest.extents with
  | error error => exact .throw error
  | ok numbers =>
      refine (Pass.indifferent_seedArguments options).bind fun _ => ?_
      refine (Pass.Indifferent.onBackend _).bind fun space => ?_
      split
      · exact (indifferent_seedIndices options _).bind fun _ => .enterSpace space
      · exact .throw _

/-- What a pass that is not strict drops when it replays commands in order. -/
def droppedBy : List (Attachment σ) -> Pass β σ -> List Dropped
  | [], _ => []
  | attachment :: rest, pass =>
      Pass.droppedIn attachment.logic.name attachment.logic.captures pass ++
        Outcome.afterwards (fun _ => droppedBy rest)
          (Pass.addLogic attachment.logic attachment.scheduling pass)

end Options

theorem tightens_addAttachments {σ : Type} {pass : Pass (Recorder σ) σ}
    (lenient : pass.options.strictSequences = false) {space : NativeSpace}
    (entered : pass.space = some space) (attachments : List (Attachment σ)) :
    Pass.Tightens (addAttachments attachments pass)
      (addAttachments attachments (pass.withOptions .strict)) (droppedBy attachments pass) := by
  induction attachments generalizing pass with
  | nil => exact .same (.ok rfl rfl)
  | cons attachment rest inductionHypothesis =>
      rw [addAttachments]
      apply (Pass.tightens_addLogic lenient entered attachment.logic attachment.scheduling).bind
      · intro _ middle _
        exact (runs_addAttachments rest middle).logs
      · intro _ middle added
        have steps := (Pass.runs_addLogic attachment.logic attachment.scheduling pass).steps
        rw [added] at steps
        have continues : pass.Continues middle := Pass.Steps.continues steps
        apply inductionHypothesis
        · rw [continues.options, lenient]
        · rw [continues.space, entered]

end Nest

end LoopNest
