import LoopNest.Nest.Build
import LoopNest.Proofs.Nest.Extents
import LoopNest.Proofs.Pass.Resolution

namespace LoopNest

/-!
# The kernels of a pass

In its space a pass resolves the attached logic functions one after another and
registers one kernel for each of them.  So the log of kernels grows by as many
kernels as there are commands, in their order, and the identity map is
completed by the arrays that the commands capture.
-/

/-- What is recorded for a command under a substitution. -/
def Attachment.entry {σ : Type} (attachment : Attachment σ) (space : NativeSpace)
    (substitution : Substitution) : RecordedKernel σ :=
  { space := space.id
    kernel := Kernel.ofLogic attachment.logic substitution
    predicate := attachment.scheduling.predicate
    placement := attachment.scheduling.placement }

namespace Nest

variable {σ : Type}

/-- Resolving a logic function and registering its kernel. -/
inductive Adds (pass : Pass (Recorder σ) σ) (attachment : Attachment σ) :
    RecordedKernel σ -> Pass (Recorder σ) σ -> Prop
  | intro {space : NativeSpace} {substitution : Substitution} {middle : Pass (Recorder σ) σ}
      (entered : pass.space = some space)
      (resolves :
        Pass.ResolvesAll pass attachment.logic.captures substitution.entries middle)
      (accepted : BackendOperation.addKernel ∉ middle.backend.rejected)
      (recorded : ∃ known, known ∈ middle.backend.spaces ∧ known.id = space.id) :
      Adds pass attachment (attachment.entry space substitution)
        { middle with
          backend := middle.backend.withKernel (attachment.entry space substitution) }

theorem addLogic_eq_ok_iff (attachment : Attachment σ) (pass after : Pass (Recorder σ) σ)
    (done : Unit) :
    Pass.addLogic attachment.logic attachment.scheduling pass = .ok done after <->
      ∃ entry, Adds pass attachment entry after := by
  unfold Pass.addLogic Pass.resolve
  rw [Outcome.bind_of_ok (Pass.get_apply pass)]
  constructor
  · intro added
    cases entered : pass.space with
    | none =>
        rw [entered] at added
        cases added
    | some space =>
        simp only [entered, bind_assoc, pure_bind] at added
        rcases (Outcome.bind_eq_ok_iff _ _ _ _ _).mp added with
          ⟨entries, middle, resolved, registered⟩
        have resolves : pass.ResolvesAll _ (Substitution.mk entries).entries middle :=
          (Pass.resolveAll_eq_ok_iff _ _ _ _ _).mp resolved
        rcases (Pass.onBackend_eq_ok_iff _ _ _ _).mp registered with ⟨backend, kernel, rfl⟩
        rcases (Recorder.addKernel_eq_ok_iff _ _ _ _ _ _ _).mp kernel with
          ⟨accepted, recorded, rfl⟩
        exact ⟨_, .intro entered resolves accepted recorded⟩
  · rintro ⟨entry, adds⟩
    cases adds with
    | @intro space substitution middle entered resolves accepted recorded =>
        have resolved := (Pass.resolveAll_eq_ok_iff attachment.logic.name _ _ _ _).mpr resolves
        have registered := (Recorder.addKernel_eq_ok_iff space
          (Kernel.ofLogic attachment.logic substitution) attachment.scheduling.predicate
          attachment.scheduling.placement middle.backend _ done).mpr ⟨accepted, recorded, rfl⟩
        simp only [entered, bind_assoc, pure_bind]
        rw [Outcome.bind_of_ok resolved]
        exact (Pass.onBackend_eq_ok_iff _ _ _ _).mpr ⟨_, registered, rfl⟩

theorem Adds.continues {pass after : Pass (Recorder σ) σ} {attachment : Attachment σ}
    {entry : RecordedKernel σ} (adds : Adds pass attachment entry after) :
    pass.Continues after := by
  cases adds with
  | intro entered resolves accepted recorded =>
      have continues := resolves.continues
      exact ⟨continues.space, continues.options, continues.spaces, continues.rejected⟩

theorem Adds.kernels {pass after : Pass (Recorder σ) σ} {attachment : Attachment σ}
    {entry : RecordedKernel σ} (adds : Adds pass attachment entry after) :
    after.backend.kernels = pass.backend.kernels ++ [entry] := by
  cases adds with
  | intro entered resolves accepted recorded =>
      exact congrArg (· ++ [_]) resolves.kernels

theorem Adds.completes {pass after : Pass (Recorder σ) σ} {attachment : Attachment σ}
    {entry : RecordedKernel σ} (adds : Adds pass attachment entry after) :
    Completes (Capture.madeIn attachment.captured) pass.identities after.identities := by
  cases adds with
  | intro entered resolves accepted recorded => exact resolves.completes

/-- The kernels of commands are registered in order. -/
inductive AddsAll : Pass (Recorder σ) σ -> List (Attachment σ) -> List (RecordedKernel σ) ->
    Pass (Recorder σ) σ -> Prop
  | nil {pass : Pass (Recorder σ) σ} : AddsAll pass [] [] pass
  | cons {pass middle after : Pass (Recorder σ) σ} {attachment : Attachment σ}
      {entry : RecordedKernel σ} {rest : List (Attachment σ)} {others : List (RecordedKernel σ)}
      (first : Adds pass attachment entry middle) (later : AddsAll middle rest others after) :
      AddsAll pass (attachment :: rest) (entry :: others) after

theorem addAttachments_eq_ok_iff (attachments : List (Attachment σ))
    (pass after : Pass (Recorder σ) σ) (done : Unit) :
    addAttachments attachments pass = .ok done after <->
      ∃ added, AddsAll pass attachments added after := by
  induction attachments generalizing pass with
  | nil =>
      constructor
      · intro ended
        cases ended
        exact ⟨[], .nil⟩
      · rintro ⟨added, adds⟩
        cases adds
        rfl
  | cons attachment rest inductionHypothesis =>
      rw [addAttachments]
      simp only [Outcome.bind_eq_ok_iff, addLogic_eq_ok_iff, inductionHypothesis]
      constructor
      · rintro ⟨_, middle, ⟨entry, first⟩, others, later⟩
        exact ⟨entry :: others, .cons first later⟩
      · rintro ⟨added, adds⟩
        cases adds with
        | cons first later => exact ⟨(), _, ⟨_, first⟩, _, later⟩

theorem AddsAll.continues {pass after : Pass (Recorder σ) σ} {attachments : List (Attachment σ)}
    {added : List (RecordedKernel σ)} (adds : AddsAll pass attachments added after) :
    pass.Continues after := by
  induction adds with
  | nil => exact .refl _
  | cons first later inductionHypothesis => exact first.continues.trans inductionHypothesis

theorem AddsAll.kernels {pass after : Pass (Recorder σ) σ} {attachments : List (Attachment σ)}
    {added : List (RecordedKernel σ)} (adds : AddsAll pass attachments added after) :
    after.backend.kernels = pass.backend.kernels ++ added := by
  induction adds with
  | nil => exact (List.append_nil _).symm
  | cons first later inductionHypothesis =>
      rw [inductionHypothesis, first.kernels, List.append_assoc, List.singleton_append]

theorem AddsAll.completes {pass after : Pass (Recorder σ) σ} {attachments : List (Attachment σ)}
    {added : List (RecordedKernel σ)} (adds : AddsAll pass attachments added after) :
    Completes (Capture.madeIn (attachments.flatMap Attachment.captured)) pass.identities
      after.identities := by
  induction adds with
  | nil => exact .refl _
  | cons first later inductionHypothesis =>
      rw [List.flatMap_cons, Capture.madeIn_append]
      exact first.completes.append inductionHypothesis

end Nest

end LoopNest
