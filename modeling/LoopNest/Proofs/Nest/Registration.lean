import Mathlib.Data.List.Forall2
import LoopNest.Proofs.Nest.Kernels
import LoopNest.Proofs.Nest.Steps
import LoopNest.Proofs.Pass.Failure

namespace LoopNest

/-!
# Which kernels are registered

Each command registers one kernel in the space of the pass, under the name of
its logic function and with the predicate and the placement that it was attached
with.  Commands are replayed until one of them fails.  So whatever the outcome
is, the kernels that were added are those of the commands that were replayed, in
the order in which these were attached.
-/

/-- The kernel was registered for the command in this space. -/
structure Attachment.RegisteredIn {σ : Type} (space : NativeSpace) (attachment : Attachment σ)
    (entry : RecordedKernel σ) : Prop where
  space : entry.space = space.id
  name : entry.kernel.name = attachment.logic.name
  predicate : entry.predicate = attachment.scheduling.predicate
  placement : entry.placement = attachment.scheduling.placement
  body : ∃ substitution, entry.kernel.body = .bound attachment.logic substitution

namespace Nest

variable {σ : Type} {pass after : Pass (Recorder σ) σ} {space : NativeSpace}

theorem Adds.registered {attachment : Attachment σ} {entry : RecordedKernel σ}
    (adds : Adds pass attachment entry after) (entered : pass.space = some space) :
    attachment.RegisteredIn space entry := by
  cases adds with
  | intro inside resolves accepted recorded =>
      rw [entered, Option.some.injEq] at inside
      subst inside
      exact ⟨rfl, rfl, rfl, rfl, _, rfl⟩

/-- Commands and kernels correspond one by one. -/
theorem AddsAll.registered {attachments : List (Attachment σ)} {added : List (RecordedKernel σ)}
    (adds : AddsAll pass attachments added after) (entered : pass.space = some space) :
    List.Forall₂ (Attachment.RegisteredIn space) attachments added := by
  induction adds with
  | nil => exact .nil
  | cons first later inductionHypothesis =>
      have still := first.continues.space.trans entered
      exact .cons (first.registered entered) (inductionHypothesis still)

/-- Replaying commands fails at one of them, after those before it are
replayed. -/
theorem addAttachments_eq_error_iff (attachments : List (Attachment σ)) (error : NestError) :
    addAttachments attachments pass = .error error after <->
      ∃ before failing later added middle,
        attachments = before ++ failing :: later ∧ AddsAll pass before added middle ∧
          Pass.addLogic failing.logic failing.scheduling middle = .error error after := by
  induction attachments generalizing pass with
  | nil =>
      constructor
      · intro impossible
        cases impossible
      · rintro ⟨before, failing, later, _, _, split, _⟩
        cases before <;> cases split
  | cons attachment rest inductionHypothesis =>
      rw [addAttachments, Outcome.bind_eq_error_iff]
      simp only [inductionHypothesis, addLogic_eq_ok_iff]
      constructor
      · rintro (here | ⟨_, next, ⟨entry, first⟩, before, failing, later, added, middle, rfl, adds,
          here⟩)
        · exact ⟨[], attachment, rest, [], pass, rfl, .nil, here⟩
        · exact ⟨attachment :: before, failing, later, entry :: added, middle, rfl,
            .cons first adds, here⟩
      · rintro ⟨before, failing, later, added, middle, split, adds, here⟩
        cases before with
        | nil =>
            cases split
            cases adds
            exact .inl here
        | cons head before =>
            cases split
            cases adds with
            | cons first others =>
                exact .inr ⟨(), _, ⟨_, first⟩, before, failing, later, _, middle, rfl, others,
                  here⟩

/-- A kernel that is logged since the replay began was registered for one of the
commands, after those before it were replayed. -/
theorem exists_adding {attachments : List (Attachment σ)} {position : Nat}
    {entry : RecordedKernel σ} (later : pass.backend.kernels.length <= position)
    (registered :
      (Outcome.state (addAttachments attachments pass)).backend.kernels[position]? = some entry) :
    ∃ before attachment rest earlier middle,
      attachments = before ++ attachment :: rest ∧
        addAttachments before pass = .ok () earlier ∧
        Adds earlier attachment entry middle ∧ earlier.backend.kernels.length = position := by
  induction attachments generalizing pass with
  | nil => exact absurd (List.getElem?_eq_some_iff.mp registered).1 (Nat.not_lt_of_le later)
  | cons attachment rest inductionHypothesis =>
      rw [addAttachments] at registered
      cases outcome : Pass.addLogic attachment.logic attachment.scheduling pass with
      | error error stopped =>
          rw [Outcome.bind_of_error outcome] at registered
          have kernels := Pass.kernels_of_addLogic_error outcome
          have within := (List.getElem?_eq_some_iff.mp registered).1
          rw [Outcome.state, kernels] at within
          exact absurd within (Nat.not_lt_of_le later)
      | ok done middle =>
          rw [Outcome.bind_of_ok outcome] at registered
          rcases (addLogic_eq_ok_iff attachment pass middle done).mp outcome with ⟨first, adds⟩
          rcases Nat.lt_or_eq_of_le later with after | rfl
          · have longer : middle.backend.kernels.length <= position := by
              rw [adds.kernels, List.length_append]
              exact after
            rcases inductionHypothesis longer registered with
              ⟨before, found, others, earlier, last, split, replayed, added, place⟩
            refine ⟨attachment :: before, found, others, earlier, last, ?_, ?_, added, place⟩
            · rw [split]
              rfl
            · rw [addAttachments, Outcome.bind_of_ok outcome]
              exact replayed
          · -- What is logged here first stays here.
            have grows := (runs_addAttachments rest middle).steps.changes.grows
            have logged : middle.backend.kernels[pass.backend.kernels.length]? = some first := by
              rw [adds.kernels]
              exact List.getElem?_concat_length
            rw [grows.getElem?_kernels logged] at registered
            cases registered
            exact ⟨[], attachment, rest, pass, middle, rfl, rfl, adds, rfl⟩

end Nest

end LoopNest
