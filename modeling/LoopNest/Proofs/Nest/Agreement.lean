import LoopNest.Proofs.Nest.Steps
import LoopNest.Proofs.Pass.Agreement

namespace LoopNest

/-!
# Two passes over one nest

Two passes that are alike build the space of a nest alike and register its
kernels alike.  A kernel is registered in a space that the backend recorded
before, so neither backend refuses it for its number.
-/

namespace Nest

variable {σ : Type} {leftBase rightBase : Recorder σ}

theorem agrees_seedIndices (entries : List (LoopIndex × NativeIndex)) :
    Pass.Agrees leftBase rightBase (fun _ _ => True) (seedIndices (σ := σ) entries)
      (seedIndices (entries.map fun entry =>
        (entry.1, (Shift.between leftBase rightBase).index entry.2))) := by
  induction entries with
  | nil => exact .pure trivial
  | cons entry rest inductionHypothesis =>
      exact (Pass.Agrees.record entry.1.id (.index entry.2)).bind fun _ _ _ => inductionHypothesis

theorem agrees_enterSpace (space : NativeSpace) :
    Pass.Agrees leftBase rightBase (fun _ _ => True) (Pass.enterSpace (σ := σ) space)
      (Pass.enterSpace ((Shift.between leftBase rightBase).space space)) := by
  intro left right alike
  exact .ok trivial { alike with space := rfl }

theorem agrees_buildSpace (nest : Nest σ) :
    Pass.Agrees leftBase rightBase (fun _ _ => True) nest.buildSpace nest.buildSpace := by
  unfold buildSpace
  cases nest.extents with
  | error error => exact .throw _
  | ok numbers =>
      refine Pass.agrees_seedArguments.bind fun _ _ _ => ?_
      refine Pass.Agrees.bind (Pass.Agrees.onBackend fun _ _ alike => alike.createSpace numbers)
        fun space image same => ?_
      subst same
      have rank : ((Shift.between leftBase rightBase).space space).rank = space.rank :=
        List.length_map _
      rw [rank]
      split
      · have entries : (nest.dimensions.map Dimension.index).zip
            ((Shift.between leftBase rightBase).space space).indices =
              ((nest.dimensions.map Dimension.index).zip space.indices).map fun entry =>
                (entry.1, (Shift.between leftBase rightBase).index entry.2) := by
          exact List.zip_map_right
        rw [entries]
        exact (agrees_seedIndices _).bind fun _ _ _ => agrees_enterSpace space
      · exact .throw _

/-- Commands are replayed alike. -/
theorem agree_addAttachments {attachments : List (Attachment σ)}
    (reads : forall capture, capture ∈ attachments.flatMap Attachment.captured ->
      capture.ReadOnly) {left right : Pass (Recorder σ) σ}
    (alike : Pass.Alike leftBase rightBase left right) (leftRecorded : left.SpaceRecorded)
    (rightRecorded : right.SpaceRecorded) :
    Outcome.Agree (fun _ _ => True) (Pass.Alike leftBase rightBase)
      (addAttachments attachments left) (addAttachments attachments right) := by
  induction attachments generalizing left right with
  | nil => exact .ok trivial alike
  | cons attachment rest inductionHypothesis =>
      rw [List.flatMap_cons] at reads
      have readsFirst : forall entry, entry ∈ attachment.logic.captures -> entry.2.ReadOnly := by
        intro entry member
        exact reads entry.2 (List.mem_append_left _ (List.mem_map_of_mem member))
      have readsRest : forall capture, capture ∈ rest.flatMap Attachment.captured ->
          capture.ReadOnly := fun capture member => reads capture (List.mem_append_right _ member)
      refine (alike.addLogic leftRecorded rightRecorded readsFirst attachment.scheduling).bind
        fun _ _ leftMiddle rightMiddle leftAdded rightAdded _ middle => ?_
      have leftSteps := (Pass.runs_addLogic attachment.logic attachment.scheduling left).steps
      have rightSteps := (Pass.runs_addLogic attachment.logic attachment.scheduling right).steps
      rw [leftAdded] at leftSteps
      rw [rightAdded] at rightSteps
      exact inductionHypothesis readsRest middle
        (leftSteps.continues.spaceRecorded leftRecorded)
        (rightSteps.continues.spaceRecorded rightRecorded)

end Nest

end LoopNest
