import LoopNest.Proofs.Nest.Scopes
import LoopNest.Proofs.Plan.Success

namespace LoopNest

/-!
# The kernels of a pass and its final map

Every kernel that a pass registers is told by the identity map that the pass
hands out in the end.  So a handle means the same to all of them, under however
many names and in however many commands it is captured.
-/

namespace Lowering

variable {σ : Type}

/-- The kernels of a pass see the final identity map, and a token means the
same under all names of all kernels.  Rules only read the slots, and the
captured handles come from one arena. -/
theorem kernels_see_final_identities {arguments : Arguments σ} {bindings : Bindings σ}
    {lowering after : Lowering (Recorder σ) σ} {lowered : LoweredNest}
    (extentsRead : forall extent, extent ∈ lowering.plan.nest.declaredShape -> extent.ReadOnly)
    (capturesRead : forall capture, capture ∈ lowering.plan.nest.captured -> capture.ReadOnly)
    (issued : FromOneArena lowering.plan.nest.captured)
    (done : lower arguments bindings lowering = .ok lowered after) :
    ∃ added, after.backend.kernels = lowering.backend.kernels ++ added ∧
      added.length = lowering.plan.nest.attachments.length ∧
      (forall pair, pair ∈ lowering.plan.nest.attachments.zip added ->
        Sees lowered.identities (arguments.tokens ++ lowering.plan.nest.ownTokens)
          (bindings.applied lowering.store) pair.1 pair.2) ∧
      forall first second,
        first ∈ lowering.plan.nest.attachments.zip added ->
        second ∈ lowering.plan.nest.attachments.zip added ->
          forall name other capture otherCapture token,
            first.1.logic.capture? name = some capture ->
            second.1.logic.capture? other = some otherCapture ->
            capture.identity? = some token -> otherCapture.identity? = some token ->
              first.2.binding? name = second.2.binding? other := by
  rcases (lower_eq_ok_iff _ _ _ _ _).mp done with ⟨run, rfl, rfl⟩
  have stands := run.toEntry.stands extentsRead fun _ member => List.mem_append.mp member
  have sees := run.adding.sees stands issued (fun _ member => member) capturesRead
  refine ⟨run.added, ?_, run.adding.length, sees, ?_⟩
  · have earlier : run.pass.backend.kernels = lowering.backend.kernels := run.seedsAll.kernels
    rw [← earlier]
    exact run.adding.kernels
  · rintro ⟨attachment, entry⟩ ⟨otherAttachment, otherEntry⟩ paired otherPaired name other
      capture otherCapture token found otherFound identity otherIdentity
    rcases (sees _ paired).shown name capture found with ⟨binding, bound, shown⟩
    rcases (sees _ otherPaired).shown other otherCapture otherFound with
      ⟨otherBinding, otherBound, otherShown⟩
    have member := Nest.mem_captured_of_capture? (List.of_mem_zip paired).1 found
    have otherMember := Nest.mem_captured_of_capture? (List.of_mem_zip otherPaired).1 otherFound
    have same := issued.eq_of_identity member otherMember identity otherIdentity
    subst same
    rw [bound, otherBound, shown.unique identity otherShown]

/-- In the small plan both kernels find one array under the name of the scratch
storage, and it is the entry of the final map. -/
theorem kernels_see_scratch :
    ∃ lowered after first second value,
      lower Sample.arguments Sample.bindings (Sample.lowering Sample.busyNest) =
          .ok lowered after ∧
        after.backend.kernels = [first, second] ∧
        lowered.identities[Sample.scratch.id]? = some value ∧
        first.binding? "scratch" = some (.resolved (.value value)) ∧
        second.binding? "scratch" = some (.resolved (.value value)) := by
  rcases Sample.succeeds with ⟨lowered, after, done⟩
  have issued : FromOneArena Sample.busyNest.captured :=
    Sample.fromOneArena.mono fun _ member => List.mem_append_right _ member
  rcases @kernels_see_final_identities _ _ _ (Sample.lowering Sample.busyNest) after lowered
    Sample.extentsRead Sample.readOnly issued done with ⟨added, kernels, counted, sees, agree⟩
  rcases added with _ | ⟨first, _ | ⟨second, _ | ⟨third, rest⟩⟩⟩
  · cases counted
  · cases counted
  · let command : Attachment Unit := ⟨Sample.logic, .plain⟩
    have secondPaired : (command, second) ∈ [(command, first), (command, second)] :=
      List.mem_cons_of_mem _ List.mem_cons_self
    rcases (sees (command, first) List.mem_cons_self).shown "scratch" (.array Sample.scratch) rfl
      with ⟨binding, bound, shown⟩
    have same := agree (command, first) (command, second) List.mem_cons_self secondPaired
      "scratch" "scratch" (.array Sample.scratch) (.array Sample.scratch) Sample.scratch.id
      rfl rfl rfl rfl
    cases shown with
    | mapped identity found =>
        cases identity
        exact ⟨lowered, after, first, second, _, done, kernels, found, bound, same ▸ bound⟩
    | argument missing role => cases role
  · cases counted

end Lowering

end LoopNest
