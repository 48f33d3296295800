import LoopNest.Proofs.Nest.Agreement
import LoopNest.Proofs.Plan.Success

namespace LoopNest

/-!
# Passes can be repeated

A pass writes the extents that it resolved into the nest of its plan, and it
leaves a backend that has logged more than before.  Neither makes a difference
to later passes.  The next pass resolves the declared extents again, and on
any other backend it does the same as a pass over a plan that was never
lowered: the outcomes are equal but for the numbers of spaces and arrays, which
are apart by what the two backends had logged before.
-/

namespace Plan

variable {σ : Type}

/-- Two plans over one declaration.  The current extents may differ, and what
the schedules know. -/
structure SameDeclaration (first second : Plan σ) : Prop where
  id : second.nest.id = first.nest.id
  declaredShape : second.nest.declaredShape = first.nest.declaredShape
  indices : second.nest.ownIndices = first.nest.ownIndices
  attachments : second.nest.attachments = first.nest.attachments
  target : second.target = first.target
  options : second.options = first.options

theorem SameDeclaration.refl (plan : Plan σ) : SameDeclaration plan plan :=
  ⟨rfl, rfl, rfl, rfl, rfl, rfl⟩

theorem SameDeclaration.symm {first second : Plan σ} (same : SameDeclaration first second) :
    SameDeclaration second first :=
  ⟨same.id.symm, same.declaredShape.symm, same.indices.symm, same.attachments.symm,
    same.target.symm, same.options.symm⟩

theorem SameDeclaration.trans {first second third : Plan σ} (same : SameDeclaration first second)
    (again : SameDeclaration second third) : SameDeclaration first third :=
  ⟨again.id.trans same.id, again.declaredShape.trans same.declaredShape,
    again.indices.trans same.indices, again.attachments.trans same.attachments,
    again.target.trans same.target, again.options.trans same.options⟩

/-- Preparing a plan keeps its declaration. -/
theorem sameDeclaration_prepared (plan : Plan σ) {numbers : List Int}
    (complete : numbers.length = plan.nest.rank) :
    SameDeclaration plan (plan.prepared numbers) :=
  ⟨rfl, plan.nest.declaredShape_withExtents complete, plan.nest.ownIndices_withExtents complete,
    rfl, rfl, rfl⟩

/-- Once the extents are written, the steps over nests of one declaration are the
same.  They read the commands and not the list of logic functions. -/
theorem SameDeclaration.steps_eq {β : Type} [Backend σ β] {first second : Plan σ}
    (same : SameDeclaration first second) (numbers : List Int) :
    Lowering.steps (β := β) (second.nest.withExtents numbers) second.target =
      Lowering.steps (first.nest.withExtents numbers) first.target := by
  rw [Nest.withExtents_eq same.id same.declaredShape same.indices same.attachments, same.target]
  rfl

/-- A plan after any number of passes, on any backends and with any outcomes. -/
inductive AfterPasses (origin : Plan σ) : Plan σ -> Prop
  | never : AfterPasses origin origin
  | pass {β : Type} [Backend σ β] {lowering : Lowering β σ}
      (history : AfterPasses origin lowering.plan) (arguments : Arguments σ)
      (bindings : Bindings σ) :
      AfterPasses origin (Outcome.state (Lowering.lower arguments bindings lowering)).plan

end Plan

namespace Lowering

variable {σ : Type}

/-- A pass keeps the declaration of its plan, whatever its outcome is. -/
theorem sameDeclaration_lower {β : Type} [Backend σ β] (arguments : Arguments σ)
    (bindings : Bindings σ) (lowering : Lowering β σ) :
    Plan.SameDeclaration lowering.plan
      (Outcome.state (lower arguments bindings lowering)).plan := by
  have ends := ends_lower arguments bindings lowering
  generalize lower arguments bindings lowering = outcome at ends
  cases ends with
  | unapplied _ => exact .refl lowering.plan
  | unresolved _ _ => exact ⟨rfl, rfl, rfl, rfl, rfl, rfl⟩
  | failed _ resolution _ =>
      exact Plan.sameDeclaration_prepared lowering.plan (Nest.complete_of_mapM_resolve resolution)
  | done _ resolution _ =>
      exact Plan.sameDeclaration_prepared lowering.plan (Nest.complete_of_mapM_resolve resolution)

end Lowering

theorem Plan.AfterPasses.sameDeclaration {σ : Type} {origin plan : Plan σ}
    (history : AfterPasses origin plan) : SameDeclaration origin plan := by
  induction history with
  | never => exact .refl origin
  | pass _ arguments bindings inductionHypothesis =>
      exact inductionHypothesis.trans (Lowering.sameDeclaration_lower arguments bindings _)

/-! ## Stores with the same slots bound -/

section Bound

variable {σ : Type} {left right : Store σ}

theorem Deferred.agree_bind (value : Deferred σ) (number : Int) (same : left.bound = right.bound) :
    Outcome.Agree (fun _ _ => True) (fun left right => left.bound = right.bound)
      (value.bind number left) (value.bind number right) := by
  unfold Deferred.bind
  cases value.source with
  | parameter slot => exact .ok trivial (congrArg (·.insert slot number) same)
  | derived rule => exact .error _ same

theorem Bindings.agree_apply (bindings : Bindings σ) (same : left.bound = right.bound) :
    Outcome.Agree (fun _ _ => True) (fun left right => left.bound = right.bound)
      (bindings.apply left) (bindings.apply right) := by
  unfold Bindings.apply
  cases bindings.firstDerived? with
  | some derived => exact .error _ same
  | none =>
      dsimp only
      induction bindings.entries generalizing left right with
      | nil => exact .ok trivial same
      | cons entry rest inductionHypothesis =>
          unfold List.forM
          exact (entry.1.agree_bind entry.2 same).bind fun _ _ _ _ _ _ _ after =>
            inductionHypothesis after

theorem Bindings.bound_release (bindings : Bindings σ) (same : left.bound = right.bound) :
    (bindings.release left).bound = (bindings.release right).bound := by
  unfold Bindings.release
  induction bindings.entries generalizing left right with
  | nil => exact same
  | cons entry rest inductionHypothesis =>
      rw [List.foldl_cons, List.foldl_cons]
      apply inductionHypothesis
      unfold Deferred.release
      cases entry.1.source with
      | parameter slot => exact congrArg (·.erase slot) same
      | derived rule => exact same

theorem Extent.agree_mapM_resolve {extents : List (Extent σ)}
    (reads : forall extent, extent ∈ extents -> extent.ReadOnly) (same : left.bound = right.bound) :
    Outcome.Agree Eq (fun left right => left.bound = right.bound)
      (extents.mapM Extent.resolve left) (extents.mapM Extent.resolve right) := by
  induction extents generalizing left right with
  | nil => exact .ok rfl same
  | cons extent rest inductionHypothesis =>
      have readsRest : forall other, other ∈ rest -> other.ReadOnly := fun other member =>
        reads other (List.mem_cons_of_mem extent member)
      rw [List.mapM_cons]
      refine ((reads extent List.mem_cons_self).resolve.agree same).bind
        fun number other _ _ _ _ equal after => ?_
      subst equal
      refine (inductionHypothesis readsRest after).bind fun numbers others _ _ _ _ equal last => ?_
      subst equal
      exact .ok rfl last

end Bound

namespace Lowering

variable {σ : Type} {leftBase rightBase : Recorder σ}

/-- The steps over one nest from two passes that are alike. -/
theorem agree_steps (nest : Nest σ) (target : Target)
    (reads : forall capture, capture ∈ nest.captured -> capture.ReadOnly)
    {left right : Pass (Recorder σ) σ} (alike : Pass.Alike leftBase rightBase left right) :
    Outcome.Agree
      (fun first second => second = (Shift.between leftBase rightBase).lowered first)
      (Pass.Alike leftBase rightBase) (steps nest target left) (steps nest target right) := by
  unfold steps
  refine (nest.agrees_buildSpace left right alike).bind
    fun _ _ leftBuilt rightBuilt leftBuilding rightBuilding _ built => ?_
  have leftRecorded := Nest.spaceRecorded_of_ok leftBuilding
  have rightRecorded := Nest.spaceRecorded_of_ok rightBuilding
  unfold Nest.addKernels
  refine (Nest.agree_addAttachments reads built leftRecorded rightRecorded).bind
    fun _ _ leftDone rightDone _ _ _ done => ?_
  rw [Outcome.bind_of_ok (Pass.get_apply leftDone), Outcome.bind_of_ok (Pass.get_apply rightDone),
    done.space]
  cases leftDone.space with
  | none => exact .error _ done
  | some space =>
      refine .ok ?_ done
      rw [done.identities]
      rfl

theorem alike_start {left right : Recorder σ} {leftStore rightStore : Store σ}
    (rejected : forall operation, operation ∈ left.rejected <-> operation ∈ right.rejected)
    (same : leftStore.bound = rightStore.bound) (arguments : Arguments σ)
    (options : PassOptions) :
    Pass.Alike left right (Pass.start left leftStore arguments options)
      (Pass.start right rightStore arguments options) where
  backend := Recorder.alike_bases rejected
  bound := same
  identities := by
    apply Std.ExtTreeMap.ext_getElem?
    intro token
    have empty : (∅ : IdentityMap)[token]? = none := Std.ExtTreeMap.getElem?_empty
    rw [Shift.getElem?_identities, Pass.start, Pass.start, empty]
    rfl
  space := rfl
  arguments := rfl
  options := rfl

section Lower

variable {left right : Lowering (Recorder σ) σ} {arguments : Arguments σ} {bindings : Bindings σ}

/-- Two lowerings over one declaration go alike once the bindings are applied. -/
private theorem agree_lower_of_applied {leftDone rightDone : Unit} {leftStore rightStore : Store σ}
    (declaration : Plan.SameDeclaration left.plan right.plan)
    (rejected : forall operation,
      operation ∈ left.backend.rejected <-> operation ∈ right.backend.rejected)
    (leftApplied : bindings.apply left.store = .ok leftDone leftStore)
    (rightApplied : bindings.apply right.store = .ok rightDone rightStore)
    (same : leftStore.bound = rightStore.bound)
    (extentsRead : forall extent, extent ∈ left.plan.nest.declaredShape -> extent.ReadOnly)
    (capturesRead : forall capture, capture ∈ left.plan.nest.captured -> capture.ReadOnly) :
    Outcome.Agree
      (fun first second => second = (Shift.between left.backend right.backend).lowered first)
      (fun leftAfter rightAfter =>
        Recorder.Alike left.backend right.backend leftAfter.backend rightAfter.backend ∧
          leftAfter.store.bound = rightAfter.store.bound)
      (lower arguments bindings left) (lower arguments bindings right) := by
  have resolving := Extent.agree_mapM_resolve extentsRead same
  generalize leftResolution : left.plan.nest.declaredShape.mapM Extent.resolve leftStore =
    leftOutcome at resolving
  generalize rightResolution : left.plan.nest.declaredShape.mapM Extent.resolve rightStore =
    rightOutcome at resolving
  rw [← declaration.declaredShape] at rightResolution
  cases resolving with
  | error error bound =>
      rw [lower_of_unresolved arguments bindings leftApplied leftResolution,
        lower_of_unresolved arguments bindings rightApplied rightResolution]
      exact .error _ ⟨Recorder.alike_bases rejected, bindings.bound_release bound⟩
  | @ok numbers _ leftResolved rightResolved equal bound =>
      subst equal
      -- From here on both sides run over one nest: writing the extents hides what
      -- earlier passes wrote.
      rw [lower_of_resolved arguments bindings leftApplied leftResolution,
        lower_of_resolved arguments bindings rightApplied rightResolution,
        declaration.steps_eq, declaration.options]
      have outcomes := agree_steps (left.plan.nest.withExtents numbers) left.plan.target
        capturesRead (alike_start rejected bound arguments left.plan.options)
      generalize steps (left.plan.nest.withExtents numbers) left.plan.target
        (Pass.start left.backend leftResolved arguments left.plan.options) =
          leftOutcome at outcomes
      generalize steps (left.plan.nest.withExtents numbers) left.plan.target
        (Pass.start right.backend rightResolved arguments left.plan.options) =
          rightOutcome at outcomes
      cases outcomes with
      | ok result after =>
          exact .ok result ⟨after.backend, bindings.bound_release after.bound⟩
      | error error after =>
          exact .error error ⟨after.backend, bindings.bound_release after.bound⟩

/-- Two lowerings over one declaration, with the same slots bound and the same
operations rejected, go alike. -/
theorem agree_lower (declaration : Plan.SameDeclaration left.plan right.plan)
    (rejected : forall operation,
      operation ∈ left.backend.rejected <-> operation ∈ right.backend.rejected)
    (same : left.store.bound = right.store.bound)
    (extentsRead : forall extent, extent ∈ left.plan.nest.declaredShape -> extent.ReadOnly)
    (capturesRead : forall capture, capture ∈ left.plan.nest.captured -> capture.ReadOnly) :
    Outcome.Agree
      (fun first second => second = (Shift.between left.backend right.backend).lowered first)
      (fun leftAfter rightAfter =>
        Recorder.Alike left.backend right.backend leftAfter.backend rightAfter.backend ∧
          leftAfter.store.bound = rightAfter.store.bound)
      (lower arguments bindings left) (lower arguments bindings right) := by
  have applying := bindings.agree_apply same
  generalize leftApplication : bindings.apply left.store = leftOutcome at applying
  generalize rightApplication : bindings.apply right.store = rightOutcome at applying
  cases applying with
  | error error bound =>
      rw [lower_of_unapplied arguments bindings leftApplication,
        lower_of_unapplied arguments bindings rightApplication]
      exact .error _ ⟨Recorder.alike_bases rejected, bindings.bound_release bound⟩
  | ok _ bound =>
      exact agree_lower_of_applied declaration rejected leftApplication rightApplication bound
        extentsRead capturesRead

end Lower

/-- Let a plan have gone through any passes, and let another one have the
declaration that it began with.  From stores with the same slots bound, on
backends that reject the same operations, the two plans are lowered alike: both
give results, which are equal but for the shift of the numbers, or both fail
with the same error, and what they leave in the logs is equal but for the shift
in either case. -/
theorem lower_repeats {origin plan fresh : Plan σ} (history : Plan.AfterPasses origin plan)
    (declaration : Plan.SameDeclaration origin fresh)
    (extentsRead : forall extent, extent ∈ origin.nest.declaredShape -> extent.ReadOnly)
    (capturesRead : forall capture, capture ∈ origin.nest.captured -> capture.ReadOnly)
    {backend freshBackend : Recorder σ} {store freshStore : Store σ}
    (rejected : forall operation,
      operation ∈ freshBackend.rejected <-> operation ∈ backend.rejected)
    (same : freshStore.bound = store.bound) (arguments : Arguments σ) (bindings : Bindings σ) :
    Outcome.Agree
      (fun lowered again => again = (Shift.between freshBackend backend).lowered lowered)
      (fun after afterAgain =>
        Recorder.Alike freshBackend backend after.backend afterAgain.backend ∧
          after.store.bound = afterAgain.store.bound)
      (lower arguments bindings ⟨fresh, freshBackend, freshStore⟩)
      (lower arguments bindings ⟨plan, backend, store⟩) := by
  have sameAsFresh := declaration.symm.trans history.sameDeclaration
  have shape := declaration.declaredShape
  have commands : fresh.nest.captured = origin.nest.captured :=
    congrArg (·.flatMap Attachment.captured) declaration.attachments
  refine @agree_lower σ ⟨fresh, freshBackend, freshStore⟩ ⟨plan, backend, store⟩ arguments bindings
    sameAsFresh rejected same ?_ ?_
  · intro extent member
    exact extentsRead extent (shape ▸ member)
  · intro capture member
    exact capturesRead capture (commands ▸ member)

/-- After a pass of the small plan failed for want of its rows, a pass on a
backend with one space gives what a first pass gives on an empty one, with the
next number for its space. -/
theorem lower_repeats_after_unbound_rows :
    ∃ plan lowered after again afterAgain,
      Plan.AfterPasses (Sample.lowering Sample.busyNest).plan plan ∧
        lower Sample.arguments Sample.bindings (Sample.lowering Sample.busyNest) =
          .ok lowered after ∧
        lower Sample.arguments Sample.bindings
            ⟨plan, Recorder.empty.withSpace [3], Store.initial ()⟩ = .ok again afterAgain ∧
        again.space.id.raw.toNat = lowered.space.id.raw.toNat + 1 := by
  rcases Sample.succeeds with ⟨lowered, after, done⟩
  have history : Plan.AfterPasses (Sample.lowering Sample.busyNest).plan _ :=
    .pass .never .empty .empty
  have agree := @lower_repeats _ _ _ (Sample.lowering Sample.busyNest).plan history (.refl _)
    Sample.extentsRead Sample.readOnly (Recorder.empty.withSpace [3]) .empty (Store.initial ())
    (Store.initial ()) (fun _ => Iff.rfl) rfl Sample.arguments Sample.bindings
  have first :
      (match lower Sample.arguments Sample.bindings (Sample.lowering Sample.busyNest) with
        | .ok lowered _ => lowered.space.id.raw.toNat
        | .error _ _ => 1) = 0 := by decide +kernel
  rw [done] at first
  generalize outcome : lower Sample.arguments Sample.bindings ⟨_, Recorder.empty.withSpace [3],
    Store.initial ()⟩ = again at agree
  have started : lower Sample.arguments Sample.bindings
      ⟨(Sample.lowering Sample.busyNest).plan, .empty, Store.initial ()⟩ = .ok lowered after :=
    done
  rw [started] at agree
  cases agree with
  | ok same states =>
      refine ⟨_, lowered, after, _, _, history, done, outcome, ?_⟩
      subst same
      have zero : lowered.space.id.raw.toNat = 0 := first
      have shifted : ((Shift.number 1 lowered.space.id.raw).toNat : Int) =
          lowered.space.id.raw.toNat + 1 := by
        apply Shift.toNat_number <;> rw [zero] <;> decide
      exact Int.ofNat.inj shifted

end Lowering

end LoopNest
