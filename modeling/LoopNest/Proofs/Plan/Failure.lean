import LoopNest.Proofs.Plan.Stages

namespace LoopNest

/-!
# The declaration after a failed pass

A failed pass leaves the attached logic, the loop indices and the declared
extents of its nest alone.  It does not always leave the current extents alone:
they are written as soon as all of them are resolved, and a failure in a later
stage does not take them back.  So the shape stays what it was exactly when the
pass failed before that, or when the numbers were the current extents already.
-/

namespace Lowering

variable {β σ : Type}

/-- The extents that a pass with these bindings resolves, if it gets that far. -/
def ResolvesTo (lowering : Lowering β σ) (bindings : Bindings σ) (numbers : List Int) : Prop :=
  ∃ applied resolved,
    bindings.apply lowering.store = .ok () applied ∧
      lowering.plan.nest.declaredShape.mapM Extent.resolve applied = .ok numbers resolved

theorem ResolvesTo.unique {lowering : Lowering β σ} {bindings : Bindings σ}
    {numbers others : List Int} (first : lowering.ResolvesTo bindings numbers)
    (second : lowering.ResolvesTo bindings others) : numbers = others := by
  rcases first with ⟨applied, resolved, application, resolution⟩
  rcases second with ⟨_, _, again, resolvedAgain⟩
  rw [application] at again
  cases again
  rw [resolution] at resolvedAgain
  cases resolvedAgain
  rfl

theorem ResolvesTo.complete {lowering : Lowering β σ} {bindings : Bindings σ}
    {numbers : List Int} (resolves : lowering.ResolvesTo bindings numbers) :
    numbers.length = lowering.plan.nest.rank := by
  rcases resolves with ⟨_, _, _, resolution⟩
  exact Nest.complete_of_mapM_resolve resolution

variable [Backend σ β]

/-- A failed pass either left the nest alone or wrote the extents that it had
resolved. -/
theorem nest_of_error {arguments : Arguments σ} {bindings : Bindings σ}
    {lowering after : Lowering β σ} {error : NestError}
    (failed : lower arguments bindings lowering = .error error after) :
    (after.plan.nest = lowering.plan.nest ∧
        forall numbers, ¬ lowering.ResolvesTo bindings numbers) ∨
      ∃ numbers, lowering.ResolvesTo bindings numbers ∧
        after.plan.nest = lowering.plan.nest.withExtents numbers := by
  have ends := ends_lower arguments bindings lowering
  rw [failed] at ends
  cases ends with
  | unapplied unapplied =>
      refine .inl ⟨rfl, ?_⟩
      rintro numbers ⟨applied, resolved, impossible, _⟩
      rw [unapplied] at impossible
      cases impossible
  | unresolved application unresolved =>
      refine .inl ⟨rfl, ?_⟩
      rintro numbers ⟨applied, resolved, same, impossible⟩
      rw [application] at same
      cases same
      rw [unresolved] at impossible
      cases impossible
  | @failed applied resolved numbers _ _ application resolution _ =>
      exact .inr ⟨numbers, ⟨applied, resolved, application, resolution⟩, rfl⟩

/-- After a failed pass the commands, the logic functions, the indices and the
declared extents are what they were.  The shape is what it was exactly when
the extents of the pass did not resolve or were the current ones already. -/
theorem declaration_after_error {arguments : Arguments σ} {bindings : Bindings σ}
    {lowering after : Lowering β σ} {error : NestError}
    (failed : lower arguments bindings lowering = .error error after) :
    after.plan.nest.attachments = lowering.plan.nest.attachments ∧
      after.plan.nest.logicFunctions = lowering.plan.nest.logicFunctions ∧
      after.plan.nest.indices = lowering.plan.nest.indices ∧
      after.plan.nest.declaredShape = lowering.plan.nest.declaredShape ∧
      (after.plan.nest.shape = lowering.plan.nest.shape <->
        forall numbers, lowering.ResolvesTo bindings numbers ->
          lowering.plan.nest.shape = Dims.ofList (numbers.map .fixed)) := by
  rcases nest_of_error failed with ⟨unchanged, unresolved⟩ | ⟨numbers, resolves, written⟩
  · rw [unchanged]
    refine ⟨rfl, rfl, rfl, rfl, fun _ numbers resolves => ?_, fun _ => rfl⟩
    exact absurd resolves (unresolved numbers)
  · have complete := resolves.complete
    have indices := lowering.plan.nest.ownIndices_withExtents complete
    have declared := lowering.plan.nest.declaredShape_withExtents complete
    have current : (lowering.plan.nest.withExtents numbers).shape =
        Dims.ofList (numbers.map .fixed) :=
      congrArg Dims.ofList (lowering.plan.nest.currentExtents_withExtents complete)
    rw [written]
    refine ⟨rfl, rfl, congrArg Dims.ofList indices, declared, ?_⟩
    rw [current]
    constructor
    · intro same others again
      rw [← resolves.unique again]
      exact same.symm
    · intro already
      exact (already numbers resolves).symm

/-- Without a number of rows the pass fails and the extent stays deferred. -/
theorem shape_after_unbound_rows :
    ∃ error after,
      lower .empty .empty (Sample.lowering Sample.nest) = .error error after ∧
        after.plan.nest.shape = Sample.nest.shape := by
  refine ⟨_, _, rfl, ?_⟩
  have failed : lower .empty .empty (Sample.lowering Sample.nest) = .error _ _ := rfl
  have unchanged := declaration_after_error failed
  refine unchanged.2.2.2.2.mpr ?_
  rintro numbers ⟨applied, resolved, application, resolution⟩
  cases application
  cases resolution

/-- With four rows and an argument without a value the pass fails too, and the
deferred extent has become the number. -/
theorem shape_after_missing_value :
    ∃ error after,
      lower ⟨[.deferred Sample.rows], []⟩ Sample.bindings (Sample.lowering Sample.nest) =
          .error error after ∧
        after.plan.nest.shape ≠ Sample.nest.shape := by
  refine ⟨_, _, rfl, ?_⟩
  intro same
  cases same

end Lowering

end LoopNest
