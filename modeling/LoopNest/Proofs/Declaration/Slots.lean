import LoopNest.Proofs.Declaration.Answers

namespace LoopNest

/-!
# Rules that bind nothing

A rule of the client may change the state of the client, and it may fail.  If
what it leaves bound is what was bound before, in either case, then a whole
sequence of such rules leaves the slots alone.
-/

namespace Outcome

variable {ε τ α β γ : Type} {observe : τ -> γ}

/-- Whether the step gives a result or fails, what is observed of the state is
the same afterwards. -/
def Keeps (observe : τ -> γ) (step : EStateM ε τ α) : Prop :=
  forall before, observe (state (step before)) = observe before

namespace Keeps

theorem of_ok {step : EStateM ε τ α} (keeps : Keeps observe step) {before after : τ} {value : α}
    (done : step before = .ok value after) : observe after = observe before := by
  have kept := keeps before
  rw [done] at kept
  exact kept

theorem of_error {step : EStateM ε τ α} (keeps : Keeps observe step) {before after : τ}
    {error : ε} (failed : step before = .error error after) : observe after = observe before := by
  have kept := keeps before
  rw [failed] at kept
  exact kept

theorem pure (value : α) : Keeps observe (Pure.pure value : EStateM ε τ α) :=
  fun _ => rfl

theorem throw (error : ε) : Keeps observe (MonadExcept.throw error : EStateM ε τ α) :=
  fun _ => rfl

theorem get : Keeps observe (MonadState.get : EStateM ε τ τ) :=
  fun _ => rfl

theorem bind {first : EStateM ε τ α} {next : α -> EStateM ε τ β} (begun : Keeps observe first)
    (continued : forall value, Keeps observe (next value)) : Keeps observe (first >>= next) := by
  intro before
  cases outcome : first before with
  | ok value middle =>
      rw [bind_of_ok outcome]
      exact (continued value middle).trans (begun.of_ok outcome)
  | error error middle =>
      rw [bind_of_error outcome]
      exact begun.of_error outcome

end Keeps

end Outcome

/-- Stores with the same slots bound read alike. -/
theorem Store.read?_of_bound {σ : Type} {left right : Store σ} (same : left.bound = right.bound) :
    left.read? = right.read? :=
  funext fun slot => congrArg (·[slot]?) same

/-- The rule binds and releases nothing. -/
abbrev Store.KeepsSlots {ε σ α : Type} (rule : EStateM ε (Store σ) α) : Prop :=
  Outcome.Keeps Store.bound rule

theorem Store.ReadOnly.keepsSlots {ε σ α : Type} {rule : EStateM ε (Store σ) α}
    (reads : ReadOnly rule) : KeepsSlots rule := by
  rcases reads with ⟨read, rule_eq⟩
  intro store
  rw [rule_eq store]
  cases read store.bound <;> rfl

namespace Deferred

variable {σ : Type}

/-- A parameter, or derived by a rule that binds nothing. -/
def KeepsSlots (value : Deferred σ) : Prop :=
  match value.source with
  | .parameter _ => True
  | .derived rule => Store.KeepsSlots rule

theorem KeepsSlots.resolve {value : Deferred σ} (keeps : value.KeepsSlots) :
    Store.KeepsSlots value.resolve := by
  intro store
  unfold KeepsSlots at keeps
  unfold Deferred.resolve
  cases source : value.source with
  | parameter slot =>
      dsimp only
      cases store.read? slot <;> rfl
  | derived rule =>
      rw [source] at keeps
      have kept := keeps store
      dsimp only
      cases outcome : rule store with
      | ok number after =>
          rw [outcome] at kept
          exact kept
      | error reason after =>
          rw [outcome] at kept
          exact kept

theorem ReadOnly.keepsSlots {value : Deferred σ} (reads : value.ReadOnly) : value.KeepsSlots := by
  unfold ReadOnly at reads
  unfold KeepsSlots
  cases source : value.source with
  | parameter slot => trivial
  | derived rule =>
      rw [source] at reads
      exact Store.ReadOnly.keepsSlots reads

end Deferred

namespace Extent

variable {σ : Type}

/-- The extent is a number, or deferred and resolving it binds nothing. -/
def KeepsSlots : Extent σ -> Prop
  | .fixed _ => True
  | .deferred value => value.KeepsSlots

theorem KeepsSlots.resolve {extent : Extent σ} (keeps : extent.KeepsSlots) :
    Store.KeepsSlots extent.resolve := by
  cases extent with
  | fixed value => exact Outcome.Keeps.pure value
  | deferred value => exact Deferred.KeepsSlots.resolve keeps

theorem keepsSlots_mapM_resolve {extents : List (Extent σ)}
    (keeps : forall extent, extent ∈ extents -> extent.KeepsSlots) :
    Store.KeepsSlots (extents.mapM resolve) := by
  induction extents with
  | nil =>
      rw [List.mapM_nil]
      exact .pure []
  | cons extent rest inductionHypothesis =>
      rw [List.forall_mem_cons] at keeps
      rw [List.mapM_cons]
      refine keeps.1.resolve.bind fun number => ?_
      exact (inductionHypothesis keeps.2).bind fun numbers => .pure (number :: numbers)

end Extent

namespace Capture

variable {σ : Type}

/-- Resolving the value binds nothing. -/
def KeepsSlots : Capture σ -> Prop
  | .deferred value => value.KeepsSlots
  | .lazy produce => Store.KeepsSlots produce
  | .index _ => True
  | .array _ => True
  | .scalar _ => True
  | .sequence _ => True

end Capture

end LoopNest
