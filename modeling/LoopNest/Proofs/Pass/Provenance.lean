import LoopNest.Proofs.Nest.Steps

namespace LoopNest

/-!
# Where native values come from

Take any moment before a pass begins, and look at what its backend had logged
by then.  All arrays and native indices that the pass ever holds are handed out
after that moment: an entry of the identity map is recorded together with the
array or the space that it comes from, and kernels only get entries and
scalars.  This is kept by every step and by entering a new space, so it holds
wherever a pass stops.
-/

namespace Nest

theorem getElem?_withIndices_eq_some {entries : List (LoopIndex × NativeIndex)}
    {identities : IdentityMap} {token : Token} {value : NativeValue}
    (found : (withIndices entries identities)[token]? = some value) :
    identities[token]? = some value ∨
      ∃ entry, entry ∈ entries ∧ entry.1.id = token ∧ value = .index entry.2 := by
  induction entries generalizing identities with
  | nil => exact .inl found
  | cons entry rest inductionHypothesis =>
      rcases inductionHypothesis found with before | ⟨later, member, carries, same⟩
      · rw [Std.ExtTreeMap.getElem?_insert] at before
        split at before
        · next equal =>
            cases before
            exact .inr ⟨entry, List.mem_cons_self, Std.LawfulEqOrd.eq_of_compare equal, rfl⟩
        · exact .inl before
      · exact .inr ⟨later, List.mem_cons_of_mem entry member, carries, same⟩

end Nest

namespace Pass

variable {σ : Type}

/-- All that the pass has was handed out after its backend was as `base`. -/
structure Grounded (base : Recorder σ) (pass : Pass (Recorder σ) σ) : Prop where
  grows : Recorder.Grows base pass.backend
  entries : forall {token : Token} {native : NativeValue},
    pass.identities[token]? = some native -> Recorder.HandedOut base pass.backend native
  kernels : forall {position : Nat} {entry : RecordedKernel σ} {native : NativeValue},
    base.kernels.length <= position -> pass.backend.kernels[position]? = some entry ->
      native ∈ entry.natives -> Recorder.HandedOut base pass.backend native

/-- A pass begins with nothing. -/
theorem grounded_start (backend : Recorder σ) (store : Store σ) (arguments : Arguments σ)
    (options : PassOptions) : Grounded backend (start backend store arguments options) where
  grows := .refl backend
  entries := by
    intro token native found
    have empty : (∅ : IdentityMap)[token]? = none := Std.ExtTreeMap.getElem?_empty
    rw [start, empty] at found
    cases found
  kernels := by
    intro position entry native later logged
    have within := (List.getElem?_eq_some_iff.mp logged).1
    exact absurd within (Nat.not_lt.mpr later)

section Grounded

variable {base : Recorder σ} {pass after : Pass (Recorder σ) σ}

theorem Grounded.holds (grounded : Grounded base pass) {native : NativeValue}
    (holds : pass.Holds native) : Recorder.HandedOut base pass.backend native := by
  cases holds with
  | entry found => exact grounded.entries found
  | scalar value => exact .scalar value

theorem Step.grounded (step : Step pass after) (grounded : Grounded base pass) :
    Grounded base after := by
  have grows := step.changes.grows
  cases step with
  | array handle origin =>
      refine ⟨grounded.grows.trans grows, ?_, ?_⟩
      · intro token native found
        rw [withArray, Std.ExtTreeMap.getElem?_insert] at found
        split at found
        · cases found
          exact Recorder.handedOut_nextArray grounded.grows _ _ _
        · exact (grounded.entries found).mono grows
      · intro position entry native later logged member
        exact (grounded.kernels later logged member).mono grows
  | scalar token value =>
      refine ⟨grounded.grows, ?_, grounded.kernels⟩
      intro other native found
      rw [Std.ExtTreeMap.getElem?_insert] at found
      split at found
      · cases found
        exact .scalar value
      · exact grounded.entries found
  | store store => exact ⟨grounded.grows, grounded.entries, grounded.kernels⟩
  | kernel entry entered inside held =>
      refine ⟨grounded.grows.trans grows, ?_, ?_⟩
      · intro token native found
        exact (grounded.entries found).mono grows
      · intro position other native later logged member
        rcases Recorder.getElem?_concat logged with earlier | ⟨rfl, rfl⟩
        · exact (grounded.kernels later earlier member).mono grows
        · exact (grounded.holds (held native member)).mono grows

theorem Steps.grounded (steps : Steps pass after) (grounded : Grounded base pass) :
    Grounded base after := by
  induction steps with
  | refl => exact grounded
  | tail _ step inductionHypothesis => exact step.grounded inductionHypothesis

/-- The indices that are recorded in a new space are those of the space. -/
theorem Grounded.inSpace (grounded : Grounded base pass) (indices : List LoopIndex)
    (numbers : List Int) : Grounded base (pass.inSpace indices numbers) := by
  have grows : Recorder.Grows pass.backend (pass.inSpace indices numbers).backend :=
    (Recorder.Change.space numbers).grows
  refine ⟨grounded.grows.trans grows, ?_, ?_⟩
  · intro token native found
    rcases Nest.getElem?_withIndices_eq_some found with earlier | ⟨entry, member, _, rfl⟩
    · exact (grounded.entries earlier).mono grows
    · exact Recorder.handedOut_nextSpace grounded.grows numbers (List.of_mem_zip member).2
  · intro position entry native later logged member
    exact (grounded.kernels later logged member).mono grows

end Grounded

end Pass

end LoopNest
