import LoopNest.Proofs.Pass.Steps

namespace LoopNest

/-!
# Where resolving fails

Captured values are resolved in order until one of them fails.  Those before it
were resolved as ever, and what they did stays.  The failing one itself leaves
no trace but in the store, where a rule may have changed something: it makes no
array and records no entry.

A logic function is registered once all its captured values are resolved, so if
one of them fails, or if the backend refuses the kernel, there is no kernel.
There is none either as long as the pass is in no space.
-/

namespace Pass

variable {σ : Type} {pass after : Pass (Recorder σ) σ} {error : NestError}

theorem resolveElements_of_error {failure : CaptureFault -> NestError}
    {elements : List (Capture σ)}
    (failed : resolveElements failure elements pass = .error error after) : after = pass := by
  rw [resolveElements_apply] at failed
  cases entries : pass.mappedFrom 0 elements with
  | ok values =>
      rw [entries] at failed
      cases failed
  | error fault =>
      rw [entries] at failed
      cases failed
      rfl

/-- A captured value that fails changes nothing but the store. -/
theorem resolveCapture_of_error {failure : CaptureFault -> NestError} {capture : Capture σ}
    (failed : resolveCapture failure capture pass = .error error after) :
    ∃ store, after = { pass with store } := by
  cases entry : pass.lookup? capture with
  | some value =>
      rw [resolveCapture_of_mapped failure entry] at failed
      cases failed
  | none =>
      rw [resolveCapture_of_unmapped failure entry] at failed
      cases capture with
      | index loop => cases failed
      | scalar value => cases failed
      | array handle =>
          rcases (Outcome.bind_eq_error_iff _ _ _ _ _).mp failed with unmade | ⟨_, _, _, last⟩
          · exact ⟨pass.store, (materialize_of_error unmade).1⟩
          · cases last
      | deferred value =>
          rcases (Outcome.bind_eq_error_iff _ _ _ _ _).mp failed with unresolved | ⟨_, _, _, last⟩
          · rcases (onStore_eq_error_iff _ _ _ _ _).mp unresolved with ⟨_, store, _, _, rfl⟩
            exact ⟨store, rfl⟩
          · cases last
      | sequence elements =>
          rcases (Outcome.bind_eq_error_iff _ _ _ _ _).mp failed with unlisted | ⟨_, _, _, last⟩
          · exact ⟨pass.store, resolveElements_of_error unlisted⟩
          · cases last
      | lazy produce =>
          rcases (Outcome.bind_eq_error_iff _ _ _ _ _).mp failed with
            unproduced | ⟨elements, middle, produced, rest⟩
          · rcases (onStore_eq_error_iff _ _ _ _ _).mp unproduced with ⟨_, store, _, _, rfl⟩
            exact ⟨store, rfl⟩
          · rcases (onStore_eq_ok_iff _ _ _ _ _).mp produced with ⟨store, _, rfl⟩
            rcases (Outcome.bind_eq_error_iff _ _ _ _ _).mp rest with unlisted | ⟨_, _, _, last⟩
            · exact ⟨store, resolveElements_of_error unlisted⟩
            · cases last

/-- Resolving captured values fails at one of them, after those before it are
resolved. -/
theorem resolveAll_eq_error_iff (logic : String) (entries : List (String × Capture σ)) :
    resolveAll logic entries pass = .error error after <->
      ∃ before name capture later replacements middle,
        entries = before ++ (name, capture) :: later ∧
          ResolvesAll pass before replacements middle ∧
          resolveCapture (.captureResolution logic name) capture middle = .error error after := by
  induction entries generalizing pass with
  | nil =>
      constructor
      · intro impossible
        cases impossible
      · rintro ⟨before, name, capture, later, _, _, split, _⟩
        cases before <;> cases split
  | cons entry rest inductionHypothesis =>
      rcases entry with ⟨first, value⟩
      rw [resolveAll]
      constructor
      · intro failed
        rcases (Outcome.bind_eq_error_iff _ _ _ _ _).mp failed with
          here | ⟨replacement?, next, resolved, others⟩
        · exact ⟨[], first, value, rest, [], pass, rfl, .nil, here⟩
        · rcases (Outcome.bind_eq_error_iff _ _ _ _ _).mp others with
            further | ⟨_, _, _, last⟩
          · rcases inductionHypothesis.mp further with
              ⟨before, name, capture, later, replacements, middle, rfl, resolves, here⟩
            have begun := (resolveCapture_eq_ok_iff _ _ _ _ _).mp resolved
            exact ⟨(first, value) :: before, name, capture, later, _, middle, rfl,
              .cons begun resolves, here⟩
          · cases replacement? <;> cases last
      · rintro ⟨before, name, capture, later, replacements, middle, split, resolves, here⟩
        cases before with
        | nil =>
            cases split
            cases resolves
            exact Outcome.bind_of_error here _
        | cons head before =>
            cases split
            cases resolves with
            | @cons _ next _ _ _ replacement? _ _ begun others =>
                have resolved := (resolveCapture_eq_ok_iff (.captureResolution logic first) value
                  pass next replacement?).mpr begun
                have further := inductionHypothesis.mpr
                  ⟨before, name, capture, later, _, middle, rfl, others, here⟩
                rw [Outcome.bind_of_ok resolved]
                exact Outcome.bind_of_error further _

/-- A logic function that is not registered was resolved up to some captured
value.  After that nothing changed but the store. -/
theorem exists_resolved_of_addLogic_error {logic : LogicFunction σ} {scheduling : Scheduling}
    (failed : addLogic logic scheduling pass = .error error after) :
    ∃ before replacements middle store, before <+: logic.captures ∧
      ResolvesAll pass before replacements middle ∧ after = { middle with store } := by
  unfold addLogic resolve at failed
  rw [Outcome.bind_of_ok (get_apply pass)] at failed
  cases entered : pass.space with
  | none =>
      rw [entered] at failed
      cases failed
      exact ⟨[], [], pass, pass.store, List.nil_prefix, .nil, rfl⟩
  | some space =>
      simp only [entered, bind_assoc, pure_bind] at failed
      rcases (Outcome.bind_eq_error_iff _ _ _ _ _).mp failed with
        unresolved | ⟨entries, middle, resolved, refused⟩
      · rcases (resolveAll_eq_error_iff _ _).mp unresolved with
          ⟨before, name, capture, later, replacements, middle, split, resolves, here⟩
        rcases resolveCapture_of_error here with ⟨store, rfl⟩
        exact ⟨before, replacements, middle, store, split ▸ List.prefix_append _ _, resolves, rfl⟩
      · rcases (onBackend_eq_error_iff _ _ _ _).mp refused with ⟨fault, backend, cause, _, rfl⟩
        have resolves := (resolveAll_eq_ok_iff _ _ _ _ _).mp resolved
        refine ⟨logic.captures, entries, middle, middle.store, List.prefix_refl _, resolves, ?_⟩
        rw [(Recorder.addKernel_of_error cause).1]

/-- A logic function that cannot be resolved or registered leaves no kernel. -/
theorem kernels_of_addLogic_error {logic : LogicFunction σ} {scheduling : Scheduling}
    (failed : addLogic logic scheduling pass = .error error after) :
    after.backend.kernels = pass.backend.kernels := by
  rcases exists_resolved_of_addLogic_error failed with ⟨_, _, middle, store, _, resolves, rfl⟩
  exact resolves.kernels

/-- Outside of a space there is nothing to register a kernel in. -/
theorem Steps.kernels_of_outside (steps : Steps pass after) (outside : pass.space = none) :
    after.backend.kernels = pass.backend.kernels := by
  induction steps with
  | refl => rfl
  | @tail middle _ begun step inductionHypothesis =>
      refine Eq.trans ?_ inductionHypothesis
      cases step with
      | array handle origin => rfl
      | scalar token value => rfl
      | store store => rfl
      | kernel entry entered inside held =>
          rw [(Steps.continues begun).space, outside] at entered
          cases entered

end Pass

end LoopNest
