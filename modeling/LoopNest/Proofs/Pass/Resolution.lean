import LoopNest.Pass.Resolution
import LoopNest.Proofs.Pass.Basic
import LoopNest.Proofs.Pass.Completion

namespace LoopNest

/-!
# What resolving a captured value does

Resolving one captured value on a recorder either finds its entry, or does what
its kind asks for; each way is a case of one relation.  Resolving the captured
values of a logic function is a chain of such cases, and what one case keeps
the chain keeps: the entries that there are, the logged kernels, and all that a
pass leaves alone in `Pass.Continues`.
-/

/-- The data of a constant fill its layout.  Other arrays have no data. -/
def ArrayHandle.DataFit (handle : ArrayHandle) : Prop :=
  forall data, handle.source = .constant data ->
    ∃ count, handle.layout.elementCount? = some count ∧ data.length = count.toNat

/-- The backend operation that makes arrays of this origin. -/
def ArrayOrigin.operation : ArrayOrigin -> BackendOperation
  | .allocated => .allocate
  | .constant => .resolveConstant
  | .argument => .wrapArgument

namespace Pass

variable {β σ : Type}

/-- The array of the handle can be made with this origin. -/
structure Makes (pass : Pass (Recorder σ) σ) (handle : ArrayHandle) (origin : ArrayOrigin) :
    Prop where
  source : handle.source.origin? = some origin
  accepted : origin.operation ∉ pass.backend.rejected
  fits : handle.DataFit

/-- What resolving a captured value does, with the replacement that it gives if
it gives one. -/
inductive Resolves (pass : Pass (Recorder σ) σ) :
    Capture σ -> Option Replacement -> Pass (Recorder σ) σ -> Prop
  /-- The value has an entry. -/
  | mapped {capture : Capture σ} {value : NativeValue} (found : pass.lookup? capture = some value) :
      Resolves pass capture (some (.value value)) pass
  /-- An array is made and recorded. -/
  | made {handle : ArrayHandle} {origin : ArrayOrigin}
      (missing : pass.identities[handle.id]? = none) (makes : pass.Makes handle origin) :
      Resolves pass (.array handle)
        (some (.value (.array (pass.backend.nextArray handle.elementType origin))))
        (pass.withArray handle origin)
  /-- An array argument, an index or a scalar goes through. -/
  | argument {handle : ArrayHandle} (missing : pass.identities[handle.id]? = none)
      (source : handle.source.origin? = none) : Resolves pass (.array handle) none pass
  | index {loop : LoopIndex} (missing : pass.identities[loop.id]? = none) :
      Resolves pass (.index loop) none pass
  | scalar {value : TaggedScalar} (missing : pass.identities[value.id]? = none) :
      Resolves pass (.scalar value) none pass
  /-- A deferred integer gives its number. -/
  | deferred {value : Deferred σ} {number : Int} {store : Store σ}
      (missing : pass.identities[value.id]? = none)
      (resolved : value.resolve pass.store = .ok number store) :
      Resolves pass (.deferred value) (some (.value (.scalar (.int number)))) { pass with store }
  /-- A sequence gives the entries of its elements. -/
  | sequence {elements : List (Capture σ)} {values : List NativeValue}
      (entries : pass.mappedFrom 0 elements = .ok values) :
      Resolves pass (.sequence elements) (some (.sequence values)) pass
  /-- A sequence is produced first. -/
  | lazy {produce : EStateM String (Store σ) (List (Capture σ))} {elements : List (Capture σ)}
      {store : Store σ} {values : List NativeValue}
      (produced : produce pass.store = .ok elements store)
      (entries : ({ pass with store } : Pass (Recorder σ) σ).mappedFrom 0 elements = .ok values) :
      Resolves pass (.lazy produce) (some (.sequence values)) { pass with store }

/-- Making an array by an operation of the backend and recording it. -/
theorem makeArray_eq_ok_iff {operation : EStateM BackendError β NativeArray}
    (token : Token) (pass after : Pass β σ) (value? : Option NativeValue) :
    (do
      let array <- onBackend operation
      record token (.array array)
      pure (some (.array array)) : PassM β σ (Option NativeValue)) pass =
        .ok value? after <->
      ∃ array backend, operation pass.backend = .ok array backend ∧
        value? = some (.array array) ∧
        after = { pass with
          identities := pass.identities.insert token (.array array)
          backend } := by
  simp only [Outcome.bind_eq_ok_iff, onBackend_eq_ok_iff]
  constructor
  · rintro ⟨array, middle, ⟨backend, made, rfl⟩, _, recorded, recording, last⟩
    cases recording
    cases last
    exact ⟨array, backend, made, rfl, rfl⟩
  · rintro ⟨array, backend, made, rfl, rfl⟩
    exact ⟨array, _, ⟨backend, made, rfl⟩, (), _, rfl, rfl⟩

section Makes

variable {pass : Pass (Recorder σ) σ} {handle : ArrayHandle} {origin : ArrayOrigin}

theorem makes_iff_of_temporary (source : handle.source = .temporary) :
    pass.Makes handle origin <->
      origin = .allocated ∧ BackendOperation.allocate ∉ pass.backend.rejected := by
  constructor
  · intro makes
    have made := makes.source
    rw [source] at made
    cases made
    exact ⟨rfl, makes.accepted⟩
  · rintro ⟨rfl, accepted⟩
    refine ⟨congrArg ArraySource.origin? source, accepted, fun data constant => ?_⟩
    rw [source] at constant
    cases constant

theorem makes_iff_of_constant {data : ConstantData} (source : handle.source = .constant data) :
    pass.Makes handle origin <->
      origin = .constant ∧ BackendOperation.resolveConstant ∉ pass.backend.rejected ∧
        ∃ count, handle.layout.elementCount? = some count ∧ data.length = count.toNat := by
  constructor
  · intro makes
    have made := makes.source
    rw [source] at made
    cases made
    exact ⟨rfl, makes.accepted, makes.fits data source⟩
  · rintro ⟨rfl, accepted, fits⟩
    refine ⟨congrArg ArraySource.origin? source, accepted, fun others constant => ?_⟩
    rw [source] at constant
    cases constant
    exact fits

theorem not_makes_of_argument (source : handle.source.origin? = none) :
    ¬ pass.Makes handle origin := by
  intro makes
  have made := makes.source
  rw [source] at made
  cases made

end Makes

theorem materialize_eq_ok_iff (failure : CaptureFault -> NestError) (handle : ArrayHandle)
    (pass after : Pass (Recorder σ) σ) (value? : Option NativeValue) :
    materialize failure handle.record pass = .ok value? after <->
      (handle.source.origin? = none ∧ value? = none ∧ after = pass) ∨
        ∃ origin, pass.Makes handle origin ∧
          value? = some (.array (pass.backend.nextArray handle.elementType origin)) ∧
          after = pass.withArray handle origin := by
  have untouched (source : handle.source.origin? = none) :
      (pure none : PassM (Recorder σ) σ (Option NativeValue)) pass = .ok value? after <->
        (handle.source.origin? = none ∧ value? = none ∧ after = pass) ∨
          ∃ origin, pass.Makes handle origin ∧
            value? = some (.array (pass.backend.nextArray handle.elementType origin)) ∧
            after = pass.withArray handle origin := by
    simp only [source, not_makes_of_argument source, Outcome.pure_apply,
      EStateM.Result.ok.injEq, true_and, false_and, exists_false, or_false]
    rw [eq_comm, eq_comm (b := after)]
  rw [materialize_handle]
  cases source : handle.source with
  | temporary =>
      refine (makeArray_eq_ok_iff handle.id pass after value?).trans ?_
      simp only [makes_iff_of_temporary source]
      constructor
      · rintro ⟨array, backend, allocated, rfl, rfl⟩
        rcases (Recorder.allocate_eq_ok_iff _ _ _ _ _).mp allocated with ⟨accepted, rfl, rfl⟩
        exact .inr ⟨.allocated, ⟨rfl, accepted⟩, rfl, rfl⟩
      · rintro (⟨impossible, _⟩ | ⟨_, ⟨rfl, accepted⟩, rfl, rfl⟩)
        · cases impossible
        · exact ⟨_, _, (Recorder.allocate_eq_ok_iff _ _ _ _ _).mpr ⟨accepted, rfl, rfl⟩, rfl, rfl⟩
  | constant data =>
      refine (makeArray_eq_ok_iff handle.id pass after value?).trans ?_
      simp only [makes_iff_of_constant source]
      constructor
      · rintro ⟨array, backend, resolved, rfl, rfl⟩
        rcases (Recorder.resolveConstant_eq_ok_iff _ _ _ _ _ _).mp resolved with
          ⟨accepted, fits, rfl, rfl⟩
        exact .inr ⟨.constant, ⟨rfl, accepted, fits⟩, rfl, rfl⟩
      · rintro (⟨impossible, _⟩ | ⟨_, ⟨rfl, accepted, fits⟩, rfl, rfl⟩)
        · cases impossible
        · have resolved := (Recorder.resolveConstant_eq_ok_iff handle.elementType handle.layout
            data pass.backend _ _).mpr ⟨accepted, fits, rfl, rfl⟩
          exact ⟨_, _, resolved, rfl, rfl⟩
  | input =>
      have same := untouched (congrArg ArraySource.origin? source)
      rw [source] at same
      exact same
  | inputOutput =>
      have same := untouched (congrArg ArraySource.origin? source)
      rw [source] at same
      exact same

theorem get_apply (pass : Pass β σ) :
    (get : PassM β σ (Pass β σ)) pass = .ok pass pass :=
  rfl

/-- The entries of the elements decide, and the pass stays as it is. -/
theorem resolveElements_apply (failure : CaptureFault -> NestError) (elements : List (Capture σ))
    (pass : Pass β σ) :
    resolveElements failure elements pass =
      match pass.mappedFrom 0 elements with
      | .ok values => .ok (.sequence values) pass
      | .error fault => .error (failure fault) pass := by
  unfold resolveElements
  rw [Outcome.bind_of_ok (get_apply pass)]
  cases pass.mappedFrom 0 elements <;> rfl

theorem resolveElements_eq_ok_iff (failure : CaptureFault -> NestError)
    (elements : List (Capture σ)) (pass after : Pass β σ) (replacement : Replacement) :
    resolveElements failure elements pass = .ok replacement after <->
      ∃ values, pass.mappedFrom 0 elements = .ok values ∧ replacement = .sequence values ∧
        after = pass := by
  rw [resolveElements_apply]
  cases pass.mappedFrom 0 elements with
  | ok values =>
      simp only [EStateM.Result.ok.injEq, Except.ok.injEq]
      constructor
      · rintro ⟨same, ended⟩
        exact ⟨values, rfl, same.symm, ended.symm⟩
      · rintro ⟨_, rfl, same, ended⟩
        exact ⟨same.symm, ended.symm⟩
  | error fault =>
      constructor
      · intro impossible
        cases impossible
      · rintro ⟨_, impossible, _⟩
        cases impossible

theorem resolveCapture_of_mapped [Backend σ β] (failure : CaptureFault -> NestError)
    {capture : Capture σ} {pass : Pass β σ} {value : NativeValue}
    (found : pass.lookup? capture = some value) :
    resolveCapture failure capture pass = .ok (some (.value value)) pass := by
  unfold resolveCapture
  rw [Outcome.bind_of_ok (get_apply pass), found]
  rfl

theorem resolveCapture_of_unmapped [Backend σ β] (failure : CaptureFault -> NestError)
    {capture : Capture σ} {pass : Pass β σ} (missing : pass.lookup? capture = none) :
    resolveCapture failure capture pass = resolveUnmapped failure capture pass := by
  unfold resolveCapture
  rw [Outcome.bind_of_ok (get_apply pass), missing]

/-- A captured value without an entry is resolved by what its kind asks for. -/
theorem resolves_of_unmapped {failure : CaptureFault -> NestError} {capture : Capture σ}
    {pass after : Pass (Recorder σ) σ} {replacement? : Option Replacement}
    (missing : pass.lookup? capture = none)
    (done : resolveUnmapped failure capture pass = .ok replacement? after) :
    Resolves pass capture replacement? after := by
  cases capture with
  | array handle =>
      rcases (Outcome.bind_eq_ok_iff _ _ _ _ _).mp done with ⟨value?, middle, produced, last⟩
      cases last
      rcases (materialize_eq_ok_iff _ _ _ _ _).mp produced with
        ⟨source, rfl, rfl⟩ | ⟨origin, makes, rfl, rfl⟩
      · exact .argument missing source
      · exact .made missing makes
  | index loop =>
      cases done
      exact .index missing
  | scalar value =>
      cases done
      exact .scalar missing
  | deferred value =>
      rcases (Outcome.bind_eq_ok_iff _ _ _ _ _).mp done with ⟨number, middle, resolved, last⟩
      rcases (onStore_eq_ok_iff _ _ _ _ _).mp resolved with ⟨store, answered, rfl⟩
      cases last
      exact .deferred missing answered
  | sequence elements =>
      rcases (Outcome.bind_eq_ok_iff _ _ _ _ _).mp done with ⟨_, middle, listed, last⟩
      rcases (resolveElements_eq_ok_iff _ _ _ _ _).mp listed with ⟨values, entries, rfl, rfl⟩
      cases last
      exact .sequence entries
  | lazy produce =>
      rcases (Outcome.bind_eq_ok_iff _ _ _ _ _).mp done with ⟨elements, middle, produced, rest⟩
      rcases (onStore_eq_ok_iff _ _ _ _ _).mp produced with ⟨store, answered, rfl⟩
      rcases (Outcome.bind_eq_ok_iff _ _ _ _ _).mp rest with ⟨_, final, listed, last⟩
      rcases (resolveElements_eq_ok_iff _ _ _ _ _).mp listed with ⟨values, entries, rfl, rfl⟩
      cases last
      exact .lazy answered entries

theorem resolveCapture_eq_ok_iff (failure : CaptureFault -> NestError) (capture : Capture σ)
    (pass after : Pass (Recorder σ) σ) (replacement? : Option Replacement) :
    resolveCapture failure capture pass = .ok replacement? after <->
      Resolves pass capture replacement? after := by
  constructor
  · intro done
    cases entry : pass.lookup? capture with
    | some value =>
        rw [resolveCapture_of_mapped failure entry] at done
        cases done
        exact .mapped entry
    | none =>
        rw [resolveCapture_of_unmapped failure entry] at done
        exact resolves_of_unmapped entry done
  · intro resolves
    cases resolves with
    | mapped found => exact resolveCapture_of_mapped failure found
    | made missing makes =>
        have unmapped : pass.lookup? (.array _) = none := missing
        rw [resolveCapture_of_unmapped failure unmapped]
        have produced := (materialize_eq_ok_iff failure _ pass _ _).mpr (.inr ⟨_, makes, rfl, rfl⟩)
        exact Outcome.bind_of_ok produced _
    | argument missing source =>
        have unmapped : pass.lookup? (.array _) = none := missing
        rw [resolveCapture_of_unmapped failure unmapped]
        have produced := (materialize_eq_ok_iff failure _ pass _ _).mpr (.inl ⟨source, rfl, rfl⟩)
        exact Outcome.bind_of_ok produced _
    | index missing => exact resolveCapture_of_unmapped failure missing
    | scalar missing => exact resolveCapture_of_unmapped failure missing
    | deferred missing resolved =>
        have unmapped : pass.lookup? (.deferred _) = none := missing
        rw [resolveCapture_of_unmapped failure unmapped]
        have answered := (onStore_eq_ok_iff .unresolvableDeferred _ pass _ _).mpr
          ⟨_, resolved, rfl⟩
        exact Outcome.bind_of_ok answered _
    | sequence entries =>
        rw [resolveCapture_of_unmapped failure rfl]
        have listed := (resolveElements_eq_ok_iff failure _ pass _ _).mpr ⟨_, entries, rfl, rfl⟩
        exact Outcome.bind_of_ok listed _
    | lazy produced entries =>
        rw [resolveCapture_of_unmapped failure rfl]
        have answered := (onStore_eq_ok_iff (fun reason => failure (.production reason)) _ pass _
          _).mpr ⟨_, produced, rfl⟩
        have listed := (resolveElements_eq_ok_iff failure _ _ _ _).mpr ⟨_, entries, rfl, rfl⟩
        refine (Outcome.bind_of_ok answered _).trans ?_
        exact Outcome.bind_of_ok listed _

/-! ## What every case keeps -/

theorem Resolves.continues {pass after : Pass (Recorder σ) σ} {capture : Capture σ}
    {replacement? : Option Replacement} (resolves : Resolves pass capture replacement? after) :
    Continues pass after := by
  cases resolves with
  | made missing makes => exact continues_withArray pass _ _
  | deferred missing resolved => exact ⟨rfl, rfl, rfl, rfl⟩
  | lazy produced entries => exact ⟨rfl, rfl, rfl, rfl⟩
  | mapped found => exact .refl pass
  | argument missing source => exact .refl pass
  | index missing => exact .refl pass
  | scalar missing => exact .refl pass
  | sequence entries => exact .refl pass

theorem Resolves.kernels {pass after : Pass (Recorder σ) σ} {capture : Capture σ}
    {replacement? : Option Replacement} (resolves : Resolves pass capture replacement? after) :
    after.backend.kernels = pass.backend.kernels := by
  cases resolves <;> rfl

/-- The entries that are there stay, and one is added if an array is made. -/
theorem Resolves.completes {pass after : Pass (Recorder σ) σ} {capture : Capture σ}
    {replacement? : Option Replacement} (resolves : Resolves pass capture replacement? after) :
    Completes capture.made?.toList pass.identities after.identities := by
  cases resolves with
  | mapped found =>
      cases making : capture.made? with
      | none => exact .refl pass.identities
      | some handle =>
          rcases (capture.made?_eq_some_iff handle).mp making with ⟨rfl, _⟩
          exact .skip found
  | @made handle origin missing makes =>
      have making : (Capture.array handle : Capture σ).made? = some handle :=
        (Capture.made?_eq_some_iff _ handle).mpr ⟨rfl, origin, makes.source⟩
      rw [making]
      exact .insert missing ⟨rfl, makes.source⟩
  | @argument handle missing source =>
      rw [Capture.made?_of_argument source]
      exact .refl pass.identities
  | index missing => exact .refl pass.identities
  | scalar missing => exact .refl pass.identities
  | deferred missing resolved => exact .refl pass.identities
  | sequence entries => exact .refl pass.identities
  | lazy produced entries => exact .refl pass.identities

/-! ## The captured values of a logic function -/

/-- Captured values are resolved in order, each from the state that the one
before it left. -/
inductive ResolvesAll : Pass (Recorder σ) σ -> List (String × Capture σ) ->
    List (String × Replacement) -> Pass (Recorder σ) σ -> Prop
  | nil {pass : Pass (Recorder σ) σ} : ResolvesAll pass [] [] pass
  | cons {pass middle after : Pass (Recorder σ) σ} {name : String} {capture : Capture σ}
      {replacement? : Option Replacement} {rest : List (String × Capture σ)}
      {others : List (String × Replacement)} (first : Resolves pass capture replacement? middle)
      (later : ResolvesAll middle rest others after) :
      ResolvesAll pass ((name, capture) :: rest)
        ((replacement?.map fun replacement => (name, replacement)).toList ++ others) after

theorem resolveAll_eq_ok_iff (logic : String) (entries : List (String × Capture σ))
    (pass after : Pass (Recorder σ) σ) (replacements : List (String × Replacement)) :
    resolveAll logic entries pass = .ok replacements after <->
      ResolvesAll pass entries replacements after := by
  induction entries generalizing pass after replacements with
  | nil =>
      constructor
      · intro done
        cases done
        exact .nil
      · intro resolves
        cases resolves
        rfl
  | cons entry rest inductionHypothesis =>
      rcases entry with ⟨name, capture⟩
      rw [resolveAll]
      simp only [Outcome.bind_eq_ok_iff, resolveCapture_eq_ok_iff, inductionHypothesis]
      constructor
      · rintro ⟨replacement?, middle, first, others, final, later, last⟩
        cases replacement? with
        | none =>
            cases last
            exact .cons first later
        | some replacement =>
            cases last
            exact .cons first later
      · intro resolves
        cases resolves with
        | @cons _ middle _ _ _ replacement? _ others first later =>
            refine ⟨replacement?, middle, first, others, after, later, ?_⟩
            cases replacement? <;> rfl

theorem resolve_eq_ok_iff (logic : LogicFunction σ) (pass after : Pass (Recorder σ) σ)
    (substitution : Substitution) :
    resolve logic pass = .ok substitution after <->
      ResolvesAll pass logic.captures substitution.entries after := by
  rw [← resolveAll_eq_ok_iff logic.name, resolve, Outcome.bind_eq_ok_iff]
  constructor
  · rintro ⟨entries, middle, resolved, last⟩
    cases last
    exact resolved
  · intro resolved
    exact ⟨substitution.entries, after, resolved, rfl⟩

theorem ResolvesAll.continues {pass after : Pass (Recorder σ) σ}
    {entries : List (String × Capture σ)} {replacements : List (String × Replacement)}
    (resolves : ResolvesAll pass entries replacements after) : Continues pass after := by
  induction resolves with
  | nil => exact .refl _
  | cons first later inductionHypothesis => exact first.continues.trans inductionHypothesis

theorem ResolvesAll.kernels {pass after : Pass (Recorder σ) σ}
    {entries : List (String × Capture σ)} {replacements : List (String × Replacement)}
    (resolves : ResolvesAll pass entries replacements after) :
    after.backend.kernels = pass.backend.kernels := by
  induction resolves with
  | nil => rfl
  | cons first later inductionHypothesis => exact inductionHypothesis.trans first.kernels

theorem ResolvesAll.completes {pass after : Pass (Recorder σ) σ}
    {entries : List (String × Capture σ)} {replacements : List (String × Replacement)}
    (resolves : ResolvesAll pass entries replacements after) :
    Completes (Capture.madeIn (entries.map Prod.snd)) pass.identities after.identities := by
  induction resolves with
  | nil => exact .refl _
  | cons first later inductionHypothesis =>
      rw [List.map_cons, Capture.madeIn_cons]
      exact first.completes.append inductionHypothesis

/-! ## Entries of sequences -/

/-- The entries of the elements that have one. -/
theorem eq_filterMap_of_mappedFrom {pass : Pass β σ} {position : Nat}
    {elements : List (Capture σ)} {values : List NativeValue}
    (entries : pass.mappedFrom position elements = .ok values) :
    values = elements.filterMap pass.lookup? := by
  induction elements generalizing position values with
  | nil =>
      cases entries
      rfl
  | cons element rest inductionHypothesis =>
      rw [mappedFrom] at entries
      cases entry : pass.lookup? element with
      | some value =>
          rw [List.filterMap_cons_some entry]
          simp only [entry] at entries
          cases later : pass.mappedFrom (position + 1) rest with
          | error fault =>
              rw [later] at entries
              cases entries
          | ok others =>
              rw [later] at entries
              cases entries
              rw [inductionHypothesis later]
      | none =>
          rw [List.filterMap_cons_none entry]
          simp only [entry] at entries
          split at entries
          · cases entries
          · exact inductionHypothesis entries

/-- A pass that is not strict finds the entries of any sequence. -/
theorem mappedFrom_of_lenient {pass : Pass β σ}
    (lenient : pass.options.strictSequences = false) (position : Nat)
    (elements : List (Capture σ)) :
    pass.mappedFrom position elements = .ok (elements.filterMap pass.lookup?) := by
  induction elements generalizing position with
  | nil => rfl
  | cons element rest inductionHypothesis =>
      rw [mappedFrom, inductionHypothesis, lenient]
      cases entry : pass.lookup? element with
      | some value =>
          rw [List.filterMap_cons_some entry]
          rfl
      | none =>
          rw [List.filterMap_cons_none entry]
          rfl

end Pass

end LoopNest
