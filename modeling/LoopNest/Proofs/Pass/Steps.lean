import LoopNest.Proofs.Native.Growth
import LoopNest.Proofs.Pass.Resolution
import LoopNest.Proofs.Pass.Seeding

namespace LoopNest

/-!
# The steps of a pass, also of one that fails

A pass may stop at any point, and what it did until then stays.  So what holds
of the states that a pass goes through is told by single steps.  On a recorder
there are four of them: an array is handed out and recorded for a handle, a
scalar is recorded, the store changes, and a kernel is registered whose native
values all come from the identity map.  Creating a space is no such step; it
happens at most once in a pass and is told apart.

Every part of a pass runs by these steps, whether it gives a result or fails.
If it fails, it is not because the backend does not know the space, as long as
the space of the pass is one that the backend recorded.
-/

/-- The failure is not that a space is unknown to the backend. -/
def NestError.SpaceKnown (error : NestError) : Prop :=
  forall space, error ≠ .backend (.unknownSpace space)

theorem BackendError.SpaceKnown.nestError {error : BackendError} (known : error.SpaceKnown) :
    (NestError.backend error).SpaceKnown := by
  intro space same
  exact known space (NestError.backend.inj same)

namespace Pass

variable {σ : Type}

/-- The pass can put this native value into a kernel: it is an entry of the
identity map, or a scalar. -/
inductive Holds (pass : Pass (Recorder σ) σ) : NativeValue -> Prop
  | entry {token : Token} {native : NativeValue} (found : pass.identities[token]? = some native) :
      Holds pass native
  | scalar (value : Scalar) : Holds pass (.scalar value)

/-- One step of a pass. -/
inductive Step (pass : Pass (Recorder σ) σ) : Pass (Recorder σ) σ -> Prop
  | array (handle : ArrayHandle) (origin : ArrayOrigin) : Step pass (pass.withArray handle origin)
  | scalar (token : Token) (value : Scalar) :
      Step pass { pass with identities := pass.identities.insert token (.scalar value) }
  | store (store : Store σ) : Step pass { pass with store }
  | kernel {space : NativeSpace} (entry : RecordedKernel σ) (entered : pass.space = some space)
      (inside : entry.space = space.id)
      (held : forall native, native ∈ entry.natives -> pass.Holds native) :
      Step pass { pass with backend := pass.backend.withKernel entry }

/-- Any number of steps. -/
abbrev Steps : Pass (Recorder σ) σ -> Pass (Recorder σ) σ -> Prop :=
  Relation.ReflTransGen Step

theorem Step.continues {pass after : Pass (Recorder σ) σ} (step : Step pass after) :
    pass.Continues after := by
  cases step with
  | array handle origin => exact continues_withArray pass handle origin
  | scalar token value => exact ⟨rfl, rfl, rfl, rfl⟩
  | store store => exact ⟨rfl, rfl, rfl, rfl⟩
  | kernel entry entered inside held => exact ⟨rfl, rfl, rfl, rfl⟩

theorem Step.changes {pass after : Pass (Recorder σ) σ} (step : Step pass after) :
    Recorder.Changes pass.backend after.backend := by
  cases step with
  | array handle origin => exact .single (.array handle.elementType handle.layout origin)
  | scalar token value => exact .refl
  | store store => exact .refl
  | kernel entry entered inside held => exact .single (.kernel entry)

theorem Steps.continues {pass after : Pass (Recorder σ) σ} (steps : Steps pass after) :
    pass.Continues after := by
  induction steps with
  | refl => exact .refl pass
  | tail _ step inductionHypothesis => exact inductionHypothesis.trans step.continues

theorem Steps.changes {pass after : Pass (Recorder σ) σ} (steps : Steps pass after) :
    Recorder.Changes pass.backend after.backend := by
  induction steps with
  | refl => exact .refl
  | tail _ step inductionHypothesis => exact inductionHypothesis.trans step.changes

/-! ## Programs that run by steps -/

/-- The space of the pass, if there is one, is recorded by the backend. -/
def SpaceRecorded (pass : Pass (Recorder σ) σ) : Prop :=
  forall space, pass.space = some space ->
    ∃ known, known ∈ pass.backend.spaces ∧ known.id = space.id

theorem Continues.spaceRecorded {pass after : Pass (Recorder σ) σ}
    (continues : pass.Continues after) (recorded : pass.SpaceRecorded) : after.SpaceRecorded := by
  intro space entered
  rw [continues.space] at entered
  rw [continues.spaces]
  exact recorded space entered

/-- From this state the program runs by steps, whatever its outcome is. -/
structure Runs {α : Type} (program : PassM (Recorder σ) σ α) (pass : Pass (Recorder σ) σ) :
    Prop where
  steps : Steps pass (Outcome.state (program pass))
  known : pass.SpaceRecorded -> forall {error : NestError} {after : Pass (Recorder σ) σ},
    program pass = .error error after -> error.SpaceKnown

namespace Runs

variable {α β : Type} {pass after : Pass (Recorder σ) σ}

theorem of_ok {program : PassM (Recorder σ) σ α} {value : α}
    (done : program pass = .ok value after) (steps : Steps pass after) : Runs program pass where
  steps := by
    rw [done]
    exact steps
  known := by
    intro _ error stopped failed
    rw [done] at failed
    cases failed

theorem of_error {program : PassM (Recorder σ) σ α} {error : NestError}
    (failed : program pass = .error error after) (steps : Steps pass after)
    (known : pass.SpaceRecorded -> error.SpaceKnown) : Runs program pass where
  steps := by
    rw [failed]
    exact steps
  known := by
    intro recorded other stopped same
    rw [failed] at same
    cases same
    exact known recorded

/-- A program that only gives a value. -/
theorem pure (value : α) (pass : Pass (Recorder σ) σ) :
    Runs (Pure.pure value : PassM (Recorder σ) σ α) pass :=
  .of_ok (Outcome.pure_apply value pass) .refl

/-- A program that reads the pass. -/
theorem get (pass : Pass (Recorder σ) σ) :
    Runs (MonadState.get : PassM (Recorder σ) σ (Pass (Recorder σ) σ)) pass :=
  .of_ok (get_apply pass) .refl

/-- Two programs in sequence. -/
theorem bind {first : PassM (Recorder σ) σ α} {next : α -> PassM (Recorder σ) σ β}
    (begun : Runs first pass)
    (continued : forall value middle, first pass = .ok value middle -> Runs (next value) middle) :
    Runs (first >>= next) pass := by
  have begunSteps := begun.steps
  cases outcome : first pass with
  | ok value middle =>
      rw [outcome] at begunSteps
      have later := continued value middle outcome
      refine ⟨?_, ?_⟩
      · rw [Outcome.bind_of_ok outcome]
        exact begunSteps.trans later.steps
      · intro recorded error after failed
        rw [Outcome.bind_of_ok outcome] at failed
        exact later.known (begunSteps.continues.spaceRecorded recorded) failed
  | error error middle =>
      rw [outcome] at begunSteps
      exact .of_error (Outcome.bind_of_error outcome next) begunSteps fun recorded =>
        begun.known recorded outcome

end Runs

/-! ## Arguments -/

theorem Seeded.step {pass after : Pass (Recorder σ) σ} {capture : Capture σ}
    {runtime : RuntimeArgument} (seeded : Seeded pass capture runtime after) :
    Step pass after := by
  cases seeded with
  | buffer handle slot accepted => exact .array handle .argument
  | scalar takes identity => exact .scalar _ _

/-- An argument that cannot be recorded leaves no trace. -/
theorem seedArgument_of_error {position : Nat} {capture : Capture σ} {runtime : RuntimeArgument}
    {pass after : Pass (Recorder σ) σ} {error : NestError}
    (failed : seedArgument position capture runtime pass = .error error after) :
    after = pass ∧ error.SpaceKnown := by
  cases capture with
  | array handle =>
      cases runtime with
      | buffer slot =>
          rcases (Outcome.bind_eq_error_iff _ _ _ _ _).mp failed with valued | ⟨_, _, _, impossible⟩
          · rcases (Outcome.bind_eq_error_iff _ _ _ _ _).mp valued with
              operated | ⟨_, _, _, impossible⟩
            · rcases (onBackend_eq_error_iff _ _ _ _).mp operated with
                ⟨fault, backend, wrapped, rfl, rfl⟩
              rcases Recorder.wrapArgument_of_error wrapped with ⟨rfl, known⟩
              exact ⟨rfl, known.nestError⟩
            · cases impossible
          · cases impossible
      | scalar value =>
          cases failed
          exact ⟨rfl, nofun⟩
  | deferred value =>
      cases runtime with
      | buffer slot =>
          cases failed
          exact ⟨rfl, nofun⟩
      | scalar number => cases failed
  | index loop =>
      cases runtime with
      | buffer slot =>
          cases failed
          exact ⟨rfl, nofun⟩
      | scalar number => cases failed
  | scalar value =>
      cases runtime with
      | buffer slot =>
          cases failed
          exact ⟨rfl, nofun⟩
      | scalar number => cases failed
  | sequence elements =>
      cases failed
      exact ⟨rfl, nofun⟩
  | lazy produce =>
      cases failed
      exact ⟨rfl, nofun⟩

theorem runs_seedArgument (position : Nat) (capture : Capture σ) (runtime : RuntimeArgument)
    (pass : Pass (Recorder σ) σ) : Runs (seedArgument position capture runtime) pass := by
  cases outcome : seedArgument position capture runtime pass with
  | ok done after =>
      exact .of_ok outcome (.single ((seedArgument_eq_ok_iff _ _ _ _ _).mp outcome).step)
  | error error after =>
      rcases seedArgument_of_error outcome with ⟨rfl, known⟩
      exact .of_error outcome .refl fun _ => known

theorem runs_seedFrom (position : Nat) (pairs : List (Capture σ × RuntimeArgument))
    (pass : Pass (Recorder σ) σ) : Runs (seedFrom position pairs) pass := by
  induction pairs generalizing position pass with
  | nil => exact .pure () pass
  | cons pair rest inductionHypothesis =>
      exact (runs_seedArgument position pair.1 pair.2 pass).bind fun _ middle _ =>
        inductionHypothesis (position + 1) middle

theorem runs_seedArguments (pass : Pass (Recorder σ) σ) : Runs seedArguments pass := by
  refine (Runs.get pass).bind fun current middle _ => ?_
  dsimp only
  split
  · exact runs_seedFrom 0 _ middle
  · exact .of_error rfl .refl fun _ => nofun

/-! ## Captured values -/

/-- An array is recorded once it is made, so only making it can fail. -/
private theorem makeArray_of_error {operation : EStateM BackendError (Recorder σ) NativeArray}
    {token : Token} {pass after : Pass (Recorder σ) σ} {error : NestError}
    (clean : forall {fault : BackendError} {backend : Recorder σ},
      operation pass.backend = .error fault backend ->
        backend = pass.backend ∧ fault.SpaceKnown)
    (failed :
      (do
        let array <- onBackend operation
        record token (.array array)
        pure (some (.array array)) : PassM (Recorder σ) σ (Option NativeValue)) pass =
          .error error after) : after = pass ∧ error.SpaceKnown := by
  rcases (Outcome.bind_eq_error_iff _ _ _ _ _).mp failed with operated | ⟨_, _, _, impossible⟩
  · rcases (onBackend_eq_error_iff _ _ _ _).mp operated with ⟨fault, backend, made, rfl, rfl⟩
    rcases clean made with ⟨rfl, known⟩
    exact ⟨rfl, known.nestError⟩
  · cases impossible

theorem materialize_of_error {failure : CaptureFault -> NestError} {handle : ArrayHandle}
    {pass after : Pass (Recorder σ) σ} {error : NestError}
    (failed : materialize failure handle.record pass = .error error after) :
    after = pass ∧ error.SpaceKnown := by
  rw [materialize_handle] at failed
  cases source : handle.source with
  | temporary =>
      rw [source] at failed
      exact makeArray_of_error Recorder.allocate_of_error failed
  | constant data =>
      rw [source] at failed
      exact makeArray_of_error Recorder.resolveConstant_of_error failed
  | input =>
      rw [source] at failed
      cases failed
  | inputOutput =>
      rw [source] at failed
      cases failed

theorem runs_materialize (failure : CaptureFault -> NestError) (handle : ArrayHandle)
    (pass : Pass (Recorder σ) σ) : Runs (materialize failure handle.record) pass := by
  cases outcome : materialize failure handle.record pass with
  | ok value? after =>
      rcases (materialize_eq_ok_iff _ _ _ _ _).mp outcome with ⟨_, _, rfl⟩ | ⟨origin, _, _, rfl⟩
      · exact .of_ok outcome .refl
      · exact .of_ok outcome (.single (.array handle origin))
  | error error after =>
      rcases materialize_of_error outcome with ⟨rfl, known⟩
      exact .of_error outcome .refl fun _ => known

/-- A rule may change the store, also when it fails. -/
theorem runs_onStore {ε α : Type} {failure : ε -> NestError}
    (known : forall fault, (failure fault).SpaceKnown) (rule : EStateM ε (Store σ) α)
    (pass : Pass (Recorder σ) σ) : Runs (onStore failure rule) pass := by
  cases outcome : rule pass.store with
  | ok value store =>
      have done : onStore failure rule pass = .ok value { pass with store } := by
        unfold onStore
        rw [outcome]
      exact .of_ok done (.single (.store store))
  | error fault store =>
      have failed : onStore failure rule pass = .error (failure fault) { pass with store } := by
        unfold onStore
        rw [outcome]
      exact .of_error failed (.single (.store store)) fun _ => known fault

theorem runs_resolveElements {failure : CaptureFault -> NestError}
    (known : forall fault, (failure fault).SpaceKnown) (elements : List (Capture σ))
    (pass : Pass (Recorder σ) σ) : Runs (resolveElements failure elements) pass := by
  refine (Runs.get pass).bind fun current middle _ => ?_
  cases current.mappedFrom 0 elements with
  | ok values => exact .pure (Replacement.sequence values) middle
  | error fault => exact .of_error rfl .refl fun _ => known fault

theorem runs_resolveCapture {failure : CaptureFault -> NestError}
    (known : forall fault, (failure fault).SpaceKnown) (capture : Capture σ)
    (pass : Pass (Recorder σ) σ) : Runs (resolveCapture failure capture) pass := by
  refine (Runs.get pass).bind fun current middle _ => ?_
  cases current.lookup? capture with
  | some value => exact .pure _ middle
  | none =>
      cases capture with
      | array handle =>
          exact (runs_materialize failure handle middle).bind fun _ after _ => .pure _ after
      | index loop => exact .pure none middle
      | scalar value => exact .pure none middle
      | deferred value =>
          have unresolvable (fault : DeferredError) :
              (NestError.unresolvableDeferred fault).SpaceKnown := nofun
          exact (runs_onStore unresolvable value.resolve middle).bind fun _ after _ =>
            .pure _ after
      | sequence elements =>
          exact (runs_resolveElements known elements middle).bind fun _ after _ => .pure _ after
      | lazy produce =>
          refine (runs_onStore (fun _ => known _) produce middle).bind fun elements produced _ => ?_
          exact (runs_resolveElements known elements produced).bind fun _ after _ => .pure _ after

theorem runs_resolveAll (logic : String) (entries : List (String × Capture σ))
    (pass : Pass (Recorder σ) σ) : Runs (resolveAll logic entries) pass := by
  induction entries generalizing pass with
  | nil => exact .pure [] pass
  | cons entry rest inductionHypothesis =>
      have unresolved (fault : CaptureFault) :
          (NestError.captureResolution logic entry.1 fault).SpaceKnown := nofun
      refine (runs_resolveCapture unresolved entry.2 pass).bind fun replacement? middle _ => ?_
      refine (inductionHypothesis middle).bind fun others after _ => ?_
      cases replacement? with
      | none => exact .pure others after
      | some replacement => exact .pure ((entry.1, replacement) :: others) after

theorem runs_resolve (logic : LogicFunction σ) (pass : Pass (Recorder σ) σ) :
    Runs (resolve logic) pass :=
  (runs_resolveAll logic.name logic.captures pass).bind fun entries middle _ =>
    .pure (Substitution.mk entries) middle

/-! ## Kernels -/

theorem Holds.kept {pass after : Pass (Recorder σ) σ} {native : NativeValue}
    (holds : pass.Holds native)
    (kept : forall {token : Token} {value : NativeValue},
      pass.identities[token]? = some value -> after.identities[token]? = some value) :
    after.Holds native := by
  cases holds with
  | entry found => exact .entry (kept found)
  | scalar value => exact .scalar value

theorem holds_of_mappedFrom {pass : Pass (Recorder σ) σ} {position : Nat}
    {elements : List (Capture σ)} {values : List NativeValue}
    (entries : pass.mappedFrom position elements = .ok values) {native : NativeValue}
    (member : native ∈ values) : pass.Holds native := by
  rw [eq_filterMap_of_mappedFrom entries] at member
  rcases List.mem_filterMap.mp member with ⟨element, _, found⟩
  rcases Option.bind_eq_some_iff.mp found with ⟨token, _, entry⟩
  exact .entry entry

/-- A replacement consists of entries and scalars. -/
theorem Resolves.holds {pass after : Pass (Recorder σ) σ} {capture : Capture σ}
    {replacement : Replacement} (resolves : Resolves pass capture (some replacement) after)
    {native : NativeValue} (member : native ∈ replacement.natives) : after.Holds native := by
  cases resolves with
  | mapped found =>
      rw [List.mem_singleton.mp member]
      rcases Option.bind_eq_some_iff.mp found with ⟨token, _, entry⟩
      exact .entry entry
  | @made handle origin missing makes =>
      rw [List.mem_singleton.mp member]
      have found : (pass.withArray handle origin).identities[handle.id]? = some _ :=
        Std.ExtTreeMap.getElem?_insert_self
      exact .entry found
  | deferred missing resolved =>
      rw [List.mem_singleton.mp member]
      exact .scalar _
  | sequence entries => exact holds_of_mappedFrom entries member
  | lazy produced entries => exact holds_of_mappedFrom entries member

theorem ResolvesAll.holds {pass after : Pass (Recorder σ) σ} {entries : List (String × Capture σ)}
    {replacements : List (String × Replacement)}
    (resolves : ResolvesAll pass entries replacements after) {replaced : String × Replacement}
    (member : replaced ∈ replacements) {native : NativeValue}
    (inside : native ∈ replaced.2.natives) : after.Holds native := by
  induction resolves with
  | nil => exact absurd member List.not_mem_nil
  | @cons _ _ _ name _ replacement? _ _ first later inductionHypothesis =>
      rcases List.mem_append.mp member with head | tail
      · rcases Option.map_eq_some_iff.mp (Option.mem_toList.mp head) with ⟨replacement, given, rfl⟩
        subst given
        exact (first.holds inside).kept later.completes.kept
      · exact inductionHypothesis tail

/-- Registering a kernel whose native values the pass holds. -/
private theorem runs_addKernel {pass : Pass (Recorder σ) σ} {space : NativeSpace}
    (entered : pass.space = some space) (kernel : Kernel σ) (predicate : Option Predicate)
    (placement : Option Placement)
    (held : forall native,
      native ∈ (RecordedKernel.mk space.id kernel predicate placement).natives ->
        pass.Holds native) :
    Runs (onBackend (Backend.addKernel space kernel predicate placement)) pass := by
  cases outcome : onBackend (Backend.addKernel space kernel predicate placement) pass with
  | ok done after =>
      rcases (onBackend_eq_ok_iff _ _ _ _).mp outcome with ⟨backend, registered, rfl⟩
      rcases (Recorder.addKernel_eq_ok_iff _ _ _ _ _ _ _).mp registered with ⟨_, _, rfl⟩
      exact .of_ok outcome (.single (.kernel ⟨space.id, kernel, predicate, placement⟩ entered rfl
        held))
  | error error after =>
      rcases (onBackend_eq_error_iff _ _ _ _).mp outcome with ⟨fault, backend, refused, rfl, rfl⟩
      rcases Recorder.addKernel_of_error refused with ⟨rfl, cause⟩
      refine .of_error outcome .refl fun recorded => ?_
      rcases cause with known | unknown
      · exact known.nestError
      · rcases recorded space entered with ⟨known, member, same⟩
        exact absurd same (unknown known member)

theorem runs_addLogic (logic : LogicFunction σ) (scheduling : Scheduling)
    (pass : Pass (Recorder σ) σ) : Runs (addLogic logic scheduling) pass := by
  refine (Runs.get pass).bind fun current same read => ?_
  cases read
  cases entered : pass.space with
  | none => exact .of_error rfl .refl fun _ => nofun
  | some space =>
      refine (runs_resolve logic pass).bind fun substitution middle resolved => ?_
      have resolves := (resolve_eq_ok_iff logic pass middle substitution).mp resolved
      refine runs_addKernel (resolves.continues.space.trans entered) _ _ _ fun native member => ?_
      rcases List.mem_flatMap.mp member with ⟨replaced, among, inside⟩
      exact resolves.holds among inside

end Pass

end LoopNest
