import LoopNest.Proofs.Native.KernelLog
import LoopNest.Proofs.Pass.Repetition

namespace LoopNest

/-!
# What a pass may have recorded

Between two kernels a pass only records arguments and arrays.  So whatever is
required of the entries of its identity map stays true, if it is true of these,
however a part of the pass ends.  Meanwhile no kernel is logged, and the pass
stays in its space.

What takes the place of a captured value is taken from the identity map at the
moment when its turn comes, and a native index is never taken from anywhere
else.
-/

namespace Outcome

variable {ε τ α β : Type} {holds : τ -> Prop}

/-- Whether the step gives a result or fails, the state is still of this kind. -/
def Preserves (holds : τ -> Prop) (step : EStateM ε τ α) : Prop :=
  forall before, holds before -> holds (state (step before))

namespace Preserves

theorem of_ok {step : EStateM ε τ α} (preserves : Preserves holds step) {before after : τ}
    {value : α} (done : step before = .ok value after) (held : holds before) : holds after := by
  have kept := preserves before held
  rw [done] at kept
  exact kept

theorem of_error {step : EStateM ε τ α} (preserves : Preserves holds step) {before after : τ}
    {error : ε} (failed : step before = .error error after) (held : holds before) :
    holds after := by
  have kept := preserves before held
  rw [failed] at kept
  exact kept

theorem pure (value : α) : Preserves holds (Pure.pure value : EStateM ε τ α) :=
  fun _ held => held

theorem throw (error : ε) : Preserves holds (MonadExcept.throw error : EStateM ε τ α) :=
  fun _ held => held

theorem get : Preserves holds (MonadState.get : EStateM ε τ τ) :=
  fun _ held => held

/-- Of the second step it is enough to know what the first one can give. -/
theorem bind {first : EStateM ε τ α} {next : α -> EStateM ε τ β} (begun : Preserves holds first)
    (continued : forall {value : α} {before middle : τ}, first before = .ok value middle ->
      Preserves holds (next value)) : Preserves holds (first >>= next) := by
  intro before held
  cases outcome : first before with
  | ok value middle =>
      rw [bind_of_ok outcome]
      exact continued outcome middle (begun.of_ok outcome held)
  | error error middle =>
      rw [bind_of_error outcome]
      exact begun.of_error outcome held

end Preserves

end Outcome

namespace Pass

variable {β σ : Type}

/-- The pass logged these kernels, it is in this space or in none, and its
entries are allowed. -/
structure Within (log : β -> List (RecordedKernel σ)) (kernels : List (RecordedKernel σ))
    (space? : Option NativeSpace) (allowed : Token -> NativeValue -> Prop) (pass : Pass β σ) :
    Prop where
  kernels : log pass.backend = kernels
  space : pass.space = space?
  entries : forall {token : Token} {value : NativeValue},
    pass.identities[token]? = some value -> allowed token value

/-- Whatever the outcome of the program is, the pass inside as before. -/
abbrev Stays {α : Type} (log : β -> List (RecordedKernel σ))
    (allowed : Token -> NativeValue -> Prop) (program : PassM β σ α) : Prop :=
  forall kernels space?, Outcome.Preserves (Within log kernels space? allowed) program

variable {log : β -> List (RecordedKernel σ)} {kernels : List (RecordedKernel σ)}
  {space? : Option NativeSpace} {allowed : Token -> NativeValue -> Prop}

theorem stays_onBackend {α : Type} {operation : EStateM BackendError β α}
    (kept : Outcome.Keeps log operation) :
    Stays (σ := σ) log allowed (onBackend operation) := by
  intro kernels space? pass inside
  unfold onBackend
  cases outcome : operation pass.backend with
  | ok value backend =>
      exact ⟨(kept.of_ok outcome).trans inside.kernels, inside.space, inside.entries⟩
  | error error backend =>
      exact ⟨(kept.of_error outcome).trans inside.kernels, inside.space, inside.entries⟩

theorem stays_onStore {ε α : Type} (failure : ε -> NestError)
    (operation : EStateM ε (Store σ) α) : Stays log allowed (onStore failure operation) := by
  intro kernels space? pass inside
  unfold onStore
  cases operation pass.store with
  | ok value store => exact ⟨inside.kernels, inside.space, inside.entries⟩
  | error error store => exact ⟨inside.kernels, inside.space, inside.entries⟩

theorem stays_record {token : Token} {value : NativeValue} (fits : allowed token value) :
    Stays log allowed (record token value) := by
  intro kernels space? pass inside
  refine ⟨inside.kernels, inside.space, ?_⟩
  intro other native found
  change (pass.identities.insert token value)[other]? = some native at found
  rw [Std.ExtTreeMap.getElem?_insert] at found
  split at found
  · next equal =>
      cases found
      rw [← Std.LawfulEqOrd.eq_of_compare equal]
      exact fits
  · exact inside.entries found

theorem stays_resolveElements (failure : CaptureFault -> NestError) (elements : List (Capture σ)) :
    Stays log allowed (resolveElements failure elements) := by
  intro kernels space?
  refine Outcome.Preserves.get.bind fun {pass _ _} _ => ?_
  cases pass.mappedFrom 0 elements with
  | ok values => exact .pure _
  | error fault => exact .throw _

variable [Backend σ β] (logs : Backend.KernelLog log)
include logs

/-! ## Arguments -/

theorem stays_argumentValue (position : Nat) (capture : Capture σ) (runtime : RuntimeArgument) :
    Stays log allowed (argumentValue position capture runtime) := by
  intro kernels space?
  cases capture with
  | array handle =>
      cases runtime with
      | buffer slot =>
          exact (stays_onBackend (logs.wrapArgument _ _ _) kernels space?).bind fun _ => .pure _
      | scalar value => exact .throw _
  | deferred value =>
      cases runtime with
      | buffer slot => exact .throw _
      | scalar number => exact .pure _
  | index loop =>
      cases runtime with
      | buffer slot => exact .throw _
      | scalar number => exact .pure _
  | scalar value =>
      cases runtime with
      | buffer slot => exact .throw _
      | scalar number => exact .pure _
  | sequence elements => exact .throw _
  | lazy produce => exact .throw _

omit logs in
/-- An argument is an array or a scalar, whatever captured it. -/
theorem index?_of_argumentValue {position : Nat} {capture : Capture σ}
    {runtime : RuntimeArgument} {pass after : Pass β σ} {value : NativeValue}
    (done : argumentValue position capture runtime pass = .ok value after) :
    value.index? = none := by
  cases capture with
  | array handle =>
      cases runtime with
      | buffer slot =>
          rcases (Outcome.bind_eq_ok_iff _ _ _ _ _).mp done with ⟨array, middle, _, last⟩
          cases last
          rfl
      | scalar value => cases done
  | deferred value =>
      cases runtime with
      | buffer slot => cases done
      | scalar number =>
          cases done
          rfl
  | index loop =>
      cases runtime with
      | buffer slot => cases done
      | scalar number =>
          cases done
          rfl
  | scalar value =>
      cases runtime with
      | buffer slot => cases done
      | scalar number =>
          cases done
          rfl
  | sequence elements => cases done
  | lazy produce => cases done

theorem stays_seedFrom (position : Nat) (pairs : List (Capture σ × RuntimeArgument))
    (fits : forall pair, pair ∈ pairs -> forall token value, pair.1.identity? = some token ->
      value.index? = none -> allowed token value) :
    Stays log allowed (seedFrom position pairs) := by
  intro kernels space?
  induction pairs generalizing position with
  | nil => exact .pure ()
  | cons pair rest inductionHypothesis =>
      rw [List.forall_mem_cons] at fits
      refine Outcome.Preserves.bind ?_ fun _ => inductionHypothesis (position + 1) fits.2
      refine (stays_argumentValue logs position pair.1 pair.2 kernels space?).bind
        fun {value _ _} given => ?_
      cases identity : pair.1.identity? with
      | none => exact .pure ()
      | some token =>
          exact stays_record (fits.1 token value identity (index?_of_argumentValue given)) kernels
            space?

/-- Recording the arguments of a pass. -/
theorem Within.seedArguments {pass : Pass β σ} (inside : pass.Within log kernels space? allowed)
    (fits : forall token value, token ∈ pass.arguments.captures.filterMap Capture.identity? ->
      value.index? = none -> allowed token value) :
    (Outcome.state (Pass.seedArguments pass)).Within log kernels space? allowed := by
  have pairsFit : forall pair, pair ∈ pass.arguments.pairs -> forall token value,
      pair.1.identity? = some token -> value.index? = none -> allowed token value := by
    intro pair member token value identity noIndex
    have captured := (List.of_mem_zip member).1
    exact fits token value (List.mem_filterMap.mpr ⟨pair.1, captured, identity⟩) noIndex
  unfold Pass.seedArguments
  rw [Outcome.bind_of_ok (get_apply pass)]
  dsimp only
  split
  · exact stays_seedFrom logs 0 _ pairsFit kernels space? pass inside
  · exact inside

/-! ## Captured values -/

theorem stays_materialize (failure : CaptureFault -> NestError) {handle : ArrayHandle}
    (fits : forall array, allowed handle.id (.array array)) :
    Stays (σ := σ) log allowed (materialize failure handle.record) := by
  intro kernels space?
  have making {operation : EStateM BackendError β NativeArray}
      (kept : Outcome.Keeps log operation) :
      Outcome.Preserves (Within log kernels space? allowed)
        (do
          let array <- onBackend operation
          record handle.id (.array array)
          pure (some (NativeValue.array array)) : PassM β σ (Option NativeValue)) :=
    (stays_onBackend kept kernels space?).bind fun _ =>
      (stays_record (fits _) kernels space?).bind fun _ => .pure _
  rw [materialize_handle]
  cases handle.source with
  | temporary => exact making (logs.allocate _ _)
  | constant data => exact making (logs.resolveConstant _ _ _)
  | input => exact .pure none
  | inputOutput => exact .pure none

theorem stays_resolveCapture (failure : CaptureFault -> NestError) {capture : Capture σ}
    (fits : forall handle, capture = .array handle -> forall array,
      allowed handle.id (.array array)) :
    Stays log allowed (resolveCapture failure capture) := by
  intro kernels space?
  refine Outcome.Preserves.get.bind fun {pass _ _} _ => ?_
  cases pass.lookup? capture with
  | some value => exact .pure _
  | none =>
      cases capture with
      | array handle =>
          exact (stays_materialize logs failure (fits handle rfl) kernels space?).bind
            fun _ => .pure _
      | index loop => exact .pure none
      | scalar value => exact .pure none
      | deferred value => exact (stays_onStore _ _ kernels space?).bind fun _ => .pure _
      | sequence elements =>
          exact (stays_resolveElements failure elements kernels space?).bind fun _ => .pure _
      | lazy produce =>
          refine (stays_onStore _ _ kernels space?).bind fun {elements _ _} _ => ?_
          exact (stays_resolveElements failure elements kernels space?).bind fun _ => .pure _

theorem stays_resolveAll (logic : String) {entries : List (String × Capture σ)}
    (fits : forall handle, .array handle ∈ entries.map Prod.snd -> forall array,
      allowed handle.id (.array array)) :
    Stays log allowed (resolveAll logic entries) := by
  intro kernels space?
  induction entries with
  | nil => exact .pure []
  | cons entry rest inductionHypothesis =>
      rcases entry with ⟨name, capture⟩
      have first : forall handle, capture = .array handle -> forall array,
          allowed handle.id (.array array) := by
        rintro handle rfl
        exact fits handle List.mem_cons_self
      have later : forall handle, .array handle ∈ rest.map Prod.snd -> forall array,
          allowed handle.id (.array array) := fun handle member =>
        fits handle (List.mem_cons_of_mem _ member)
      rw [resolveAll_cons]
      refine (stays_resolveCapture logs _ first kernels space?).bind fun _ => ?_
      exact (inductionHypothesis later).bind fun _ => .pure _

/-- The replacement under a name is what resolving the captured value gave at
some moment at which the pass stood as before. -/
theorem exists_moment {logic : String} {entries : List (String × Capture σ)}
    (fits : forall handle, .array handle ∈ entries.map Prod.snd -> forall array,
      allowed handle.id (.array array))
    (distinct : (entries.map Prod.fst).Nodup) {pass final : Pass β σ}
    {replacements : List (String × Replacement)}
    (resolved : resolveAll logic entries pass = .ok replacements final)
    (inside : pass.Within log kernels space? allowed) {name : String} {capture : Capture σ}
    (captured : (name, capture) ∈ entries) :
    ∃ before after, before.Within log kernels space? allowed ∧
      resolveCapture (.captureResolution logic name) capture before =
        .ok (replacements.lookup name) after := by
  induction entries generalizing pass replacements with
  | nil => exact absurd captured List.not_mem_nil
  | cons entry rest inductionHypothesis =>
      rcases entry with ⟨first, value⟩
      rcases resolveAll_cons_eq_ok_iff.mp resolved with
        ⟨replacement?, middle, others, begun, later, rfl⟩
      rw [List.map_cons, List.nodup_cons] at distinct
      rcases List.mem_cons.mp captured with same | member
      · cases same
        rw [lookup_own (lookup_of_notMem later distinct.1)]
        exact ⟨pass, middle, inside, begun⟩
      · have listed : name ∈ rest.map Prod.fst := List.mem_map_of_mem member
        have different : name ≠ first := by
          rintro rfl
          exact distinct.1 listed
        have firstFits : forall handle, value = .array handle -> forall array,
            allowed handle.id (.array array) := by
          rintro handle rfl
          exact fits handle List.mem_cons_self
        have insideMiddle := (stays_resolveCapture logs _ firstFits kernels space?).of_ok begun
          inside
        rw [lookup_later different]
        exact inductionHypothesis (fun handle member => fits handle (List.mem_cons_of_mem _ member))
          distinct.2 later insideMiddle member

omit logs

/-- A native index in a replacement is an entry of the identity map. -/
theorem Within.allowed_of_index {failure : CaptureFault -> NestError} {capture : Capture σ}
    {pass after : Pass β σ} {replacement : Replacement} {index : NativeIndex}
    (inside : pass.Within log kernels space? allowed)
    (done : resolveCapture failure capture pass = .ok (some replacement) after)
    (member : .index index ∈ replacement.natives) : ∃ token, allowed token (.index index) := by
  have entered {element : Capture σ} {value : NativeValue}
      (found : pass.lookup? element = some value) : ∃ token, allowed token value := by
    rcases Option.bind_eq_some_iff.mp found with ⟨token, _, entry⟩
    exact ⟨token, inside.entries entry⟩
  cases entry : pass.lookup? capture with
  | some value =>
      rw [resolveCapture_of_mapped failure entry] at done
      cases done
      cases List.mem_singleton.mp member
      exact entered entry
  | none =>
      cases sequence : capture.elements? with
      | none =>
          rw [resolveCapture_of_unmapped failure entry] at done
          cases capture with
          | index loop => cases done
          | scalar value => cases done
          | array handle =>
              rcases (Outcome.bind_eq_ok_iff _ _ _ _ _).mp done with ⟨value?, middle, made, last⟩
              rcases materialize_of_ok made with ⟨_, rfl, _⟩ | ⟨_, array, _, _, rfl, _⟩
              · cases last
              · cases last
                cases List.mem_singleton.mp member
          | deferred value =>
              rcases (Outcome.bind_eq_ok_iff _ _ _ _ _).mp done with ⟨number, middle, _, last⟩
              cases last
              cases List.mem_singleton.mp member
          | sequence elements => cases sequence
          | lazy produce => cases sequence
      | some produce =>
          rw [resolveCapture_of_sequence sequence] at done
          cases produced : produce pass.store with
          | error reason store =>
              rw [produced] at done
              cases done
          | ok elements store =>
              rw [produced] at done
              dsimp only [listed] at done
              cases entries : ({ pass with store } : Pass β σ).mappedFrom 0 elements with
              | error fault =>
                  rw [entries] at done
                  cases done
              | ok values =>
                  rw [entries] at done
                  cases done
                  have listing := eq_filterMap_of_mappedFrom entries
                  change NativeValue.index index ∈ values at member
                  rw [listing] at member
                  rcases List.mem_filterMap.mp member with ⟨element, _, found⟩
                  exact entered found

/-- A loop index is replaced by its entry, and goes through without one. -/
theorem resolveCapture_index (failure : CaptureFault -> NestError) (loop : LoopIndex)
    (pass : Pass β σ) :
    resolveCapture failure (.index loop) pass =
      .ok (pass.identities[loop.id]?.map Replacement.value) pass := by
  have entry : pass.lookup? (.index loop) = pass.identities[loop.id]? := rfl
  cases found : pass.identities[loop.id]? with
  | some value => exact resolveCapture_of_mapped failure (entry.trans found)
  | none => exact resolveCapture_of_unmapped failure (entry.trans found)

end Pass

end LoopNest
