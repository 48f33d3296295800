import LoopNest.Nest.Build
import LoopNest.Proofs.Declaration.Slots

namespace LoopNest

/-!
# What the parts of a pass are composed of

There is not much that a part of a pass does by itself: it reads the state, throws
an error, uses the backend, runs a rule of the client, records an entry, or enters
a space.  Everything else is one of these after the other.

So what each of them keeps is kept by every part, whatever its outcome is.  The
parts are taken apart here, once; the errors that they throw themselves and the
rules that they run are left open.
-/

/-- A property that rules of a client may have, whatever they give. -/
abbrev Store.RuleProperty (σ : Type) :=
  forall ε α : Type, EStateM ε (Store σ) α -> Prop

/-- Every rule that resolving the value runs is admitted. -/
def Capture.RunsOnly {σ : Type} (admitted : Store.RuleProperty σ) : Capture σ -> Prop
  | .deferred value => admitted _ _ value.resolve
  | .lazy produce => admitted _ _ produce
  | .index _ => True
  | .array _ => True
  | .scalar _ => True
  | .sequence _ => True

/-- A fault that a sequence can have, but not an array. -/
def CaptureFault.OfSequence : CaptureFault -> Prop
  | .missingData => False
  | .production _ => True
  | .unmapped _ _ => True

namespace Pass

variable {β σ : Type}

/-- The program is composed of single operations.  The errors that it throws are
causes, and the rules that it runs are admitted. -/
inductive Composed (causes : NestError -> Prop) (admitted : Store.RuleProperty σ) :
    forall {α : Type}, PassM β σ α -> Prop
  | pure {α : Type} (value : α) : Composed causes admitted (Pure.pure value : PassM β σ α)
  | throw {α : Type} {error : NestError} (cause : causes error) :
      Composed causes admitted (MonadExcept.throw error : PassM β σ α)
  | bind {α γ : Type} {first : PassM β σ α} {next : α -> PassM β σ γ}
      (begun : Composed causes admitted first)
      (continued : forall value, Composed causes admitted (next value)) :
      Composed causes admitted (first >>= next)
  | get : Composed causes admitted (MonadState.get : PassM β σ (Pass β σ))
  | onBackend {α : Type} (cause : forall fault, causes (.backend fault))
      (operation : EStateM BackendError β α) : Composed causes admitted (Pass.onBackend operation)
  | onStore {ε α : Type} {failure : ε -> NestError} (cause : forall fault, causes (failure fault))
      {rule : EStateM ε (Store σ) α} (runs : admitted ε α rule) :
      Composed causes admitted (Pass.onStore failure rule)
  | record (token : Token) (value : NativeValue) :
      Composed causes admitted (Pass.record token value)
  | enterSpace (space : NativeSpace) : Composed causes admitted (Pass.enterSpace space)

variable {causes : NestError -> Prop} {admitted : Store.RuleProperty σ}

/-- What all rules that a program runs keep of the store, the program keeps. -/
theorem Composed.keeps {α γ : Type} {observe : Store σ -> γ} {program : PassM β σ α}
    (composed : Composed causes (fun _ _ rule => Outcome.Keeps observe rule) program) :
    Outcome.Keeps (fun pass => observe pass.store) program := by
  induction composed with
  | pure value => exact .pure value
  | throw _ => exact .throw _
  | bind _ _ first next => exact first.bind next
  | get => exact .get
  | onBackend _ operation =>
      intro pass
      unfold Pass.onBackend
      cases operation pass.backend <;> rfl
  | @onStore _ _ _ _ rule runs =>
      intro pass
      unfold Pass.onStore
      cases outcome : rule pass.store with
      | ok value store => exact runs.of_ok outcome
      | error error store => exact runs.of_error outcome
  | record token value => exact fun _ => rfl
  | enterSpace space => exact fun _ => rfl

/-- The fault of a sequence is an element without an entry. -/
theorem ofSequence_of_mappedFrom {pass : Pass β σ} {position : Nat} {elements : List (Capture σ)}
    {fault : CaptureFault} (entries : pass.mappedFrom position elements = .error fault) :
    fault.OfSequence := by
  induction elements generalizing position with
  | nil => cases entries
  | cons element rest inductionHypothesis =>
      rw [mappedFrom] at entries
      cases entry : pass.lookup? element with
      | some value =>
          simp only [entry] at entries
          cases later : pass.mappedFrom (position + 1) rest with
          | ok values =>
              rw [later] at entries
              cases entries
          | error other =>
              rw [later] at entries
              cases entries
              exact inductionHypothesis later
      | none =>
          simp only [entry] at entries
          split at entries
          · cases entries
            trivial
          · exact inductionHypothesis entries

/-- A sequence without an entry for each of its elements may be at fault. -/
theorem composed_resolveElements {failure : CaptureFault -> NestError}
    (sequence : forall fault, fault.OfSequence -> causes (failure fault))
    (elements : List (Capture σ)) :
    Composed (β := β) causes admitted (resolveElements failure elements) := by
  refine Composed.get.bind fun pass => ?_
  cases entries : pass.mappedFrom 0 elements with
  | ok values => exact .pure _
  | error fault => exact .throw (sequence fault (ofSequence_of_mappedFrom entries))

variable [Backend σ β]

/-! ## Arguments -/

theorem composed_argumentValue (argument : forall position fault,
      causes (.argumentMismatch position fault))
    (backend : forall fault, causes (.backend fault)) (position : Nat) (capture : Capture σ)
    (runtime : RuntimeArgument) :
    Composed (β := β) causes admitted (argumentValue position capture runtime) := by
  cases capture with
  | array handle =>
      cases runtime with
      | buffer slot => exact (Composed.onBackend backend _).bind fun _ => .pure _
      | scalar value => exact .throw (argument _ _)
  | deferred value =>
      cases runtime with
      | buffer slot => exact .throw (argument _ _)
      | scalar number => exact .pure _
  | index loop =>
      cases runtime with
      | buffer slot => exact .throw (argument _ _)
      | scalar number => exact .pure _
  | scalar value =>
      cases runtime with
      | buffer slot => exact .throw (argument _ _)
      | scalar number => exact .pure _
  | sequence elements => exact .throw (argument _ _)
  | lazy produce => exact .throw (argument _ _)

theorem composed_seedFrom (argument : forall position fault,
      causes (.argumentMismatch position fault))
    (backend : forall fault, causes (.backend fault)) (position : Nat)
    (pairs : List (Capture σ × RuntimeArgument)) :
    Composed (β := β) causes admitted (seedFrom position pairs) := by
  induction pairs generalizing position with
  | nil => exact .pure ()
  | cons pair rest inductionHypothesis =>
      refine Composed.bind ?_ fun _ => inductionHypothesis (position + 1)
      refine (composed_argumentValue argument backend position pair.1 pair.2).bind fun value => ?_
      cases pair.1.identity? with
      | some token => exact .record token value
      | none => exact .pure ()

theorem composed_seedArguments (argument : forall position fault,
      causes (.argumentMismatch position fault))
    (backend : forall fault, causes (.backend fault)) :
    Composed (β := β) (σ := σ) causes admitted seedArguments := by
  refine Composed.get.bind fun pass => ?_
  dsimp only
  split
  · exact composed_seedFrom argument backend 0 _
  · exact .throw (argument _ _)

/-! ## Captured values -/

/-- Only a constant without data is at fault itself. -/
theorem composed_materialize {failure : CaptureFault -> NestError} {array : ArrayRecord}
    (backend : forall fault, causes (.backend fault))
    (missing : array.role = .constant -> array.data? = none -> causes (failure .missingData)) :
    Composed (β := β) causes admitted (materialize failure array) := by
  have recorded (native : NativeArray) :
      Composed (σ := σ) causes admitted
        (do
          record array.id (.array native)
          pure (some (NativeValue.array native)) : PassM β σ (Option NativeValue)) :=
    (Composed.record _ _).bind fun _ => .pure _
  unfold materialize
  cases role : array.role with
  | temporary => exact (Composed.onBackend backend _).bind recorded
  | constant =>
      cases data : array.data? with
      | none => exact (Composed.throw (missing role data)).bind recorded
      | some data => exact (Composed.onBackend backend _).bind recorded
  | input => exact .pure none
  | inputOutput => exact .pure none

/-- Of the causes of the capture itself only a sequence makes use. -/
theorem composed_resolveCapture {failure : CaptureFault -> NestError} {capture : Capture σ}
    (backend : forall fault, causes (.backend fault))
    (deferred : forall fault, causes (.unresolvableDeferred fault))
    (sequence : capture.elements?.isSome = true -> forall fault, fault.OfSequence ->
      causes (failure fault))
    (runs : capture.RunsOnly admitted) :
    Composed (β := β) causes admitted (resolveCapture failure capture) := by
  refine Composed.get.bind fun pass => ?_
  cases pass.lookup? capture with
  | some value => exact .pure _
  | none =>
      cases capture with
      | array handle =>
          have missing (constant : handle.role = .constant) (bare : handle.data? = none) :
              causes (failure .missingData) :=
            absurd bare (handle.data?_ne_none constant)
          exact (composed_materialize backend missing).bind fun _ => .pure _
      | index loop => exact .pure none
      | scalar value => exact .pure none
      | deferred value => exact (Composed.onStore deferred runs).bind fun _ => .pure _
      | sequence elements =>
          exact (composed_resolveElements (sequence rfl) elements).bind fun _ => .pure _
      | lazy produce =>
          have production (reason : String) : causes (failure (.production reason)) :=
            sequence rfl _ trivial
          refine (Composed.onStore production runs).bind fun elements => ?_
          exact (composed_resolveElements (sequence rfl) elements).bind fun _ => .pure _

/-- What is put together in the end is the same for all values. -/
theorem resolveAll_cons (logic name : String) (capture : Capture σ)
    (rest : List (String × Capture σ)) :
    (resolveAll logic ((name, capture) :: rest) : PassM β σ (List (String × Replacement))) =
      (resolveCapture (.captureResolution logic name) capture >>= fun replacement? =>
        resolveAll logic rest >>= fun others =>
          pure ((replacement?.map fun replacement => (name, replacement)).toList ++ others)) := by
  rw [resolveAll]
  congr
  funext replacement?
  cases replacement? <;> rfl

theorem resolveAll_cons_eq_ok_iff {logic name : String} {capture : Capture σ}
    {rest : List (String × Capture σ)} {pass after : Pass β σ}
    {replacements : List (String × Replacement)} :
    resolveAll logic ((name, capture) :: rest) pass = .ok replacements after <->
      ∃ replacement? middle others,
        resolveCapture (.captureResolution logic name) capture pass = .ok replacement? middle ∧
          resolveAll logic rest middle = .ok others after ∧
          replacements = (replacement?.map fun replacement => (name, replacement)).toList ++
            others := by
  rw [resolveAll_cons]
  simp only [Outcome.bind_eq_ok_iff, Outcome.pure_apply, EStateM.Result.ok.injEq]
  constructor
  · rintro ⟨replacement?, middle, first, others, last, later, same, rfl⟩
    exact ⟨replacement?, middle, others, first, later, same.symm⟩
  · rintro ⟨replacement?, middle, others, first, later, same⟩
    exact ⟨replacement?, middle, first, others, after, later, same.symm, rfl⟩

/-- The replacement of a value that is resolved later. -/
theorem lookup_later {name other : String} (different : other ≠ name)
    (replacement? : Option Replacement) (others : List (String × Replacement)) :
    ((replacement?.map fun replacement => (name, replacement)).toList ++ others).lookup other =
      others.lookup other := by
  have unequal : (other == name) = false := beq_eq_false_iff_ne.mpr different
  rw [List.lookup_append]
  cases replacement? <;> simp [List.lookup_cons, unequal]

/-- The replacement of a value whose name does not come up again. -/
theorem lookup_own {name : String} {others : List (String × Replacement)}
    (fresh : others.lookup name = none) (replacement? : Option Replacement) :
    ((replacement?.map fun replacement => (name, replacement)).toList ++ others).lookup name =
      replacement? := by
  rw [List.lookup_append, fresh, Option.or_none]
  cases replacement? <;> simp

/-- A name under which nothing is captured is not replaced. -/
theorem lookup_of_notMem {logic : String} {entries : List (String × Capture σ)}
    {pass after : Pass β σ} {replacements : List (String × Replacement)}
    (resolved : resolveAll logic entries pass = .ok replacements after) {name : String}
    (absent : name ∉ entries.map Prod.fst) : replacements.lookup name = none := by
  induction entries generalizing pass replacements with
  | nil =>
      cases resolved
      rfl
  | cons entry rest inductionHypothesis =>
      rcases resolveAll_cons_eq_ok_iff.mp resolved with
        ⟨replacement?, middle, others, _, later, rfl⟩
      rw [List.map_cons, List.mem_cons, not_or] at absent
      rw [lookup_later absent.1]
      exact inductionHypothesis later absent.2

theorem composed_resolveAll {logic : String} {entries : List (String × Capture σ)}
    (backend : forall fault, causes (.backend fault))
    (deferred : forall fault, causes (.unresolvableDeferred fault))
    (sequence : forall entry, entry ∈ entries -> entry.2.elements?.isSome = true ->
      forall fault, fault.OfSequence -> causes (.captureResolution logic entry.1 fault))
    (runs : forall entry, entry ∈ entries -> entry.2.RunsOnly admitted) :
    Composed (β := β) causes admitted (resolveAll logic entries) := by
  induction entries with
  | nil => exact .pure []
  | cons entry rest inductionHypothesis =>
      rw [List.forall_mem_cons] at sequence runs
      refine (composed_resolveCapture backend deferred sequence.1 runs.1).bind
        fun replacement? => ?_
      refine (inductionHypothesis sequence.2 runs.2).bind fun others => ?_
      cases replacement? with
      | none => exact .pure others
      | some replacement => exact .pure _

theorem composed_resolve {logic : LogicFunction σ} (backend : forall fault, causes (.backend fault))
    (deferred : forall fault, causes (.unresolvableDeferred fault))
    (sequence : forall entry, entry ∈ logic.captures -> entry.2.elements?.isSome = true ->
      forall fault, fault.OfSequence -> causes (.captureResolution logic.name entry.1 fault))
    (runs : forall entry, entry ∈ logic.captures -> entry.2.RunsOnly admitted) :
    Composed (β := β) causes admitted (resolve logic) :=
  (composed_resolveAll backend deferred sequence runs).bind fun entries =>
    .pure (Substitution.mk entries)

theorem addLogic_of_entered {pass : Pass β σ} {space : NativeSpace}
    (entered : pass.space = some space) (logic : LogicFunction σ) (scheduling : Scheduling) :
    addLogic logic scheduling pass =
      (resolveAll logic.name logic.captures >>= fun entries =>
        onBackend (Backend.addKernel space (Kernel.ofLogic logic ⟨entries⟩) scheduling.predicate
          scheduling.placement)) pass := by
  have started : (get : PassM β σ (Pass β σ)) pass = .ok pass pass := rfl
  unfold addLogic resolve
  rw [Outcome.bind_of_ok started, entered]
  simp only [bind_assoc, pure_bind]

end Pass

namespace Nest

variable {β σ : Type} {causes : NestError -> Prop} {admitted : Store.RuleProperty σ}

open Pass (Composed)

theorem composed_seedIndices (entries : List (LoopIndex × NativeIndex)) :
    Composed (β := β) causes admitted (seedIndices entries) := by
  induction entries with
  | nil => exact .pure ()
  | cons entry rest inductionHypothesis =>
      exact (Composed.record _ _).bind fun _ => inductionHypothesis

variable [Backend σ β]

theorem composed_buildSpace (all : forall error, causes error) (nest : Nest σ) :
    Composed (β := β) causes admitted nest.buildSpace := by
  unfold buildSpace
  cases nest.extents with
  | error error => exact .throw (all error)
  | ok numbers =>
      refine (Pass.composed_seedArguments (fun _ _ => all _) fun _ => all _).bind fun _ => ?_
      refine (Composed.onBackend (fun _ => all _) _).bind fun space => ?_
      split
      · exact (composed_seedIndices _).bind fun _ => .enterSpace space
      · exact .throw (all _)

end Nest

end LoopNest
