import LoopNest.Pass.Seeding
import LoopNest.Proofs.Pass.Basic

namespace LoopNest

/-!
# What seeding records

On a recorder, an argument is recorded when it fits what the caller supplies
for it: an array takes a buffer, and any other value with a token takes a
scalar.  Recording one argument writes the entry of its own token and may log
one array; nothing else of the pass changes.

An entry that is written again is lost.  So after a run of arguments the entry
of a token is that of the last argument which carries it, and a token that no
argument carries keeps the entry it had.
-/

namespace Capture

variable {σ : Type}

/-- The handle of a captured array. -/
def handle? : Capture σ -> Option ArrayHandle
  | .array handle => some handle
  | .deferred _ => none
  | .index _ => none
  | .scalar _ => none
  | .sequence _ => none
  | .lazy _ => none

/-- The argument fits what the caller supplies for it. -/
def Takes : Capture σ -> RuntimeArgument -> Prop
  | .array _, .buffer _ => True
  | .array _, .scalar _ => False
  | .deferred _, .scalar _ => True
  | .index _, .scalar _ => True
  | .scalar _, .scalar _ => True
  | .deferred _, .buffer _ => False
  | .index _, .buffer _ => False
  | .scalar _, .buffer _ => False
  | .sequence _, _ => False
  | .lazy _, _ => False

/-- An argument that fits carries a token. -/
theorem Takes.identity {capture : Capture σ} {runtime : RuntimeArgument}
    (takes : capture.Takes runtime) : ∃ token, capture.identity? = some token := by
  cases capture with
  | deferred value => exact ⟨value.id, rfl⟩
  | index loop => exact ⟨loop.id, rfl⟩
  | array handle => exact ⟨handle.id, rfl⟩
  | scalar value => exact ⟨value.id, rfl⟩
  | sequence elements => exact False.elim takes
  | lazy produce => exact False.elim takes

/-- A backend value that an argument may have: an array that wraps the buffer
has the element type of the handle, and a scalar is its own value. -/
inductive Receives : Capture σ -> RuntimeArgument -> NativeValue -> Prop
  | buffer {handle : ArrayHandle} {slot : UInt32} {array : NativeArray}
      (elementType : array.elementType = handle.elementType)
      (origin : array.origin = .argument) : Receives (.array handle) (.buffer slot) (.array array)
  | scalar {capture : Capture σ} {value : Scalar} (takes : capture.Takes (.scalar value)) :
      Receives capture (.scalar value) (.scalar value)

end Capture

namespace Arguments

variable {σ : Type}

/-- The arguments with what the caller supplies for them. -/
def pairs (arguments : Arguments σ) : List (Capture σ × RuntimeArgument) :=
  arguments.captures.zip arguments.runtime

/-- The last pair whose argument carries the token. -/
def lastOf? (token : Token) (pairs : List (Capture σ × RuntimeArgument)) :
    Option (Capture σ × RuntimeArgument) :=
  pairs.reverse.find? fun pair => decide (pair.1.identity? = some token)

theorem lastOf?_cons (token : Token) (pair : Capture σ × RuntimeArgument)
    (rest : List (Capture σ × RuntimeArgument)) :
    lastOf? token (pair :: rest) =
      (lastOf? token rest).or (if pair.1.identity? = some token then some pair else none) := by
  unfold lastOf?
  rw [List.reverse_cons, List.find?_append, List.find?_singleton]
  simp only [decide_eq_true_eq]

theorem isSome_lastOf?_iff (token : Token) (pairs : List (Capture σ × RuntimeArgument)) :
    (lastOf? token pairs).isSome = true <->
      ∃ pair, pair ∈ pairs ∧ pair.1.identity? = some token := by
  simp [lastOf?]

end Arguments

namespace Pass

variable {σ : Type}

/-- What recording one argument does. -/
inductive Seeded (pass : Pass (Recorder σ) σ) :
    Capture σ -> RuntimeArgument -> Pass (Recorder σ) σ -> Prop
  | buffer (handle : ArrayHandle) (slot : UInt32)
      (accepted : BackendOperation.wrapArgument ∉ pass.backend.rejected) :
      Seeded pass (.array handle) (.buffer slot) (pass.withArray handle .argument)
  | scalar {capture : Capture σ} {token : Token} {value : Scalar}
      (takes : capture.Takes (.scalar value)) (identity : capture.identity? = some token) :
      Seeded pass capture (.scalar value)
        { pass with identities := pass.identities.insert token (.scalar value) }

theorem seedArgument_buffer_eq_ok_iff (position : Nat) (handle : ArrayHandle) (slot : UInt32)
    (pass after : Pass (Recorder σ) σ) :
    seedArgument position (.array handle) (.buffer slot) pass = .ok () after <->
      BackendOperation.wrapArgument ∉ pass.backend.rejected ∧
        after = pass.withArray handle .argument := by
  unfold seedArgument argumentValue
  simp only [bind_assoc, pure_bind, Outcome.bind_eq_ok_iff, onBackend_eq_ok_iff]
  constructor
  · rintro ⟨array, middle, ⟨backend, wrapped, rfl⟩, recorded⟩
    rcases (Recorder.wrapArgument_eq_ok_iff _ _ _ _ _ _).mp wrapped with ⟨accepted, rfl, rfl⟩
    cases recorded
    exact ⟨accepted, rfl⟩
  · rintro ⟨accepted, rfl⟩
    have wrapped := (Recorder.wrapArgument_eq_ok_iff handle.elementType handle.layout slot
      pass.backend _ _).mpr ⟨accepted, rfl, rfl⟩
    exact ⟨_, _, ⟨_, wrapped, rfl⟩, rfl⟩

theorem seedArgument_eq_ok_iff (position : Nat) (capture : Capture σ) (runtime : RuntimeArgument)
    (pass after : Pass (Recorder σ) σ) :
    seedArgument position capture runtime pass = .ok () after <->
      Seeded pass capture runtime after := by
  constructor
  · intro done
    cases capture with
    | array handle =>
        cases runtime with
        | buffer slot =>
            rcases (seedArgument_buffer_eq_ok_iff _ _ _ _ _).mp done with ⟨accepted, rfl⟩
            exact .buffer handle slot accepted
        | scalar value => cases done
    | deferred value =>
        cases runtime with
        | buffer slot => cases done
        | scalar number =>
            cases done
            exact .scalar trivial rfl
    | index loop =>
        cases runtime with
        | buffer slot => cases done
        | scalar number =>
            cases done
            exact .scalar trivial rfl
    | scalar value =>
        cases runtime with
        | buffer slot => cases done
        | scalar number =>
            cases done
            exact .scalar trivial rfl
    | sequence elements => cases done
    | lazy produce => cases done
  · intro seeded
    cases seeded with
    | buffer handle slot accepted =>
        exact (seedArgument_buffer_eq_ok_iff _ _ _ _ _).mpr ⟨accepted, rfl⟩
    | scalar takes identity =>
        cases capture with
        | array handle => exact False.elim takes
        | deferred value =>
            cases identity
            rfl
        | index loop =>
            cases identity
            rfl
        | scalar value =>
            cases identity
            rfl
        | sequence elements => cases identity
        | lazy produce => cases identity

theorem Seeded.continues {pass after : Pass (Recorder σ) σ} {capture : Capture σ}
    {runtime : RuntimeArgument} (seeded : Seeded pass capture runtime after) :
    Continues pass after := by
  cases seeded with
  | buffer handle slot accepted => exact continues_withArray pass handle .argument
  | scalar takes identity => exact ⟨rfl, rfl, rfl, rfl⟩

theorem Seeded.takes {pass after : Pass (Recorder σ) σ} {capture : Capture σ}
    {runtime : RuntimeArgument} (seeded : Seeded pass capture runtime after) :
    capture.Takes runtime := by
  cases seeded with
  | buffer handle slot accepted => trivial
  | scalar takes identity => exact takes

/-- The one entry that is written. -/
theorem Seeded.entry {pass after : Pass (Recorder σ) σ} {capture : Capture σ}
    {runtime : RuntimeArgument} (seeded : Seeded pass capture runtime after) :
    ∃ token value, capture.identity? = some token ∧ capture.Receives runtime value ∧
      after.identities = pass.identities.insert token value := by
  cases seeded with
  | buffer handle slot accepted => exact ⟨handle.id, _, rfl, .buffer rfl rfl, rfl⟩
  | scalar takes identity => exact ⟨_, _, identity, .scalar takes, rfl⟩

/-- What recording arguments in order does. -/
structure SeedsAll (pairs : List (Capture σ × RuntimeArgument))
    (before after : Pass (Recorder σ) σ) : Prop where
  continues : Continues before after
  store : after.store = before.store
  kernels : after.backend.kernels = before.backend.kernels
  last : forall token pair, Arguments.lastOf? token pairs = some pair ->
    ∃ value, after.identities[token]? = some value ∧ pair.1.Receives pair.2 value
  others : forall token, Arguments.lastOf? token pairs = none ->
    after.identities[token]? = before.identities[token]?

theorem SeedsAll.nil (pass : Pass (Recorder σ) σ) : SeedsAll [] pass pass :=
  by
  refine ⟨.refl pass, rfl, rfl, ?_, fun _ _ => rfl⟩
  intro token pair absent
  cases absent

theorem SeedsAll.cons {before middle after : Pass (Recorder σ) σ} {capture : Capture σ}
    {runtime : RuntimeArgument} {rest : List (Capture σ × RuntimeArgument)}
    (first : Seeded before capture runtime middle) (later : SeedsAll rest middle after) :
    SeedsAll ((capture, runtime) :: rest) before after := by
  rcases first.entry with ⟨carried, written, identity, receives, entries⟩
  have unchanged : middle.store = before.store ∧
      middle.backend.kernels = before.backend.kernels := by
    cases first with
    | buffer handle slot accepted => exact ⟨rfl, rfl⟩
    | scalar takes identity => exact ⟨rfl, rfl⟩
  refine ⟨first.continues.trans later.continues, later.store.trans unchanged.1,
    later.kernels.trans unchanged.2, ?_, ?_⟩
  · intro token pair isLast
    rw [Arguments.lastOf?_cons] at isLast
    cases found : Arguments.lastOf? token rest with
    | some lastPair =>
        rw [found] at isLast
        cases isLast
        exact later.last token pair found
    | none =>
        rw [found, Option.none_or] at isLast
        by_cases same : capture.identity? = some token
        · rw [if_pos same] at isLast
          cases isLast
          rw [identity, Option.some.injEq] at same
          subst same
          have kept := later.others carried found
          rw [entries, Std.ExtTreeMap.getElem?_insert_self] at kept
          exact ⟨written, kept, receives⟩
        · rw [if_neg same] at isLast
          cases isLast
  · intro token absent
    rw [Arguments.lastOf?_cons, Option.or_eq_none_iff] at absent
    have different : carried ≠ token := by
      intro same
      rw [if_pos (identity.trans (congrArg some same))] at absent
      exact nomatch absent.2
    rw [later.others token absent.1, entries, IdentityMap.getElem?_insert_of_ne different]

/-- A run that gives a result recorded all arguments. -/
theorem seedsAll_of_ok {position : Nat} {pairs : List (Capture σ × RuntimeArgument)}
    {pass after : Pass (Recorder σ) σ} (done : seedFrom position pairs pass = .ok () after) :
    SeedsAll pairs pass after := by
  induction pairs generalizing position pass with
  | nil =>
      cases done
      exact .nil _
  | cons pair rest inductionHypothesis =>
      rcases (Outcome.bind_eq_ok_iff _ _ _ _ _).mp done with ⟨_, middle, first, later⟩
      exact .cons ((seedArgument_eq_ok_iff _ _ _ _ _).mp first) (inductionHypothesis later)

/-- Lists of arguments of different lengths are refused at the end of the shorter
one. -/
theorem seedArguments_of_length_ne {pass : Pass (Recorder σ) σ}
    (different : pass.arguments.captures.length ≠ pass.arguments.runtime.length) :
    seedArguments pass =
      .error (.argumentMismatch
        (min pass.arguments.captures.length pass.arguments.runtime.length)
        (.counts pass.arguments.captures.length pass.arguments.runtime.length)) pass :=
  congrFun (if_neg different) pass

theorem seedArguments_of_length_eq {pass : Pass (Recorder σ) σ}
    (equal : pass.arguments.captures.length = pass.arguments.runtime.length) :
    seedArguments pass = seedFrom 0 pass.arguments.pairs pass :=
  congrFun (if_pos equal) pass

/-- The two lists are compared first, and then the arguments are recorded. -/
theorem seedArguments_eq_ok_iff (pass after : Pass (Recorder σ) σ) (done : Unit) :
    seedArguments pass = .ok done after <->
      pass.arguments.captures.length = pass.arguments.runtime.length ∧
        seedFrom 0 pass.arguments.pairs pass = .ok done after := by
  by_cases equal : pass.arguments.captures.length = pass.arguments.runtime.length
  · rw [seedArguments_of_length_eq equal]
    exact (and_iff_right equal).symm
  · rw [seedArguments_of_length_ne equal]
    constructor
    · intro impossible
      cases impossible
    · intro counted
      exact absurd counted.1 equal

end Pass

end LoopNest
