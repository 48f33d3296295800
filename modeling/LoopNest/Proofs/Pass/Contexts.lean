import LoopNest.Proofs.Native.Calls
import LoopNest.Proofs.Pass.Provenance

namespace LoopNest

/-!
# Contexts that are used piece by piece

The parts of a pass can also be used one by one: a client may build the spaces
of several nests in one context, replay their commands in any order, resolve
logic functions by themselves, and go on after a failure.  Nests may come from
different arenas, whose tokens coincide.

In every state that is reached so, each entry of the identity map that is an
array or an index was logged by the backend, no two tokens have the same one,
and the space of the context is recorded.  Entries are written over again and
again; they stay distinct because every array and every index that is written
was handed out just then.
-/

namespace Nest

variable {σ : Type}

/-- A nest as clients get it: declared in some arena, with logic attached and
extents replayed at any time. -/
inductive Declared : Nest σ -> Prop
  | declare (shape : List (Extent σ)) (arena : Arena) : Declared ((Nest.declare shape).run arena).1
  | attach {nest : Nest σ} (declared : Declared nest) (logic : LogicFunction σ)
      (scheduling : Scheduling) : Declared (nest.attach logic scheduling)
  | replay {nest replayed : Nest σ} {store after : Store σ} (declared : Declared nest)
      (done : nest.replayDeferred store = .ok replayed after) : Declared replayed

/-- Loop indices that are declared together get tokens in sequence. -/
theorem token_of_declareMany {owner : NestId} {start count : Nat} {arena : Arena}
    {dimension : Nat} {index : LoopIndex}
    (found : ((LoopIndex.declareMany owner start count).run arena).1[dimension]? = some index) :
    index.id = ⟨UInt32.ofNat (arena.size + dimension)⟩ := by
  induction count generalizing start arena dimension with
  | zero => cases found
  | succ count inductionHypothesis =>
      cases dimension with
      | zero =>
          cases found
          rfl
      | succ dimension =>
          have later : index.id =
              ⟨UInt32.ofNat (Arena.size (Arena.issue .index arena).2 + dimension)⟩ :=
            inductionHypothesis found
          have counted : Arena.size (Arena.issue .index arena).2 = arena.size + 1 :=
            Arena.size_issue .index arena
          rw [later, counted, Nat.add_right_comm, Nat.add_assoc]

/-- The tokens of the loop indices of a nest are in sequence. -/
theorem Declared.tokens {nest : Nest σ} (declared : Declared nest) :
    ∃ first, forall {dimension : Nat} {index : LoopIndex},
      nest.ownIndices[dimension]? = some index ->
        index.id = ⟨UInt32.ofNat (first + dimension)⟩ := by
  induction declared with
  | declare shape arena =>
      refine ⟨(Arena.issueNest.run arena).2.size, ?_⟩
      intro dimension index found
      rw [ownIndices_declare] at found
      exact token_of_declareMany found
  | attach declared logic scheduling inductionHypothesis => exact inductionHypothesis
  | replay declared done inductionHypothesis =>
      rw [replayDeferred_eq] at done
      rcases (Outcome.bind_eq_ok_iff _ _ _ _ _).mp done with ⟨numbers, middle, resolved, last⟩
      cases last
      rw [ownIndices_withExtents _ (complete_of_mapM_resolve resolved)]
      exact inductionHypothesis

end Nest

namespace Pass

variable {σ : Type}

/-! ## States that a context reaches -/

/-- A use of a part of a pass. -/
inductive Call (σ : Type) where
  | build (nest : Nest σ)
  | replay (nest : Nest σ)
  | resolve (logic : LogicFunction σ)

/-- Do what a call asks for.  What resolving gives stays with the caller. -/
def perform : Call σ -> PassM (Recorder σ) σ Unit
  | .build nest => nest.buildSpace
  | .replay nest => nest.addKernels
  | .resolve logic => do
      let _ <- resolve logic
      pure ()

/-- The nest of the call, if there is one, is one that clients get. -/
def Call.Declared : Call σ -> Prop
  | .build nest => nest.Declared
  | .replay nest => nest.Declared
  | .resolve _ => True

/-- The states that a context over the backend reaches by calls, whatever their
outcomes are.  The store may be changed by others at any time. -/
inductive Reached (backend : Recorder σ) : Pass (Recorder σ) σ -> Prop
  | start (store : Store σ) (arguments : Arguments σ) (options : PassOptions) :
      Reached backend (Pass.start backend store arguments options)
  | perform {pass : Pass (Recorder σ) σ} (reached : Reached backend pass) {call : Call σ}
      (declared : call.Declared) : Reached backend (Outcome.state (perform call pass))
  | store {pass : Pass (Recorder σ) σ} (reached : Reached backend pass) (store : Store σ) :
      Reached backend { pass with store }

/-- No two tokens have one array or one native index. -/
def Distinct (identities : IdentityMap) : Prop :=
  forall (token other : Token) (native : NativeValue), identities[token]? = some native ->
    identities[other]? = some native -> token = other ∨ ∃ value, native = .scalar value

/-- An entry that is a scalar, or that no other token has, keeps entries
distinct. -/
theorem Distinct.insert {identities : IdentityMap} (distinct : Distinct identities)
    {written : Token} {native : NativeValue}
    (fresh : forall token : Token, identities[token]? = some native ->
      ∃ value, native = .scalar value) :
    Distinct (identities.insert written native) := by
  intro token other found first second
  rw [Std.ExtTreeMap.getElem?_insert] at first second
  split at first
  · next equal =>
      cases first
      split at second
      · next otherEqual =>
          left
          rw [← Std.LawfulEqOrd.eq_of_compare equal, Std.LawfulEqOrd.eq_of_compare otherEqual]
      · exact .inr (fresh other second)
  · split at second
    · cases second
      exact .inr (fresh token first)
    · exact distinct token other found first second

/-- What every reached state keeps: the entries were handed out since the
context began, they are distinct while numbers fit their words, and the space is
a recorded one. -/
structure Sound (base : Recorder σ) (pass : Pass (Recorder σ) σ) : Prop
    extends Grounded base pass where
  numbered : pass.backend.Numbered
  distinct : pass.backend.Fits -> Distinct pass.identities
  recorded : forall {space : NativeSpace}, pass.space = some space -> space ∈ pass.backend.spaces

section Sound

variable {base : Recorder σ} {pass after : Pass (Recorder σ) σ}

theorem sound_start (numbered : base.Numbered) (store : Store σ) (arguments : Arguments σ)
    (options : PassOptions) : Sound base (start base store arguments options) where
  toGrounded := grounded_start base store arguments options
  numbered := numbered
  distinct := by
    intro _ token other native found _
    have empty : (∅ : IdentityMap)[token]? = none := Std.ExtTreeMap.getElem?_empty
    rw [start, empty] at found
    cases found
  recorded := by
    intro space entered
    cases entered

/-- The array that is made next is no entry yet. -/
theorem Sound.nextArray_ne (sound : Sound base pass) {elementType : ElementType}
    {layout : Layout} {origin : ArrayOrigin}
    (fits : (pass.backend.withArray elementType layout origin).Fits) {token : Token}
    {native : NativeValue} (found : pass.identities[token]? = some native) :
    native ≠ .array (pass.backend.nextArray elementType origin) := by
  rintro rfl
  have grown : pass.backend.arrays.length + 1 <= UInt32.size := by
    have counted := fits.arrays
    rw [Recorder.withArray, List.length_append] at counted
    exact counted
  have number := ((sound.entries found).array_number sound.numbered (by omega)).2
  rw [Recorder.nextArray, UInt32.toNat_ofNat_of_lt' grown] at number
  exact absurd number (Nat.lt_irrefl _)

theorem Step.sound (step : Step pass after) (sound : Sound base pass) : Sound base after where
  toGrounded := step.grounded sound.toGrounded
  numbered := step.changes.numbered sound.numbered
  distinct := by
    intro fits
    have before := sound.distinct (fits.earlier step.changes.grows)
    cases step with
    | store store => exact before
    | kernel entry entered inside held => exact before
    | scalar token value => exact before.insert fun _ _ => ⟨value, rfl⟩
    | array handle origin =>
        exact before.insert fun _ found => absurd rfl (sound.nextArray_ne fits found)
  recorded := by
    intro space entered
    rw [step.continues.space] at entered
    rw [step.continues.spaces]
    exact sound.recorded entered

theorem Steps.sound (steps : Steps pass after) (sound : Sound base pass) : Sound base after := by
  induction steps with
  | refl => exact sound
  | tail _ step inductionHypothesis => exact step.sound inductionHypothesis

/-- An index of the space that is created next is no entry yet. -/
theorem Sound.nextSpace_ne (sound : Sound base pass) {numbers : List Int}
    (fits : (pass.backend.withSpace numbers).Fits) {token : Token} {index : NativeIndex}
    (found : pass.identities[token]? = some (.index index)) :
    index.space ≠ (pass.backend.nextSpace numbers).id := by
  intro same
  have grown : pass.backend.spaces.length + 1 <= UInt32.size := by
    have counted := fits.spaces
    rw [Recorder.withSpace, List.length_append] at counted
    exact counted
  cases sound.entries found with
  | @index position space _ later logged member =>
      have within := (List.getElem?_eq_some_iff.mp logged).1
      have number := sound.numbered.space_number (by omega) logged
      have next : (pass.backend.nextSpace numbers).id.raw.toNat = pass.backend.spaces.length :=
        UInt32.toNat_ofNat_of_lt' grown
      rw [← (sound.numbered.index logged member).1, same, next] at number
      omega

/-- The native index that a loop index is paired with tells its dimension. -/
theorem exists_dimension {indices : List LoopIndex} {recorder : Recorder σ} {numbers : List Int}
    {loop : LoopIndex} {native : NativeIndex}
    (member : (loop, native) ∈ indices.zip (recorder.nextSpace numbers).indices) :
    ∃ dimension : Nat, indices[dimension]? = some loop ∧
      native = ⟨(recorder.nextSpace numbers).id, UInt32.ofNat dimension⟩ := by
  rcases List.mem_iff_getElem?.mp member with ⟨dimension, paired⟩
  rcases List.getElem?_zip_eq_some.mp paired with ⟨found, foundNative⟩
  have within := (List.getElem?_eq_some_iff.mp foundNative).1
  rw [length_indices_nextSpace] at within
  rw [getElem?_indices_nextSpace recorder numbers within] at foundNative
  exact ⟨dimension, found, (Option.some.inj foundNative).symm⟩

/-- Two loop indices of a nest with one native index have one token. -/
theorem token_of_native {nest : Nest σ} (declared : nest.Declared) {recorder : Recorder σ}
    {numbers : List Int} {first second : LoopIndex} {native : NativeIndex}
    (member : (first, native) ∈ nest.ownIndices.zip (recorder.nextSpace numbers).indices)
    (otherMember : (second, native) ∈ nest.ownIndices.zip (recorder.nextSpace numbers).indices) :
    first.id = second.id := by
  rcases declared.tokens with ⟨start, tokens⟩
  rcases exists_dimension member with ⟨dimension, found, native_eq⟩
  rcases exists_dimension otherMember with ⟨otherDimension, otherFound, otherNative_eq⟩
  have same : UInt32.ofNat dimension = UInt32.ofNat otherDimension := by
    rw [native_eq] at otherNative_eq
    exact (NativeIndex.mk.inj otherNative_eq).2
  rw [tokens found, tokens otherFound, UInt32.ofNat_add, UInt32.ofNat_add, same]

theorem Sound.inSpace (sound : Sound base pass) {nest : Nest σ} (declared : nest.Declared)
    (numbers : List Int) : Sound base (pass.inSpace nest.ownIndices numbers) where
  toGrounded := sound.toGrounded.inSpace _ _
  numbered := (Recorder.Change.space numbers).numbered sound.numbered
  distinct := by
    intro fits token other native found otherFound
    have before := sound.distinct (fits.earlier (Recorder.Change.space numbers).grows)
    rcases Nest.getElem?_withIndices_eq_some found with old | ⟨entry, member, carries, same⟩
    · rcases Nest.getElem?_withIndices_eq_some otherFound with otherOld | ⟨entry, member, _, same⟩
      · exact before token other native old otherOld
      · subst same
        rcases exists_dimension member with ⟨_, _, inside⟩
        exact absurd (congrArg NativeIndex.space inside) (sound.nextSpace_ne fits old)
    · subst same
      -- Two new entries are one index only if they name one dimension.
      rcases Nest.getElem?_withIndices_eq_some otherFound with
        otherOld | ⟨otherEntry, otherMember, otherCarries, same⟩
      · rcases exists_dimension member with ⟨_, _, inside⟩
        exact absurd (congrArg NativeIndex.space inside) (sound.nextSpace_ne fits otherOld)
      · left
        rcases otherEntry with ⟨otherLoop, otherNative⟩
        cases same
        rw [← carries, ← otherCarries]
        exact token_of_native declared member otherMember
  recorded := by
    intro space entered
    cases entered
    exact List.mem_append_right _ (List.mem_singleton.mpr rfl)

theorem Sound.spaceRecorded (sound : Sound base pass) : pass.SpaceRecorded := by
  intro space entered
  exact ⟨space, sound.recorded entered, rfl⟩

theorem runs_perform_resolve (logic : LogicFunction σ) (pass : Pass (Recorder σ) σ) :
    Runs (perform (.resolve logic)) pass :=
  (runs_resolve logic pass).bind fun _ middle _ => .pure () middle

/-- A call keeps what reached states keep, whatever its outcome is. -/
theorem Sound.perform (sound : Sound base pass) {call : Call σ} (declared : call.Declared) :
    Sound base (Outcome.state (perform call pass)) := by
  cases call with
  | build nest =>
      cases building : nest.buildSpace pass with
      | ok done after =>
          rcases Nest.buildSpace_of_ok building with ⟨seeded, numbers, steps, _, rfl⟩
          rw [Pass.perform, building]
          exact (steps.sound sound).inSpace declared numbers
      | error error after =>
          rw [Pass.perform, building]
          exact (Nest.buildSpace_of_error sound.spaceRecorded building).1.sound sound
  | replay nest => exact (Nest.runs_addAttachments nest.attachments pass).steps.sound sound
  | resolve logic => exact (runs_perform_resolve logic pass).steps.sound sound

/-- No call fails because the backend does not know the space. -/
theorem Sound.spaceKnown (sound : Sound base pass) {call : Call σ} {error : NestError}
    (failed : Pass.perform call pass = .error error after) : error.SpaceKnown := by
  cases call with
  | build nest => exact (Nest.buildSpace_of_error sound.spaceRecorded failed).2
  | replay nest =>
      exact (Nest.runs_addAttachments nest.attachments pass).known sound.spaceRecorded failed
  | resolve logic => exact (runs_perform_resolve logic pass).known sound.spaceRecorded failed

theorem Reached.sound (numbered : base.Numbered) (reached : Reached base pass) :
    Sound base pass := by
  induction reached with
  | start store arguments options => exact sound_start numbered store arguments options
  | perform _ declared inductionHypothesis => exact inductionHypothesis.perform declared
  | store _ store inductionHypothesis =>
      exact (Step.store store).sound inductionHypothesis

end Sound

/-- In every state that a context reaches, over a backend that calls led to,
arrays of the identity map are logged, indices name a dimension of a logged
space, no two tokens have the same of either, and the space of the context is
logged, so that no call fails because the backend does not know it. -/
theorem reached_entries (calls : List (Recorder.Call σ)) {pass : Pass (Recorder σ) σ}
    (reached : Reached (Recorder.empty.afterCalls calls) pass) (fits : pass.backend.Fits) :
    (forall (token : Token) (array : NativeArray),
      pass.identities[token]? = some (.array array) -> ∃ layout,
        (array, layout) ∈ pass.backend.arrays) ∧
    (forall (token : Token) (index : NativeIndex),
      pass.identities[token]? = some (.index index) -> ∃ space,
        space ∈ pass.backend.spaces ∧ space.id = index.space ∧
          index.dimension.toNat < space.rank) ∧
    (forall (token other : Token) (array : NativeArray),
      pass.identities[token]? = some (.array array) ->
        pass.identities[other]? = some (.array array) -> token = other) ∧
    (forall (token other : Token) (index : NativeIndex),
      pass.identities[token]? = some (.index index) ->
        pass.identities[other]? = some (.index index) -> token = other) ∧
    (forall space, pass.space = some space -> space ∈ pass.backend.spaces) ∧
    (forall call error after space, perform call pass = .error error after ->
      error ≠ .backend (.unknownSpace space)) := by
  have numbered := (Recorder.changes_afterCalls .empty calls).numbered Recorder.numbered_empty
  have sound := reached.sound numbered
  refine ⟨?_, ?_, ?_, ?_, ?_, ?_⟩
  · intro token array found
    cases sound.entries found with
    | array later logged => exact ⟨_, List.mem_of_getElem? logged⟩
  · intro token index found
    cases sound.entries found with
    | index later logged member =>
        have inside := sound.numbered.index logged member
        exact ⟨_, List.mem_of_getElem? logged, inside.1.symm, inside.2⟩
  · intro token other array found otherFound
    rcases sound.distinct fits token other _ found otherFound with same | ⟨_, impossible⟩
    · exact same
    · cases impossible
  · intro token other index found otherFound
    rcases sound.distinct fits token other _ found otherFound with same | ⟨_, impossible⟩
    · exact same
    · cases impossible
  · intro space entered
    exact sound.recorded entered
  · intro call error after space failed
    exact sound.spaceKnown failed space

end Pass

namespace Sample

/-- A nest with one dimension of four iterations. -/
def four : Nest Unit :=
  ((Nest.declare [.fixed 4]).run Arena.empty).1

/-- Its space is built in a context whose backend has a space already. -/
def context : Pass (Recorder Unit) Unit :=
  Pass.start (Recorder.empty.afterCalls [.createSpace [3]]) (Store.initial ()) .empty .lenient

end Sample

namespace Pass

/-- When the space of a nest is built twice in one context, its loop index is
that of the second space. -/
theorem reached_after_rebuild :
    ∃ pass, Reached Sample.context.backend pass ∧
      pass.identities[(⟨0⟩ : Token)]? = some (.index ⟨⟨2⟩, 0⟩) ∧
      ∃ space, space ∈ pass.backend.spaces ∧ space.id = ⟨2⟩ ∧ 0 < space.rank := by
  let once := Outcome.state (perform (.build Sample.four) Sample.context)
  let twice := Outcome.state (perform (.build Sample.four) once)
  have declared : Call.Declared (.build Sample.four) := .declare _ _
  have reached : Reached Sample.context.backend twice :=
    .perform (.perform (.start _ _ _) declared) declared
  have fits : twice.backend.Fits := ⟨by decide +kernel, by decide +kernel⟩
  have entry : twice.identities[(⟨0⟩ : Token)]? = some (.index ⟨⟨2⟩, 0⟩) := by decide +kernel
  exact ⟨twice, reached, entry,
    (reached_entries [.createSpace [3]] reached fits).2.1 ⟨0⟩ ⟨⟨2⟩, 0⟩ entry⟩

end Pass

end LoopNest
