import LoopNest.Proofs.Declaration.Answers
import LoopNest.Proofs.Identity.Issuance
import LoopNest.Proofs.Nest.Kernels

namespace LoopNest

/-!
# When commands can be replayed

Suppose that all rules only read the slots, all handles come from one arena,
and the pass is not strict.  Then a captured value can be resolved wherever it
stands among the commands, or it can be resolved nowhere: an entry that an
earlier command added belongs to the same handle, and that handle could be
resolved.  Only the tokens that are supplied beforehand excuse a value that
could not be resolved on its own.
-/

namespace Capture

variable {σ : Type}

/-- The value can be resolved on its own, if it has no entry. -/
def Answers (store : Store σ) : Capture σ -> Prop
  | .deferred value => ∃ number, store.answer? value.resolve = some number
  | .lazy produce => ∃ elements, store.answer? produce = some elements
  | .array handle => handle.DataFit
  | .index _ => True
  | .scalar _ => True
  | .sequence _ => True

/-- The value can be resolved, or its token is supplied beforehand. -/
def Resolvable (supplied : List Token) (store : Store σ) (capture : Capture σ) : Prop :=
  (forall token, capture.identity? = some token -> token ∉ supplied) -> capture.Answers store

end Capture

theorem ArrayHandle.dataFit_of_argument {handle : ArrayHandle}
    (source : handle.source.origin? = none) : handle.DataFit := by
  intro data constant
  rw [constant] at source
  cases source

namespace Pass

variable {σ : Type}

/-- The pass has the store with which it began to replay commands, and the
entries that were supplied beforehand. -/
structure Stands (supplied : List Token) (store : Store σ) (pass : Pass (Recorder σ) σ) :
    Prop where
  unchanged : pass.store = store
  present : forall token, token ∈ supplied -> ∃ value, pass.identities[token]? = some value

/-- The pass stands somewhere in the replay of commands and accepts everything.
The values are those that the commands capture and perhaps others; what has an
entry among them is resolvable. -/
structure Replays (values : List (Capture σ)) (supplied : List Token) (store : Store σ)
    (pass : Pass (Recorder σ) σ) : Prop extends Stands supplied store pass where
  accepting : pass.backend.rejected = []
  lenient : pass.options.strictSequences = false
  entered : ∃ space, pass.space = some space ∧
    ∃ known, known ∈ pass.backend.spaces ∧ known.id = space.id
  entries : forall capture, capture ∈ values -> forall value,
    pass.lookup? capture = some value -> capture.Resolvable supplied store

section Replay

variable {values : List (Capture σ)} {supplied : List Token} {store : Store σ}

/-- Rules that only read the slots leave the store as it is. -/
theorem Resolves.store_eq {pass after : Pass (Recorder σ) σ} {capture : Capture σ}
    {replacement? : Option Replacement} (resolves : Resolves pass capture replacement? after)
    (reads : capture.ReadOnly) : after.store = pass.store := by
  cases resolves with
  | deferred missing resolved => exact ((reads.resolve.eq_ok_iff _ _ _).mp resolved).2
  | lazy produced entries => exact ((Store.ReadOnly.eq_ok_iff reads _ _ _).mp produced).2
  | made missing makes => rfl
  | mapped found => rfl
  | argument missing source => rfl
  | index missing => rfl
  | scalar missing => rfl
  | sequence entries => rfl

theorem Stands.resolves {pass after : Pass (Recorder σ) σ} (stands : Stands supplied store pass)
    {capture : Capture σ} {replacement? : Option Replacement} (reads : capture.ReadOnly)
    (resolves : Resolves pass capture replacement? after) : Stands supplied store after where
  unchanged := (resolves.store_eq reads).trans stands.unchanged
  present := by
    intro token supplies
    rcases stands.present token supplies with ⟨value, found⟩
    exact ⟨value, resolves.completes.kept found⟩

theorem Stands.resolvesAll {pass after : Pass (Recorder σ) σ}
    (stands : Stands supplied store pass) {entries : List (String × Capture σ)}
    {replacements : List (String × Replacement)}
    (reads : forall entry, entry ∈ entries -> entry.2.ReadOnly)
    (resolvesAll : ResolvesAll pass entries replacements after) :
    Stands supplied store after := by
  induction resolvesAll with
  | nil => exact stands
  | @cons _ _ _ name capture _ _ _ first later inductionHypothesis =>
      have readsFirst : capture.ReadOnly := reads (name, capture) List.mem_cons_self
      refine inductionHypothesis (stands.resolves readsFirst first) ?_
      intro entry later
      exact reads entry (List.mem_cons_of_mem (name, capture) later)

theorem Stands.not_supplied {pass : Pass (Recorder σ) σ} (stands : Stands supplied store pass)
    {capture : Capture σ} (missing : pass.lookup? capture = none) (token : Token)
    (identity : capture.identity? = some token) : token ∉ supplied := by
  intro member
  rcases stands.present token member with ⟨value, found⟩
  rw [lookup?, identity, Option.bind_some, found] at missing
  cases missing

/-- Nothing is rejected, so an array is made when its data fit. -/
theorem Replays.makes {pass : Pass (Recorder σ) σ} (replays : Replays values supplied store pass)
    {handle : ArrayHandle} {origin : ArrayOrigin} (source : handle.source.origin? = some origin)
    (fits : handle.DataFit) : pass.Makes handle origin := by
  refine ⟨source, ?_, fits⟩
  rw [replays.accepting]
  exact List.not_mem_nil

/-- A value is resolved in one step when it is resolvable. -/
theorem Replays.resolves_iff {pass : Pass (Recorder σ) σ}
    (replays : Replays values supplied store pass) {capture : Capture σ}
    (member : capture ∈ values) (reads : capture.ReadOnly) :
    (∃ replacement? after, Resolves pass capture replacement? after) <->
      capture.Resolvable supplied store := by
  constructor
  · rintro ⟨replacement?, after, resolves⟩
    cases resolves with
    | mapped found => exact replays.entries capture member _ found
    | made missing makes => exact fun _ => makes.fits
    | argument missing source => exact fun _ => ArrayHandle.dataFit_of_argument source
    | index missing => exact fun _ => trivial
    | scalar missing => exact fun _ => trivial
    | deferred missing resolved =>
        have answered := (reads.resolve.eq_ok_iff _ _ _).mp resolved
        exact fun _ => ⟨_, replays.unchanged ▸ answered.1⟩
    | sequence entries => exact fun _ => trivial
    | lazy produced entries =>
        have answered := (Store.ReadOnly.eq_ok_iff reads _ _ _).mp produced
        exact fun _ => ⟨_, replays.unchanged ▸ answered.1⟩
  · intro resolvable
    cases entry : pass.lookup? capture with
    | some value => exact ⟨_, _, .mapped entry⟩
    | none =>
        have answers := resolvable (replays.toStands.not_supplied entry)
        cases capture with
        | index loop => exact ⟨_, _, .index entry⟩
        | scalar value => exact ⟨_, _, .scalar entry⟩
        | array handle =>
            cases source : handle.source.origin? with
            | none => exact ⟨_, _, .argument entry source⟩
            | some origin => exact ⟨_, _, .made entry (replays.makes source answers)⟩
        | deferred value =>
            rcases answers with ⟨number, answered⟩
            have resolved := (reads.resolve.eq_ok_iff pass.store _ number).mpr
              ⟨replays.unchanged ▸ answered, rfl⟩
            exact ⟨_, _, .deferred entry resolved⟩
        | sequence elements =>
            exact ⟨_, _, .sequence (mappedFrom_of_lenient replays.lenient 0 elements)⟩
        | lazy produce =>
            rcases answers with ⟨elements, answered⟩
            have produced := (Store.ReadOnly.eq_ok_iff reads pass.store _ elements).mpr
              ⟨replays.unchanged ▸ answered, rfl⟩
            exact ⟨_, _, .lazy produced (mappedFrom_of_lenient replays.lenient 0 elements)⟩

/-- Resolving a value of one arena leads to a state from which the replay goes
on: an entry that is new belongs to the value itself. -/
theorem Replays.resolves {pass after : Pass (Recorder σ) σ}
    (replays : Replays values supplied store pass) (issued : FromOneArena values)
    {capture : Capture σ} {replacement? : Option Replacement} (member : capture ∈ values)
    (reads : capture.ReadOnly) (resolves : Resolves pass capture replacement? after) :
    Replays values supplied store after where
  toStands := replays.toStands.resolves reads resolves
  accepting := resolves.continues.rejected.trans replays.accepting
  lenient := by rw [resolves.continues.options, replays.lenient]
  entered := by
    rw [resolves.continues.space, resolves.continues.spaces]
    exact replays.entered
  entries := by
    intro other otherMember value found
    rcases Option.bind_eq_some_iff.mp found with ⟨token, identity, entry⟩
    rcases (resolves.completes.exists_iff token).mp ⟨value, entry⟩ with
      ⟨earlier, old⟩ | ⟨handle, made, carries⟩
    · have foundBefore : pass.lookup? other = some earlier := by
        rw [lookup?, identity, Option.bind_some, old]
      exact replays.entries other otherMember earlier foundBefore
    · rcases (capture.made?_eq_some_iff handle).mp (Option.mem_toList.mp made) with ⟨rfl, _⟩
      have carried : (Capture.array handle : Capture σ).identity? = some token :=
        congrArg some carries
      rw [issued.eq_of_identity otherMember member identity carried]
      exact (replays.resolves_iff member reads).mp ⟨_, _, resolves⟩

/-- The captured values of a logic function are resolved when each of them is
resolvable. -/
theorem Replays.resolvesAll_iff {pass : Pass (Recorder σ) σ}
    (replays : Replays values supplied store pass) (issued : FromOneArena values)
    (entries : List (String × Capture σ))
    (members : forall entry, entry ∈ entries -> entry.2 ∈ values)
    (reads : forall capture, capture ∈ values -> capture.ReadOnly) :
    (∃ replacements after, ResolvesAll pass entries replacements after) <->
      forall entry, entry ∈ entries -> entry.2.Resolvable supplied store := by
  induction entries generalizing pass with
  | nil =>
      refine iff_of_true ⟨[], pass, .nil⟩ ?_
      intro entry member
      exact absurd member List.not_mem_nil
  | cons entry rest inductionHypothesis =>
      rcases entry with ⟨name, capture⟩
      have member : capture ∈ values := members (name, capture) List.mem_cons_self
      have others : forall entry, entry ∈ rest -> entry.2 ∈ values := fun entry later =>
        members entry (List.mem_cons_of_mem (name, capture) later)
      rw [List.forall_mem_cons]
      constructor
      · rintro ⟨replacements, after, resolvesAll⟩
        cases resolvesAll with
        | cons first later =>
            have next := replays.resolves issued member (reads capture member) first
            exact ⟨(replays.resolves_iff member (reads capture member)).mp ⟨_, _, first⟩,
              (inductionHypothesis next others).mp ⟨_, _, later⟩⟩
      · rintro ⟨resolvable, resolvableRest⟩
        rcases (replays.resolves_iff member (reads capture member)).mpr resolvable with
          ⟨replacement?, middle, first⟩
        have next := replays.resolves issued member (reads capture member) first
        rcases (inductionHypothesis next others).mpr resolvableRest with ⟨_, after, later⟩
        exact ⟨_, after, .cons first later⟩

theorem Replays.resolvesAll {pass after : Pass (Recorder σ) σ}
    (replays : Replays values supplied store pass) (issued : FromOneArena values)
    {entries : List (String × Capture σ)} {replacements : List (String × Replacement)}
    (members : forall entry, entry ∈ entries -> entry.2 ∈ values)
    (reads : forall capture, capture ∈ values -> capture.ReadOnly)
    (resolvesAll : ResolvesAll pass entries replacements after) :
    Replays values supplied store after := by
  induction resolvesAll with
  | nil => exact replays
  | @cons _ _ _ name capture _ _ _ first later inductionHypothesis =>
      have member : capture ∈ values := members (name, capture) List.mem_cons_self
      refine inductionHypothesis (replays.resolves issued member (reads capture member) first) ?_
      intro entry later
      exact members entry (List.mem_cons_of_mem (name, capture) later)

end Replay

end Pass

namespace Nest

variable {σ : Type} {values : List (Capture σ)} {supplied : List Token} {store : Store σ}

theorem mem_captured {attachment : Attachment σ} {entry : String × Capture σ}
    (member : entry ∈ attachment.logic.captures) : entry.2 ∈ attachment.captured :=
  List.mem_map_of_mem member

/-- A command is replayed when the values that it captures are resolvable. -/
theorem adds_iff {pass : Pass (Recorder σ) σ} (replays : pass.Replays values supplied store)
    (issued : FromOneArena values) (attachment : Attachment σ)
    (members : forall capture, capture ∈ attachment.captured -> capture ∈ values)
    (reads : forall capture, capture ∈ values -> capture.ReadOnly) :
    (∃ entry after, Adds pass attachment entry after) <->
      forall capture, capture ∈ attachment.captured -> capture.Resolvable supplied store := by
  have entriesMembers : forall entry, entry ∈ attachment.logic.captures -> entry.2 ∈ values :=
    fun entry member => members entry.2 (mem_captured member)
  have resolvable := replays.resolvesAll_iff issued attachment.logic.captures entriesMembers reads
  unfold Attachment.captured
  rw [List.forall_mem_map, ← resolvable]
  constructor
  · rintro ⟨entry, after, adds⟩
    cases adds with
    | intro entered resolvesAll accepted recorded => exact ⟨_, _, resolvesAll⟩
  · rintro ⟨replacements, middle, resolvesAll⟩
    have next := replays.resolvesAll issued entriesMembers reads resolvesAll
    rcases next.entered with ⟨space, entered, recorded⟩
    rw [resolvesAll.continues.space] at entered
    have accepted : BackendOperation.addKernel ∉ middle.backend.rejected := by
      rw [next.accepting]
      exact List.not_mem_nil
    have substituted : pass.ResolvesAll attachment.logic.captures
      (Substitution.mk replacements).entries middle := resolvesAll
    exact ⟨_, _, .intro entered substituted accepted recorded⟩

theorem replays_of_adds {pass after : Pass (Recorder σ) σ}
    (replays : pass.Replays values supplied store) (issued : FromOneArena values)
    {attachment : Attachment σ} {entry : RecordedKernel σ}
    (members : forall capture, capture ∈ attachment.captured -> capture ∈ values)
    (reads : forall capture, capture ∈ values -> capture.ReadOnly)
    (adds : Adds pass attachment entry after) : after.Replays values supplied store := by
  cases adds with
  | intro entered resolvesAll accepted recorded =>
      have next := replays.resolvesAll issued
        (fun entry member => members entry.2 (mem_captured member)) reads resolvesAll
      exact ⟨⟨next.unchanged, next.present⟩, next.accepting, next.lenient, next.entered,
        next.entries⟩

/-- Commands are replayed when all values that they capture are resolvable. -/
theorem addsAll_iff {pass : Pass (Recorder σ) σ} (replays : pass.Replays values supplied store)
    (issued : FromOneArena values) (attachments : List (Attachment σ))
    (members : forall capture, capture ∈ attachments.flatMap Attachment.captured ->
      capture ∈ values)
    (reads : forall capture, capture ∈ values -> capture.ReadOnly) :
    (∃ added after, AddsAll pass attachments added after) <->
      forall capture, capture ∈ attachments.flatMap Attachment.captured ->
        capture.Resolvable supplied store := by
  induction attachments generalizing pass with
  | nil =>
      refine iff_of_true ⟨[], pass, .nil⟩ ?_
      intro capture member
      exact absurd member List.not_mem_nil
  | cons attachment rest inductionHypothesis =>
      rw [List.flatMap_cons] at members ⊢
      rw [List.forall_mem_append] at members ⊢
      constructor
      · rintro ⟨added, after, addsAll⟩
        cases addsAll with
        | cons first later =>
            have next := replays_of_adds replays issued members.1 reads first
            exact ⟨(adds_iff replays issued attachment members.1 reads).mp ⟨_, _, first⟩,
              (inductionHypothesis next members.2).mp ⟨_, _, later⟩⟩
      · rintro ⟨resolvable, resolvableRest⟩
        rcases (adds_iff replays issued attachment members.1 reads).mpr resolvable with
          ⟨entry, middle, first⟩
        have next := replays_of_adds replays issued members.1 reads first
        rcases (inductionHypothesis next members.2).mpr resolvableRest with ⟨_, after, later⟩
        exact ⟨_, after, .cons first later⟩

end Nest

end LoopNest
