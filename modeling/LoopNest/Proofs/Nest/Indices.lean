import LoopNest.Proofs.Nest.Kernels
import LoopNest.Proofs.Pass.Provenance
import LoopNest.Proofs.Occurrences
import LoopNest.Proofs.Pass.Entries

namespace LoopNest

/-!
# The native indices of a kernel

With a kernel the native indices are reported that its replacements refer to.
They are those that one comes upon when the captured values are read in order,
and the elements of sequences in theirs, each where it comes up first.

All of them belong to the space of the pass.  An entry of the identity map that
is a native index was recorded for a loop index of the nest: arguments are arrays
and scalars, and what the pass makes are arrays.
-/

theorem NativeValue.index?_eq_some_iff {native : NativeValue} {index : NativeIndex} :
    native.index? = some index <-> native = .index index := by
  cases native <;> simp [NativeValue.index?]

/-- An index of a space with one index per extent knows the space, and its
dimension is one of those. -/
theorem NativeSpace.bounds_of_ofExtents {id : SpaceId} {extents : List Int} {dimension : Nat}
    {index : NativeIndex} (native : (ofExtents id extents).indices[dimension]? = some index) :
    index.space = (ofExtents id extents).id ∧
      index.dimension.toNat < (ofExtents id extents).rank := by
  have within := (List.getElem?_eq_some_iff.mp native).1
  simp only [ofExtents, List.getElem?_map, Option.map_eq_some_iff] at native
  rcases native with ⟨position, found, rfl⟩
  have same : position = dimension := by
    rw [List.getElem?_eq_some_iff] at found
    rcases found with ⟨_, found⟩
    rw [List.getElem_range] at found
    exact found.symm
  subst same
  refine ⟨rfl, Nat.lt_of_le_of_lt ?_ within⟩
  change (UInt32.ofNat position).toNat <= position
  rw [UInt32.toNat_ofNat']
  exact Nat.mod_le _ _

namespace Scope

variable {σ : Type}

/-- The native indices among the replacements, captured value by captured value
in order, and element by element. -/
def nativeIndices (scope : Scope σ) : List NativeIndex :=
  scope.captures.flatMap fun entry =>
    ((scope.substitution.get? entry.1).elim [] Replacement.natives).filterMap NativeValue.index?

theorem index?_eq_some_iff {scope : Scope σ} {name : String} {index : NativeIndex} :
    scope.index? name = some index <->
      scope.substitution.get? name = some (.value (.index index)) := by
  unfold index? native?
  cases scope.substitution.get? name with
  | none => simp
  | some replacement =>
      cases replacement with
      | value native => simp [NativeValue.index?_eq_some_iff]
      | sequence natives => simp

theorem sequence?_eq_some_iff {scope : Scope σ} {name : String} {natives : List NativeValue} :
    scope.sequence? name = some natives <->
      scope.substitution.get? name = some (.sequence natives) := by
  unfold sequence?
  cases scope.substitution.get? name with
  | none => simp
  | some replacement => cases replacement <;> simp

/-- The two look-ups give a native index under some name exactly if some
replacement has it. -/
theorem refers_iff (scope : Scope σ) (index : NativeIndex) :
    ((∃ name, scope.index? name = some index) ∨
        ∃ name natives, scope.sequence? name = some natives ∧ .index index ∈ natives) <->
      ∃ name replacement, scope.substitution.get? name = some replacement ∧
        .index index ∈ replacement.natives := by
  simp only [index?_eq_some_iff, sequence?_eq_some_iff]
  constructor
  · rintro (⟨name, single⟩ | ⟨name, natives, listed, member⟩)
    · exact ⟨name, _, single, List.mem_singleton.mpr rfl⟩
    · exact ⟨name, _, listed, member⟩
  · rintro ⟨name, replacement, replaced, member⟩
    cases replacement with
    | value native =>
        cases List.mem_singleton.mp member
        exact .inl ⟨name, replaced⟩
    | sequence natives => exact .inr ⟨name, natives, replaced, member⟩

end Scope

/-- The native indices are those that the two look-ups give, if only captured
values are replaced. -/
theorem Scope.mem_nativeIndices_iff {σ : Type} {scope : Scope σ}
    (captured : forall name replacement, scope.substitution.get? name = some replacement ->
      name ∈ scope.captures.map Prod.fst) (index : NativeIndex) :
    index ∈ scope.nativeIndices <->
      (∃ name, scope.index? name = some index) ∨
        ∃ name natives, scope.sequence? name = some natives ∧ .index index ∈ natives := by
  rw [scope.refers_iff]
  unfold nativeIndices
  rw [List.mem_flatMap]
  constructor
  · rintro ⟨entry, member, among⟩
    rcases List.mem_filterMap.mp among with ⟨native, inside, same⟩
    cases NativeValue.index?_eq_some_iff.mp same
    cases replaced : scope.substitution.get? entry.1 with
    | none =>
        rw [replaced] at inside
        cases inside
    | some replacement =>
        rw [replaced] at inside
        exact ⟨entry.1, replacement, replaced, inside⟩
  · rintro ⟨name, replacement, replaced, inside⟩
    rcases List.mem_map.mp (captured name replacement replaced) with ⟨entry, member, rfl⟩
    refine ⟨entry, member, List.mem_filterMap.mpr ⟨.index index, ?_, rfl⟩⟩
    rw [replaced]
    exact inside

namespace Pass

variable {β σ : Type} [Backend σ β] {logic : String} {entries : List (String × Capture σ)}
  {pass after : Pass β σ} {replacements : List (String × Replacement)}

/-- Replacements are listed in the order of the captured values, so reading them
is the same as looking up the names of these. -/
theorem natives_of_resolveAll (distinct : (entries.map Prod.fst).Nodup)
    (resolved : resolveAll logic entries pass = .ok replacements after) :
    (replacements.flatMap fun replaced => replaced.2.natives) =
      entries.flatMap fun entry => (replacements.lookup entry.1).elim [] Replacement.natives := by
  induction entries generalizing pass replacements with
  | nil =>
      cases resolved
      rfl
  | cons entry rest inductionHypothesis =>
      rcases entry with ⟨name, capture⟩
      rcases resolveAll_cons_eq_ok_iff.mp resolved with
        ⟨replacement?, middle, others, _, later, rfl⟩
      rw [List.map_cons, List.nodup_cons] at distinct
      have head : ((replacement?.map fun replacement => (name, replacement)).toList.flatMap
          fun replaced => replaced.2.natives) = replacement?.elim [] Replacement.natives := by
        cases replacement? <;> simp
      have tail : (rest.flatMap fun entry => (others.lookup entry.1).elim [] Replacement.natives) =
          rest.flatMap fun entry =>
            (((replacement?.map fun replacement => (name, replacement)).toList ++
              others).lookup entry.1).elim [] Replacement.natives := by
        refine List.flatMap_congr fun entry member => ?_
        have listed : entry.1 ∈ rest.map Prod.fst := List.mem_map_of_mem member
        have different : entry.1 ≠ name := fun same => distinct.1 (same ▸ listed)
        rw [lookup_later different]
      rw [List.flatMap_append, List.flatMap_cons,
        lookup_own (lookup_of_notMem later distinct.1), head, ← tail,
        inductionHypothesis distinct.2 later]

end Pass

namespace Nest

/-- The entries that the identity map of a pass in its space may have: the native
index of a dimension for its loop index, what an argument was supplied with, and
an array that was made. -/
inductive EntryOf {σ : Type} (indices : List LoopIndex) (supplied : List Token)
    (captured : List (Capture σ)) (space : NativeSpace) : Token -> NativeValue -> Prop
  | own {dimension : Nat} {loop : LoopIndex} {index : NativeIndex}
      (declared : indices[dimension]? = some loop)
      (native : space.indices[dimension]? = some index) :
      EntryOf indices supplied captured space loop.id (.index index)
  | supplied {token : Token} {value : NativeValue} (member : token ∈ supplied)
      (noIndex : value.index? = none) : EntryOf indices supplied captured space token value
  | made {handle : ArrayHandle} (member : .array handle ∈ captured) (array : NativeArray) :
      EntryOf indices supplied captured space handle.id (.array array)

variable {β σ : Type}

section EntryOf

variable {indices : List LoopIndex} {supplied : List Token} {captured : List (Capture σ)}
  {space : NativeSpace}

/-- A native index was recorded for a loop index. -/
theorem EntryOf.dimension {token : Token} {index : NativeIndex}
    (entry : EntryOf indices supplied captured space token (.index index)) :
    ∃ (dimension : Nat) (loop : LoopIndex),
      indices[dimension]? = some loop ∧ space.indices[dimension]? = some index := by
  cases entry with
  | own declared native => exact ⟨_, _, declared, native⟩
  | supplied member noIndex => cases noIndex

/-- A loop index of another nest has no entry, unless it is an argument, and then
it is no native index. -/
theorem EntryOf.foreign (issued : FromOneArena (indices.map .index ++ captured)) {loop : LoopIndex}
    (member : .index loop ∈ captured) (foreign : loop ∉ indices) {value : NativeValue}
    (entry : EntryOf indices supplied captured space loop.id value) :
    value.index? = none ∧ loop.id ∈ supplied := by
  have here : Capture.index loop ∈ indices.map .index ++ captured :=
    List.mem_append_right _ member
  generalize token_eq : loop.id = token at entry
  cases entry with
  | @own _ other _ declared native =>
      have own : other ∈ indices := List.mem_of_getElem? declared
      have there : Capture.index other ∈ indices.map .index ++ captured :=
        List.mem_append_left _ (List.mem_map_of_mem own)
      cases issued.eq_of_identity here there rfl (congrArg some token_eq.symm)
      exact absurd own foreign
  | supplied among noIndex => exact ⟨noIndex, among⟩
  | made array _ =>
      have there := List.mem_append_right (indices.map Capture.index) array
      cases issued.eq_of_identity here there rfl (congrArg some token_eq.symm)

end EntryOf

variable [Backend σ β] {log : β -> List (RecordedKernel σ)} (logs : Backend.KernelLog log)
include logs

/-! ## Before the first kernel -/

/-- A new pass that records its arguments. -/
private theorem within_seeded (backend : β) (store : Store σ) (arguments : Arguments σ)
    (options : PassOptions) :
    (Outcome.state (Pass.seedArguments (Pass.start backend store arguments options))).Within log
      (log backend) none fun token value =>
        token ∈ arguments.captures.filterMap Capture.identity? ∧ value.index? = none := by
  refine Pass.Within.seedArguments logs ⟨rfl, rfl, ?_⟩ fun _ _ => And.intro
  intro token value found
  have empty : (∅ : IdentityMap)[token]? = none := Std.ExtTreeMap.getElem?_empty
  rw [Pass.start, empty] at found
  cases found

/-- Either the space cannot be built, and no kernel is logged, or the pass has just
entered it.  Then it has the entries of its arguments and those of its loop
indices, whatever will be captured. -/
theorem buildSpace_opens (nest : Nest σ) (backend : β) (store : Store σ) (arguments : Arguments σ)
    (options : PassOptions) (captured : List (Capture σ)) :
    (∃ error stopped,
      nest.buildSpace (Pass.start backend store arguments options) = .error error stopped ∧
        log stopped.backend = log backend) ∨
    ∃ opened space,
      nest.buildSpace (Pass.start backend store arguments options) = .ok () opened ∧
        space = .ofExtents space.id space.extents ∧
        opened.Within log (log backend) (some space)
          (EntryOf nest.ownIndices (arguments.captures.filterMap Capture.identity?) captured
            space) := by
  have inside := within_seeded logs backend store arguments options
  unfold buildSpace
  cases nest.extents with
  | error fault => exact .inl ⟨fault, _, rfl, rfl⟩
  | ok numbers =>
      dsimp only
      cases seeding : Pass.seedArguments (Pass.start backend store arguments options) with
      | error error seeded =>
          rw [seeding] at inside
          exact .inl ⟨error, seeded, Outcome.bind_of_error seeding _, inside.kernels⟩
      | ok done seeded =>
          rw [seeding] at inside
          rw [Outcome.bind_of_ok seeding]
          cases creation : Pass.onBackend (Backend.createSpace numbers) seeded with
          | error error stopped =>
              rw [Outcome.bind_of_error creation]
              rcases (Pass.onBackend_eq_error_iff _ _ _ _).mp creation with ⟨_, _, fault, _, rfl⟩
              exact .inl ⟨error, _, rfl,
                ((logs.createSpace numbers).of_error fault).trans inside.kernels⟩
          | ok space created =>
              rw [Outcome.bind_of_ok creation]
              rcases (Pass.onBackend_eq_ok_iff _ _ _ _).mp creation with ⟨_, made, rfl⟩
              have kept := ((logs.createSpace numbers).of_ok made).trans inside.kernels
              split
              · rw [Outcome.bind_of_ok (seedIndices_apply _ _)]
                have spaced := logs.spaces made
                refine .inr ⟨_, space, rfl, ?_, kept, rfl, ?_⟩
                · rw [spaced]
                  rfl
                · intro token value found
                  rcases getElem?_withIndices_eq_some found with before | ⟨pair, member, rfl, rfl⟩
                  · rcases inside.entries before with ⟨supplied, noIndex⟩
                    exact .supplied supplied noIndex
                  · rcases List.mem_iff_getElem?.mp member with ⟨dimension, paired⟩
                    rcases List.getElem?_zip_eq_some.mp paired with ⟨declared, native⟩
                    exact .own declared native
              · exact .inl ⟨_, _, rfl, kept⟩

/-! ## The kernels -/

omit logs in
/-- The kernel was registered for the command in this space, at a moment when the
entries were allowed. -/
def RegisteredAt (log : β -> List (RecordedKernel σ)) (allowed : Token -> NativeValue -> Prop)
    (space : NativeSpace) (attachment : Attachment σ) (entry : RecordedKernel σ) : Prop :=
  ∃ (kernels : List (RecordedKernel σ)) (before after : Pass β σ) (replacements : _),
    before.Within log kernels (some space) allowed ∧
      Pass.resolveAll attachment.logic.name attachment.logic.captures before =
        .ok replacements after ∧
      entry = attachment.entry space ⟨replacements⟩

variable {allowed : Token -> NativeValue -> Prop} {kernels : List (RecordedKernel σ)}
  {space : NativeSpace} {pass : Pass β σ}

/-- A command adds its kernel, or it fails and adds none. -/
theorem addLogic_adds {attachment : Attachment σ}
    (fits : forall handle, .array handle ∈ attachment.captured -> forall array,
      allowed handle.id (.array array))
    (inside : pass.Within log kernels (some space) allowed) :
    (∃ error stopped,
      Pass.addLogic attachment.logic attachment.scheduling pass = .error error stopped ∧
        log stopped.backend = kernels) ∨
    ∃ entry after, Pass.addLogic attachment.logic attachment.scheduling pass = .ok () after ∧
      RegisteredAt log allowed space attachment entry ∧
      after.Within log (kernels ++ [entry]) (some space) allowed := by
  have stays := Pass.stays_resolveAll logs attachment.logic.name fits kernels (some space)
  rw [Pass.addLogic_of_entered inside.space]
  cases resolution : Pass.resolveAll attachment.logic.name attachment.logic.captures pass with
  | error error stopped =>
      rw [Outcome.bind_of_error resolution]
      exact .inl ⟨error, stopped, rfl, (stays.of_error resolution inside).kernels⟩
  | ok replacements middle =>
      have resolved := stays.of_ok resolution inside
      rw [Outcome.bind_of_ok resolution]
      cases registration : Pass.onBackend (Backend.addKernel space
          (Kernel.ofLogic attachment.logic ⟨replacements⟩) attachment.scheduling.predicate
          attachment.scheduling.placement) middle with
      | error error stopped =>
          rcases (Pass.onBackend_eq_error_iff _ _ _ _).mp registration with ⟨_, _, refused, _, rfl⟩
          exact .inl ⟨error, _, rfl, (logs.refused refused).trans resolved.kernels⟩
      | ok done after =>
          rcases (Pass.onBackend_eq_ok_iff _ _ _ _).mp registration with ⟨_, accepted, rfl⟩
          refine .inr ⟨attachment.entry space ⟨replacements⟩, _, rfl,
            ⟨kernels, pass, middle, replacements, inside, resolution, rfl⟩, ?_⟩
          refine ⟨?_, resolved.space, resolved.entries⟩
          rw [← resolved.kernels]
          exact logs.accepted accepted

/-- However a replay of commands ends, each kernel that it added was registered
for one of them. -/
theorem addAttachments_adds {attachments : List (Attachment σ)}
    (fits : forall handle, .array handle ∈ attachments.flatMap Attachment.captured ->
      forall array, allowed handle.id (.array array))
    (inside : pass.Within log kernels (some space) allowed) :
    ∃ added, log (Outcome.state (addAttachments attachments pass)).backend = kernels ++ added ∧
      (forall entry, entry ∈ added -> ∃ attachment, attachment ∈ attachments ∧
        RegisteredAt log allowed space attachment entry) ∧
      forall done after, addAttachments attachments pass = .ok done after ->
        after.space = some space := by
  induction attachments generalizing pass kernels with
  | nil =>
      refine ⟨[], inside.kernels.trans (List.append_nil _).symm, nofun, ?_⟩
      intro done after ended
      cases ended
      exact inside.space
  | cons attachment rest inductionHypothesis =>
      have first : forall handle, .array handle ∈ attachment.captured -> forall array,
          allowed handle.id (.array array) := fun handle member =>
        fits handle (List.mem_append_left _ member)
      have later : forall handle, .array handle ∈ rest.flatMap Attachment.captured ->
          forall array, allowed handle.id (.array array) := fun handle member =>
        fits handle (List.mem_append_right _ member)
      rw [addAttachments]
      rcases addLogic_adds logs first inside with
        ⟨error, stopped, failed, kept⟩ | ⟨entry, middle, done, registered, insideMiddle⟩
      · rw [Outcome.bind_of_error failed]
        refine ⟨[], kept.trans (List.append_nil _).symm, nofun, ?_⟩
        intro done after impossible
        cases impossible
      · rw [Outcome.bind_of_ok done]
        rcases inductionHypothesis later insideMiddle with ⟨added, grown, all, ends⟩
        refine ⟨entry :: added, ?_, ?_, ends⟩
        · rw [grown, List.append_assoc, List.singleton_append]
        · rw [List.forall_mem_cons]
          refine ⟨⟨attachment, List.mem_cons_self, registered⟩, ?_⟩
          intro other member
          rcases all other member with ⟨found, among, told⟩
          exact ⟨found, List.mem_cons_of_mem _ among, told⟩

omit logs in
/-- The native indices that are reported with a kernel whose body sees this
scope, in this space of the nest. -/
structure Reports (nest : Nest σ) (supplied : List Token) (space : NativeSpace) (scope : Scope σ)
    (indices : List NativeIndex) : Prop where
  /-- No index is reported twice. -/
  distinct : indices.Nodup
  /-- They stand in the order in which one first comes upon them. -/
  order : FirstOccurrences scope.nativeIndices indices
  /-- They are those that were substituted, for single values or in sequences. -/
  exact : forall index, index ∈ indices <->
    (∃ name, scope.index? name = some index) ∨
      ∃ name natives, scope.sequence? name = some natives ∧ .index index ∈ natives
  /-- Each one stands for a loop index of the nest. -/
  own : forall index, index ∈ indices -> ∃ (dimension : Nat) (loop : LoopIndex),
    nest.ownIndices[dimension]? = some loop ∧ space.indices[dimension]? = some index
  /-- Each one belongs to the space and has a dimension below its rank. -/
  inside : forall index, index ∈ indices ->
    index ∈ space.indices ∧ index.space = space.id ∧ index.dimension.toNat < space.rank
  /-- A loop index of another nest contributes nothing.  It goes through, unless
  it is an argument. -/
  foreign : forall name loop, scope.captures.lookup name = some (.index loop) ->
    loop ∉ nest.ownIndices ->
      scope.index? name = none ∧ scope.sequence? name = none ∧
        (loop.id ∉ supplied -> scope.get? name = some (.captured (.index loop)))

section Reports

variable {nest : Nest σ} {supplied : List Token} {attachment : Attachment σ}
  (spaced : space = .ofExtents space.id space.extents)
  (issued : FromOneArena (nest.ownIndices.map .index ++ nest.captured))
  (attached : attachment ∈ nest.attachments)
include spaced issued attached

/-- What is reported with a kernel that was registered when the pass had no other
entries than it may have. -/
theorem reports_of_registeredAt {entry : RecordedKernel σ}
    (registered : RegisteredAt log (EntryOf nest.ownIndices supplied nest.captured space) space
      attachment entry) :
    ∃ scope, entry.kernel.scope? = some scope ∧ scope.captures = attachment.logic.captures ∧
      nest.Reports supplied space scope entry.kernel.indices := by
  rcases registered with ⟨kernels, before, after, replacements, inside, resolved, rfl⟩
  have distinct := attachment.logic.names_distinct
  have member {capture : Capture σ} (captured : capture ∈ attachment.captured) :
      capture ∈ nest.captured := List.mem_flatMap.mpr ⟨attachment, attached, captured⟩
  -- A value was resolved when the pass had no other entries than these.
  have moment {name : String} {capture : Capture σ}
      (captured : (name, capture) ∈ attachment.logic.captures) :=
    Pass.exists_moment logs (fun handle made array => .made (member made) array) distinct resolved
      inside captured
  have replaced (name : String) (replacement : Replacement)
      (found : replacements.lookup name = some replacement) :
      name ∈ attachment.logic.captures.map Prod.fst := by
    refine Classical.byContradiction fun absent => ?_
    rw [Pass.lookup_of_notMem resolved absent] at found
    cases found
  have order : FirstOccurrences (attachment.logic.scope ⟨replacements⟩).nativeIndices
      (Substitution.nativeIndices ⟨replacements⟩) := by
    unfold Substitution.nativeIndices
    dsimp only
    rw [Pass.natives_of_resolveAll distinct resolved, List.filterMap_flatMap]
    exact .eraseDups _
  have exact_iff (index : NativeIndex) :=
    @Scope.mem_nativeIndices_iff _ (attachment.logic.scope ⟨replacements⟩) replaced index
  have own (index : NativeIndex) (reported : index ∈ Substitution.nativeIndices ⟨replacements⟩) :
      ∃ (dimension : Nat) (loop : LoopIndex),
        nest.ownIndices[dimension]? = some loop ∧ space.indices[dimension]? = some index := by
    rw [order.members, exact_iff, Scope.refers_iff] at reported
    rcases reported with ⟨name, replacement, found, among⟩
    rcases List.mem_map.mp (replaced name replacement found) with ⟨⟨_, capture⟩, captured, rfl⟩
    rcases moment captured with ⟨earlier, later, insideEarlier, given⟩
    change replacements.lookup _ = some replacement at found
    rw [found] at given
    rcases insideEarlier.allowed_of_index given among with ⟨token, recorded⟩
    exact recorded.dimension
  refine ⟨attachment.logic.scope ⟨replacements⟩, rfl, rfl, order.nodup, order, ?_, own, ?_, ?_⟩
  · intro index
    exact (order.members index).trans (exact_iff index)
  · intro index reported
    rcases own index reported with ⟨dimension, loop, _, native⟩
    refine ⟨List.mem_of_getElem? native, ?_⟩
    rw [spaced] at native ⊢
    exact NativeSpace.bounds_of_ofExtents native
  · intro name loop found foreign
    have captured := attachment.logic.mem_of_capture? found
    rcases moment captured with ⟨earlier, later, insideEarlier, given⟩
    rw [Pass.resolveCapture_index] at given
    injection given with given _
    cases recorded : earlier.identities[loop.id]? with
    | none =>
        rw [recorded] at given
        have unreplaced : (attachment.logic.scope ⟨replacements⟩).substitution.get? name = none :=
          given.symm
        unfold Scope.index? Scope.native? Scope.sequence? Scope.get?
        rw [unreplaced, found]
        exact ⟨rfl, rfl, fun _ => rfl⟩
    | some value =>
        rw [recorded] at given
        have entry : (attachment.logic.scope ⟨replacements⟩).substitution.get? name =
            some (.value value) := given.symm
        have loopCaptured := member (List.mem_map_of_mem (f := Prod.snd) captured)
        rcases (insideEarlier.entries recorded).foreign issued loopCaptured foreign with
          ⟨noIndex, among⟩
        unfold Scope.index? Scope.native? Scope.sequence?
        rw [entry]
        exact ⟨noIndex, rfl, fun absent => absurd among absent⟩

end Reports

end Nest

end LoopNest
