import LoopNest.Proofs.Logic.Building
import LoopNest.Proofs.Nest.Replay
import LoopNest.Proofs.Pass.Composition

namespace LoopNest

/-!
# What kernel bodies see

The scope of a kernel is fixed when its logic function is resolved, and later
commands go on to add entries to the identity map.  All the same the scope can
be told by the map that the pass ends with.  An entry that was found stays, and
an entry that is added later belongs to a captured array that the pass makes.
If all handles come from one arena, such an array is no other captured value,
so a value that went through without an entry has none at the end.

Sequences are the exception: an element that was dropped may have an entry
later.
-/

/-- The entry of a value in an identity map. -/
def Capture.entry? {σ : Type} (identities : IdentityMap) (capture : Capture σ) :
    Option NativeValue :=
  capture.identity?.bind fun token => identities[token]?

/-- The values are entries of some of the elements, in their order, and of all
elements whose tokens are supplied. -/
def Lists {σ : Type} (identities : IdentityMap) (supplied : List Token)
    (elements : List (Capture σ)) (values : List NativeValue) : Prop :=
  ∃ kept, kept.Sublist elements ∧
    (elements.filter fun element => element.identity?.any fun token => token ∈ supplied).Sublist
      kept ∧
    kept.map (Capture.entry? identities) = values.map some

/-- What a body finds for a captured value, told by an identity map. -/
inductive Shows {σ : Type} (identities : IdentityMap) (supplied : List Token) (store : Store σ) :
    Capture σ -> Binding σ -> Prop
  /-- A value with an entry is replaced by it. -/
  | mapped {capture : Capture σ} {token : Token} {value : NativeValue}
      (identity : capture.identity? = some token) (found : identities[token]? = some value) :
      Shows identities supplied store capture (.resolved (.value value))
  /-- A deferred integer without an entry is replaced by its number. -/
  | deferred {value : Deferred σ} {number : Int} (missing : identities[value.id]? = none)
      (answered : store.answer? value.resolve = some number) :
      Shows identities supplied store (.deferred value)
        (.resolved (.value (.scalar (.int number))))
  /-- An index, a scalar or an array argument without an entry goes through. -/
  | index {loop : LoopIndex} (missing : identities[loop.id]? = none) :
      Shows identities supplied store (.index loop) (.captured (.index loop))
  | scalar {value : TaggedScalar} (missing : identities[value.id]? = none) :
      Shows identities supplied store (.scalar value) (.captured (.scalar value))
  | argument {handle : ArrayHandle} (missing : identities[handle.id]? = none)
      (role : handle.role.isArgument = true) :
      Shows identities supplied store (.array handle) (.captured (.array handle))
  /-- A sequence is replaced by entries of its elements. -/
  | sequence {elements : List (Capture σ)} {values : List NativeValue}
      (listed : Lists identities supplied elements values) :
      Shows identities supplied store (.sequence elements) (.resolved (.sequence values))
  | lazy {produce : EStateM String (Store σ) (List (Capture σ))} {elements : List (Capture σ)}
      {values : List NativeValue} (produced : store.answer? produce = some elements)
      (listed : Lists identities supplied elements values) :
      Shows identities supplied store (.lazy produce) (.resolved (.sequence values))

/-- A value with an entry is replaced by it, whatever its kind. -/
theorem Shows.eq_of_entry {σ : Type} {identities : IdentityMap} {supplied : List Token}
    {store : Store σ} {capture : Capture σ} {binding : Binding σ} {value : NativeValue}
    (found : capture.entry? identities = some value)
    (shown : Shows identities supplied store capture binding) :
    binding = .resolved (.value value) := by
  rcases Option.bind_eq_some_iff.mp found with ⟨token, identity, entry⟩
  cases shown with
  | mapped otherIdentity otherEntry =>
      rw [identity] at otherIdentity
      cases otherIdentity
      rw [entry] at otherEntry
      cases otherEntry
      rfl
  | deferred missing answered =>
      cases identity
      exact absurd entry (missing ▸ nofun)
  | index missing =>
      cases identity
      exact absurd entry (missing ▸ nofun)
  | scalar missing =>
      cases identity
      exact absurd entry (missing ▸ nofun)
  | argument missing role =>
      cases identity
      exact absurd entry (missing ▸ nofun)
  | sequence listed => cases identity
  | lazy produced listed => cases identity

/-- What a body finds for a value with a token is determined. -/
theorem Shows.unique {σ : Type} {identities : IdentityMap} {supplied : List Token}
    {store : Store σ} {capture : Capture σ} {first second : Binding σ} {token : Token}
    (identity : capture.identity? = some token)
    (firstShown : Shows identities supplied store capture first)
    (secondShown : Shows identities supplied store capture second) : first = second := by
  cases entry : capture.entry? identities with
  | some value => rw [firstShown.eq_of_entry entry, secondShown.eq_of_entry entry]
  | none =>
      have unmapped {carried : Token} {value : NativeValue}
          (carries : capture.identity? = some carried) : identities[carried]? ≠ some value := by
        intro found
        rw [Capture.entry?, carries, Option.bind_some, found] at entry
        cases entry
      cases firstShown with
      | mapped carries found => exact absurd found (unmapped carries)
      | deferred missing answered =>
          cases secondShown with
          | mapped carries found => exact absurd found (unmapped carries)
          | deferred _ answeredAgain =>
              rw [answered] at answeredAgain
              cases answeredAgain
              rfl
      | index missing =>
          cases secondShown with
          | mapped carries found => exact absurd found (unmapped carries)
          | index _ => rfl
      | scalar missing =>
          cases secondShown with
          | mapped carries found => exact absurd found (unmapped carries)
          | scalar _ => rfl
      | argument missing role =>
          cases secondShown with
          | mapped carries found => exact absurd found (unmapped carries)
          | argument _ _ => rfl
      | sequence listed => cases identity
      | lazy produced listed => cases identity

theorem ArrayHandle.isArgument_iff (handle : ArrayHandle) :
    handle.role.isArgument = true <-> handle.source.origin? = none := by
  rw [← handle.role_source]
  cases handle.source <;> simp [ArraySource.role, ArrayRole.isArgument, ArraySource.origin?]

namespace Pass

variable {σ : Type} {values : List (Capture σ)} {supplied : List Token} {store : Store σ}

/-- The entries that a pass finds now for the elements of a sequence, told by a
later map. -/
theorem natives_of_mappedFrom {pass : Pass (Recorder σ) σ} {identities : IdentityMap}
    (kept : forall {token : Token} {value : NativeValue},
      pass.identities[token]? = some value -> identities[token]? = some value)
    {elements : List (Capture σ)} {natives : List NativeValue}
    (entries : pass.mappedFrom 0 elements = .ok natives) :
    natives.map some =
      (elements.filter fun element => (pass.lookup? element).isSome).map
        (Capture.entry? identities) := by
  have now : natives.map some =
      (elements.filter fun element => (pass.lookup? element).isSome).map pass.lookup? := by
    rw [eq_filterMap_of_mappedFrom entries, List.map_filterMap_some_eq_filter_map_isSome,
      List.filter_map]
    rfl
  rw [now]
  refine List.map_congr_left ?_
  intro element member
  rcases Option.isSome_iff_exists.mp (List.mem_filter.mp member).2 with ⟨value, found⟩
  rcases Option.bind_eq_some_iff.mp found with ⟨token, identity, entry⟩
  rw [found, Capture.entry?, identity, Option.bind_some, kept entry]

/-- The elements whose tokens are supplied are among those with an entry. -/
theorem lists_of_mappedFrom {pass : Pass (Recorder σ) σ} {identities : IdentityMap}
    (stands : Stands supplied store pass)
    (kept : forall {token : Token} {value : NativeValue},
      pass.identities[token]? = some value -> identities[token]? = some value)
    {elements : List (Capture σ)} {natives : List NativeValue}
    (entries : pass.mappedFrom 0 elements = .ok natives) :
    Lists identities supplied elements natives := by
  refine ⟨elements.filter fun element => (pass.lookup? element).isSome, List.filter_sublist,
    ?_, (natives_of_mappedFrom kept entries).symm⟩
  have mapped {element : Capture σ}
      (supplies : (element.identity?.any fun token => token ∈ supplied) = true) :
      (pass.lookup? element).isSome = true := by
    rcases (Option.any_eq_true _ _).mp supplies with ⟨token, identity, member⟩
    rcases stands.present token (of_decide_eq_true member) with ⟨value, found⟩
    rw [lookup?, identity, Option.bind_some, found]
    rfl
  have twice : (elements.filter fun element =>
        element.identity?.any fun token => token ∈ supplied) =
      (elements.filter fun element => (pass.lookup? element).isSome).filter fun element =>
        element.identity?.any fun token => token ∈ supplied := by
    rw [List.filter_filter]
    refine List.filter_congr fun element _ => ?_
    cases supplies : element.identity?.any fun token => token ∈ supplied with
    | true => rw [mapped supplies, Bool.and_self]
    | false => rw [Bool.false_and]
  rw [twice]
  exact List.filter_sublist

/-- A value that no pass makes has no entry later, if it has none now. -/
theorem missing_of_unmade {handles : List ArrayHandle} {before after : IdentityMap}
    (completes : Completes handles before after)
    (made : forall handle, handle ∈ handles -> handle ∈ Capture.madeIn values)
    (issued : FromOneArena values) {capture : Capture σ} (member : capture ∈ values)
    (unmade : capture.made? = none) {token : Token} (identity : capture.identity? = some token)
    (missing : before[token]? = none) : after[token]? = none := by
  refine completes.absent missing (Option.eq_none_iff_forall_not_mem.mpr ?_)
  intro handle isFirst
  rcases mem_of_firstOf?_eq_some isFirst with ⟨handleMember, carries⟩
  rcases (Capture.mem_madeIn_iff values handle).mp (made handle handleMember) with
    ⟨arrayMember, origin⟩
  have carried : (Capture.array handle : Capture σ).identity? = some token :=
    congrArg some carries
  have same := issued.eq_of_identity member arrayMember identity carried
  rw [(capture.made?_eq_some_iff handle).mpr ⟨same, origin⟩] at unmade
  cases unmade

/-- What the scope holds for a value that was resolved, if there is a
replacement and if there is none. -/
def bindingOf (capture : Capture σ) : Option Replacement -> Binding σ
  | some replacement => .resolved replacement
  | none => .captured capture

/-- What resolving a value gives is what the later map tells. -/
theorem Resolves.shows {pass after : Pass (Recorder σ) σ} {capture : Capture σ}
    {replacement? : Option Replacement} {handles : List ArrayHandle} {identities : IdentityMap}
    (resolves : Resolves pass capture replacement? after) (stands : Stands supplied store pass)
    (completes : Completes handles after.identities identities)
    (made : forall handle, handle ∈ handles -> handle ∈ Capture.madeIn values)
    (issued : FromOneArena values) (member : capture ∈ values) (reads : capture.ReadOnly) :
    Shows identities supplied store capture (bindingOf capture replacement?) := by
  cases resolves with
  | mapped found =>
      rcases Option.bind_eq_some_iff.mp found with ⟨token, identity, entry⟩
      exact .mapped identity (completes.kept entry)
  | @made handle origin missing makes =>
      have entry : (pass.withArray handle origin).identities[handle.id]? =
          some (.array (pass.backend.nextArray handle.elementType origin)) :=
        Std.ExtTreeMap.getElem?_insert_self
      exact .mapped rfl (completes.kept entry)
  | @argument handle missing source =>
      have unmade : (Capture.array handle : Capture σ).made? = none :=
        Capture.made?_of_argument source
      have absent := missing_of_unmade completes made issued member unmade rfl missing
      exact .argument absent (handle.isArgument_iff.mpr source)
  | index missing =>
      exact .index (missing_of_unmade completes made issued member rfl rfl missing)
  | scalar missing =>
      exact .scalar (missing_of_unmade completes made issued member rfl rfl missing)
  | deferred missing resolved =>
      have absent := missing_of_unmade completes made issued member rfl rfl missing
      have answered := (reads.resolve.eq_ok_iff _ _ _).mp resolved
      exact .deferred absent (stands.unchanged ▸ answered.1)
  | sequence entries => exact .sequence (lists_of_mappedFrom stands completes.kept entries)
  | @lazy produce elements middle natives produced entries =>
      have answered := (Store.ReadOnly.eq_ok_iff reads _ _ _).mp produced
      have later : Stands supplied store ({ pass with store := middle } : Pass (Recorder σ) σ) :=
        ⟨answered.2.trans stands.unchanged, stands.present⟩
      exact .lazy (stands.unchanged ▸ answered.1)
        (lists_of_mappedFrom later completes.kept entries)

theorem ResolvesAll.lookup_of_notMem {pass after : Pass (Recorder σ) σ}
    {entries : List (String × Capture σ)} {replacements : List (String × Replacement)}
    (resolvesAll : ResolvesAll pass entries replacements after) {name : String}
    (absent : name ∉ entries.map Prod.fst) : replacements.lookup name = none :=
  Pass.lookup_of_notMem ((resolveAll_eq_ok_iff "" _ _ _ _).mpr resolvesAll) absent

/-- The replacement of the value that is resolved first. -/
theorem ResolvesAll.lookup_first {pass after : Pass (Recorder σ) σ}
    {rest : List (String × Capture σ)} {others : List (String × Replacement)}
    (later : ResolvesAll pass rest others after) {name : String}
    (fresh : name ∉ rest.map Prod.fst) (replacement? : Option Replacement) :
    ((replacement?.map fun replacement => (name, replacement)).toList ++ others).lookup name =
      replacement? :=
  lookup_own (later.lookup_of_notMem fresh) replacement?

/-- Every captured value of a logic function is shown under its name. -/
theorem ResolvesAll.shows {pass after : Pass (Recorder σ) σ}
    {entries : List (String × Capture σ)} {replacements : List (String × Replacement)}
    {handles : List ArrayHandle} {identities : IdentityMap}
    (resolvesAll : ResolvesAll pass entries replacements after)
    (distinct : (entries.map Prod.fst).Nodup) (stands : Stands supplied store pass)
    (completes : Completes handles after.identities identities)
    (made : forall handle, handle ∈ handles -> handle ∈ Capture.madeIn values)
    (issued : FromOneArena values)
    (members : forall entry, entry ∈ entries -> entry.2 ∈ values)
    (reads : forall capture, capture ∈ values -> capture.ReadOnly) :
    forall entry, entry ∈ entries ->
      Shows identities supplied store entry.2
        (bindingOf entry.2 (replacements.lookup entry.1)) := by
  induction resolvesAll with
  | nil =>
      intro entry member
      exact absurd member List.not_mem_nil
  | @cons pass middle after name capture replacement? rest others first later
      inductionHypothesis =>
      rw [List.map_cons, List.nodup_cons] at distinct
      rw [List.forall_mem_cons] at members ⊢
      have readsFirst : capture.ReadOnly := reads capture members.1
      have through := later.completes.append completes
      have madeLater : forall handle,
          handle ∈ Capture.madeIn (rest.map Prod.snd) ++ handles ->
            handle ∈ Capture.madeIn values := by
        rw [List.forall_mem_append]
        refine ⟨Capture.madeIn_subset ?_, made⟩
        exact List.forall_mem_map.mpr members.2
      have shownFirst := first.shows stands through madeLater issued members.1 readsFirst
      have shownLater := inductionHypothesis distinct.2 (stands.resolves readsFirst first)
        completes members.2
      refine ⟨?_, ?_⟩
      · rw [later.lookup_first distinct.1]
        exact shownFirst
      · intro entry member
        have listed : entry.1 ∈ rest.map Prod.fst := List.mem_map_of_mem member
        have different : entry.1 ≠ name := fun same => distinct.1 (same ▸ listed)
        rw [lookup_later different]
        exact shownLater entry member

end Pass

/-- What the body of a recorded kernel finds under a name. -/
def RecordedKernel.binding? {σ : Type} (entry : RecordedKernel σ) (name : String) :
    Option (Binding σ) :=
  entry.kernel.scope?.bind fun scope => scope.get? name

/-- The recorded kernel is that of the command, and its body finds under every
captured name what an identity map tells, and nothing under other names. -/
structure Sees {σ : Type} (identities : IdentityMap) (supplied : List Token) (store : Store σ)
    (attachment : Attachment σ) (entry : RecordedKernel σ) : Prop where
  body : ∃ substitution, entry.kernel = Kernel.ofLogic attachment.logic substitution
  absent : forall name,
    entry.binding? name = none <-> attachment.logic.capture? name = none
  shown : forall name capture, attachment.logic.capture? name = some capture ->
    ∃ binding, entry.binding? name = some binding ∧
      Shows identities supplied store capture binding

namespace Nest

variable {σ : Type} {values : List (Capture σ)} {supplied : List Token} {store : Store σ}

theorem binding?_entry (attachment : Attachment σ) (space : NativeSpace)
    (substitution : Substitution) (name : String) :
    (attachment.entry space substitution).binding? name =
      match substitution.entries.lookup name with
      | some replacement => some (.resolved replacement)
      | none => (attachment.logic.capture? name).map .captured :=
  rfl

theorem mem_captured_of_capture? {nest : Nest σ} {attachment : Attachment σ}
    (attached : attachment ∈ nest.attachments) {name : String} {capture : Capture σ}
    (found : attachment.logic.capture? name = some capture) : capture ∈ nest.captured :=
  List.mem_flatMap.mpr ⟨attachment, attached, mem_captured (attachment.logic.mem_of_capture? found)⟩

/-- The scope of a kernel that is registered now, told by a later map. -/
theorem Adds.sees {pass after : Pass (Recorder σ) σ} {attachment : Attachment σ}
    {entry : RecordedKernel σ} {handles : List ArrayHandle} {identities : IdentityMap}
    (adds : Adds pass attachment entry after) (stands : pass.Stands supplied store)
    (completes : Completes handles after.identities identities)
    (made : forall handle, handle ∈ handles -> handle ∈ Capture.madeIn values)
    (issued : FromOneArena values)
    (members : forall capture, capture ∈ attachment.captured -> capture ∈ values)
    (reads : forall capture, capture ∈ values -> capture.ReadOnly) :
    Sees identities supplied store attachment entry := by
  cases adds with
  | @intro space substitution middle entered resolvesAll accepted recorded =>
      have shows := resolvesAll.shows attachment.logic.names_distinct stands completes made issued
        (fun entry member => members entry.2 (mem_captured member)) reads
      have bound {name : String} {capture : Capture σ}
          (found : attachment.logic.capture? name = some capture) :
          (attachment.entry space substitution).binding? name =
            some (Pass.bindingOf capture (substitution.entries.lookup name)) := by
        rw [binding?_entry, found]
        cases substitution.entries.lookup name <;> rfl
      refine ⟨⟨substitution, rfl⟩, ?_, ?_⟩
      · intro name
        constructor
        · intro unseen
          cases found : attachment.logic.capture? name with
          | none => rfl
          | some capture =>
              rw [bound found] at unseen
              cases unseen
        · intro uncaptured
          have absent : name ∉ attachment.logic.captures.map Prod.fst := by
            intro listed
            rcases List.mem_map.mp listed with ⟨entry, member, same⟩
            have different := List.lookup_eq_none_iff.mp uncaptured entry member
            simp [same] at different
          rw [binding?_entry, resolvesAll.lookup_of_notMem absent, uncaptured]
          rfl
      · intro name capture found
        exact ⟨_, bound found, shows (name, capture) (attachment.logic.mem_of_capture? found)⟩

theorem Adds.stands {pass after : Pass (Recorder σ) σ} {attachment : Attachment σ}
    {entry : RecordedKernel σ} (adds : Adds pass attachment entry after)
    (stands : pass.Stands supplied store)
    (reads : forall capture, capture ∈ attachment.captured -> capture.ReadOnly) :
    after.Stands supplied store := by
  cases adds with
  | intro entered resolvesAll accepted recorded =>
      have later := stands.resolvesAll
        (fun entry member => reads entry.2 (mem_captured member)) resolvesAll
      exact ⟨later.unchanged, later.present⟩

theorem AddsAll.length {pass after : Pass (Recorder σ) σ} {attachments : List (Attachment σ)}
    {added : List (RecordedKernel σ)} (addsAll : AddsAll pass attachments added after) :
    added.length = attachments.length := by
  induction addsAll with
  | nil => rfl
  | cons first later inductionHypothesis => exact congrArg Nat.succ inductionHypothesis

/-- The scopes of all kernels, told by the map that the last of them leaves. -/
theorem AddsAll.sees {pass after : Pass (Recorder σ) σ} {attachments : List (Attachment σ)}
    {added : List (RecordedKernel σ)} (addsAll : AddsAll pass attachments added after)
    (stands : pass.Stands supplied store) (issued : FromOneArena values)
    (members : forall capture, capture ∈ attachments.flatMap Attachment.captured ->
      capture ∈ values)
    (reads : forall capture, capture ∈ values -> capture.ReadOnly) :
    forall pair, pair ∈ attachments.zip added ->
      Sees after.identities supplied store pair.1 pair.2 := by
  induction addsAll with
  | nil =>
      intro pair member
      exact absurd member List.not_mem_nil
  | cons first later inductionHypothesis =>
      rw [List.flatMap_cons, List.forall_mem_append] at members
      have readsFirst := fun capture member => reads capture (members.1 capture member)
      have seesFirst := first.sees stands later.completes (Capture.madeIn_subset members.2)
        issued members.1 reads
      rw [List.zip_cons_cons, List.forall_mem_cons]
      exact ⟨seesFirst, inductionHypothesis (first.stands stands readsFirst) members.2⟩

end Nest

end LoopNest
