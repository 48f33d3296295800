import LoopNest.Proofs.Nest.Scopes
import LoopNest.Proofs.Pass.Making
import Mathlib.Data.List.Nodup

namespace LoopNest

/-!
# Captured values in another order

The captured values of a logic function are resolved in the order in which they
are declared, and each finds the entries that the earlier ones added.  If the
same values are declared in another order, arrays are made for the same
handles, under other numbers.  Up to these numbers a value with a token has the
same replacement in both orders, since its entry is that of its own handle.

A sequence is different.  It is replaced by the entries that its elements have
when its turn comes, so an array that a pass makes is among them only if it is
also captured on its own, and earlier.
-/

namespace LogicFunction

variable {σ : Type}

/-- The values that are captured before the one of the given name. -/
def earlier (logic : LogicFunction σ) (name : String) : List (Capture σ) :=
  (logic.captures.takeWhile fun entry => entry.1 != name).map Prod.snd

/-- The element of a sequence that is captured under the name has an entry when
the sequence is resolved: it had one in the map, or it is an array that is made
for a value captured before the sequence. -/
def keeps (logic : LogicFunction σ) (identities : IdentityMap) (name : String)
    (element : Capture σ) : Bool :=
  element.identity?.any fun token =>
    identities[token]?.isSome ||
      (Capture.madeIn (logic.earlier name)).any fun handle => handle.id = token

/-- A captured value stands behind those that are captured earlier. -/
theorem captures_eq_of_capture? (logic : LogicFunction σ) {name : String} {capture : Capture σ}
    (found : logic.capture? name = some capture) :
    ∃ before later, logic.captures = before ++ (name, capture) :: later ∧
      before.map Prod.snd = logic.earlier name := by
  rcases List.lookup_eq_some_iff.mp found with ⟨before, later, split, different⟩
  refine ⟨before, later, split, ?_⟩
  have passed : forall entry, entry ∈ before -> (entry.1 != name) = true := by
    intro entry member
    rw [bne_comm]
    exact different entry member
  rw [earlier, split, List.takeWhile_append_of_pos passed, List.takeWhile_cons_of_neg (by simp),
    List.append_nil]

end LogicFunction

theorem Capture.isSome_identity? {σ : Type} (capture : Capture σ) :
    capture.identity?.isSome = capture.elements?.isNone := by
  cases capture <;> rfl

/-- A sequence has no token, so there is no entry for it. -/
theorem Pass.lookup?_of_elements {β σ : Type} {capture : Capture σ}
    (sequence : capture.elements?.isSome = true) (pass : Pass β σ) :
    pass.lookup? capture = none := by
  have unidentified : capture.identity? = none := by
    rw [← Option.not_isSome_iff_eq_none, capture.isSome_identity?, ← Option.not_isSome, sequence]
    decide
  rw [lookup?, unidentified, Option.bind_none]

/-- Single values are related as given, and sequences element by element. -/
inductive Replacement.Alike (related : NativeValue -> NativeValue -> Prop) :
    Replacement -> Replacement -> Prop
  | value {native other : NativeValue} (holds : related native other) :
      Alike related (.value native) (.value other)
  | sequence {natives others : List NativeValue} (all : List.Forall₂ related natives others) :
      Alike related (.sequence natives) (.sequence others)

namespace Pass

variable {σ : Type}

/-- Two continuations of one pass have these values for the same thing: an entry
that the pass had, a number, or the arrays that they made for one token. -/
inductive Renamed (pass left right : Pass (Recorder σ) σ) : NativeValue -> NativeValue -> Prop
  | entry {token : Token} {value : NativeValue} (found : pass.identities[token]? = some value) :
      Renamed pass left right value value
  | scalar (number : Scalar) : Renamed pass left right (.scalar number) (.scalar number)
  | made {token : Token} {array other : NativeArray} (missing : pass.identities[token]? = none)
      (found : left.identities[token]? = some (.array array))
      (otherFound : right.identities[token]? = some (.array other)) :
      Renamed pass left right (.array array) (.array other)

theorem isSome_eq_of_rel {α β : Type} {related : α -> β -> Prop} {first : Option α}
    {second : Option β} (rel : Option.Rel related first second) :
    first.isSome = second.isSome := by
  cases rel <;> rfl

/-- Arrays for the same handles give the same entries up to their numbers. -/
theorem Materializes.renamed {pass left right : Pass (Recorder σ) σ}
    {handles others : List ArrayHandle} (leftMade : Materializes pass handles left)
    (rightMade : Materializes pass others right) (same : handles.Perm others) (token : Token) :
    Option.Rel (Renamed pass left right) left.identities[token]? right.identities[token]? := by
  by_cases carried : token ∈ handles.map ArrayHandle.id
  · rcases List.mem_map.mp carried with ⟨handle, member, rfl⟩
    rcases leftMade.exists_counterpart member with ⟨entry, _, counterpart⟩
    rcases rightMade.exists_counterpart (same.subset member) with ⟨other, _, otherCounterpart⟩
    rw [counterpart.found, otherCounterpart.found]
    exact .some (.made (leftMade.missing handle member) counterpart.found otherCounterpart.found)
  · have otherFree : token ∉ others.map ArrayHandle.id := by
      rwa [← (same.map ArrayHandle.id).mem_iff]
    rw [leftMade.others token carried, rightMade.others token otherFree]
    cases entry : pass.identities[token]? with
    | none => exact .none
    | some value => exact .some (.entry entry)

/-- When a token stands for one handle, the handles that are made are those
that a pass makes and that have no entry. -/
theorem mem_unmade_iff (pass : Pass (Recorder σ) σ) {handles : List ArrayHandle}
    (unique : forall first, first ∈ handles -> forall second, second ∈ handles ->
      first.id = second.id -> first = second) (handle : ArrayHandle) :
    handle ∈ pass.unmade handles <->
      handle ∈ handles ∧ pass.identities[handle.id]? = none := by
  constructor
  · intro member
    have filtered := List.mem_filter.mp ((firsts_sublist _).subset member)
    exact ⟨filtered.1, Option.isNone_iff_eq_none.mp filtered.2⟩
  · rintro ⟨member, missing⟩
    have unset : handle ∈ handles.filter fun handle => pass.identities[handle.id]?.isNone :=
      List.mem_filter.mpr ⟨member, Option.isNone_iff_eq_none.mpr missing⟩
    have carried := (mem_map_id_firsts handle.id _).mpr (List.mem_map_of_mem unset)
    rcases List.mem_map.mp carried with ⟨first, isFirst, same⟩
    have firstMember := (List.mem_filter.mp ((firsts_sublist _).subset isFirst)).1
    rw [← unique first firstMember handle member same]
    exact isFirst

/-- Arrays are made for the same handles in every order. -/
theorem unmade_perm {pass left right : Pass (Recorder σ) σ} {captures others : List (Capture σ)}
    (reordered : captures.Perm others) (issued : FromOneArena captures)
    (leftMade : Materializes pass (pass.unmade (Capture.madeIn captures)) left)
    (rightMade : Materializes pass (pass.unmade (Capture.madeIn others)) right) :
    (pass.unmade (Capture.madeIn captures)).Perm (pass.unmade (Capture.madeIn others)) := by
  -- Of two handles with one token the order would decide which of them is made.
  have unique : forall first, first ∈ Capture.madeIn captures ->
      forall second, second ∈ Capture.madeIn captures -> first.id = second.id ->
        first = second := by
    intro first firstMade second secondMade same
    have firstMember := ((Capture.mem_madeIn_iff captures first).mp firstMade).1
    have secondMember := ((Capture.mem_madeIn_iff captures second).mp secondMade).1
    have carried : (Capture.array first : Capture σ).identity? = some second.id :=
      congrArg some same
    exact Capture.array.inj (issued.eq_of_identity firstMember secondMember carried rfl)
  have madeReordered : (Capture.madeIn captures).Perm (Capture.madeIn others) :=
    reordered.filterMap _
  refine (List.perm_ext_iff_of_nodup leftMade.distinct.of_map rightMade.distinct.of_map).mpr ?_
  intro handle
  rw [mem_unmade_iff pass unique, mem_unmade_iff pass, madeReordered.mem_iff]
  intro first firstMade second secondMade
  exact unique first (madeReordered.symm.subset firstMade) second
    (madeReordered.symm.subset secondMade)

/-! ## Values with a token -/

theorem bindingOf_eq_resolved_iff (capture : Capture σ) (replacement? : Option Replacement)
    (replacement : Replacement) :
    bindingOf capture replacement? = .resolved replacement <->
      replacement? = some replacement := by
  cases replacement? <;> simp [bindingOf]

/-- Without an entry the binding does not depend on the map. -/
theorem Shows.of_missing {left right : IdentityMap} {supplied : List Token} {store : Store σ}
    {capture : Capture σ} {binding : Binding σ} {token : Token}
    (shown : Shows left supplied store capture binding)
    (identity : capture.identity? = some token) (missing : left[token]? = none)
    (otherMissing : right[token]? = none) :
    Shows right supplied store capture binding ∧
      (binding = .captured capture ∨
        ∃ number, binding = .resolved (.value (.scalar number))) := by
  cases shown with
  | mapped carries found =>
      rw [identity] at carries
      cases carries
      rw [missing] at found
      cases found
  | deferred _ answered =>
      cases identity
      exact ⟨.deferred otherMissing answered, .inr ⟨_, rfl⟩⟩
  | index _ =>
      cases identity
      exact ⟨.index otherMissing, .inl rfl⟩
  | scalar _ =>
      cases identity
      exact ⟨.scalar otherMissing, .inl rfl⟩
  | argument _ role =>
      cases identity
      exact ⟨.argument otherMissing role, .inl rfl⟩
  | sequence listed => cases identity
  | lazy produced listed => cases identity

/-- If the entries are the same up to numbers, so are the replacements of a
value with a token. -/
theorem alike_of_shows {pass left right : Pass (Recorder σ) σ} {supplied : List Token}
    {store : Store σ} {capture : Capture σ} {replacement? other? : Option Replacement}
    (entries : forall token : Token,
      Option.Rel (Renamed pass left right) left.identities[token]? right.identities[token]?)
    (single : capture.elements? = none)
    (shown : Shows left.identities supplied store capture (bindingOf capture replacement?))
    (otherShown : Shows right.identities supplied store capture (bindingOf capture other?)) :
    Option.Rel (Replacement.Alike (Renamed pass left right)) replacement? other? := by
  have carries : capture.identity?.isSome = true := by rw [capture.isSome_identity?, single]; rfl
  rcases Option.isSome_iff_exists.mp carries with ⟨token, identity⟩
  have entry (identities : IdentityMap) : capture.entry? identities = identities[token]? := by
    rw [Capture.entry?, identity, Option.bind_some]
  have related := entries token
  -- A value with an entry has that replacement.  Without an entry no map matters,
  -- and what is left are indices, scalars and arguments, and deferred integers.
  cases found : left.identities[token]? with
  | some value =>
      rw [found] at related
      cases otherFound : right.identities[token]? with
      | none =>
          rw [otherFound] at related
          cases related
      | some other =>
          rw [otherFound] at related
          have bound := shown.eq_of_entry ((entry _).trans found)
          have otherBound := otherShown.eq_of_entry ((entry _).trans otherFound)
          rw [(bindingOf_eq_resolved_iff _ _ _).mp bound,
            (bindingOf_eq_resolved_iff _ _ _).mp otherBound]
          cases related with
          | some holds => exact .some (.value holds)
  | none =>
      rw [found] at related
      cases otherFound : right.identities[token]? with
      | some other =>
          rw [otherFound] at related
          cases related
      | none =>
          have moved := Shows.of_missing shown identity found otherFound
          have same := moved.1.unique identity otherShown
          have equal : replacement? = other? := by
            cases replacement? <;> cases other? <;> cases same <;> rfl
          subst equal
          rcases moved.2 with through | ⟨number, resolved⟩
          · cases replacement? with
            | none => exact .none
            | some replacement => cases through
          · rw [(bindingOf_eq_resolved_iff _ _ _).mp resolved]
            exact .some (.value (.scalar number))

/-! ## Sequences -/

/-- Where the turn of one captured value comes. -/
theorem ResolvesAll.split {pass after : Pass (Recorder σ) σ}
    {before later : List (String × Capture σ)} {name : String} {capture : Capture σ}
    {replacements : List (String × Replacement)}
    (resolvesAll : ResolvesAll pass (before ++ (name, capture) :: later) replacements after)
    (distinct : ((before ++ (name, capture) :: later).map Prod.fst).Nodup) :
    ∃ first middle next last, ResolvesAll pass before first middle ∧
      Resolves middle capture (replacements.lookup name) next ∧
        ResolvesAll next later last after := by
  induction before generalizing pass replacements with
  | nil =>
      cases resolvesAll with
      | @cons _ next _ _ _ replacement? _ others resolves rest =>
          have fresh := (List.nodup_cons.mp distinct).1
          rw [rest.lookup_first fresh]
          exact ⟨[], pass, next, others, .nil, resolves, rest⟩
  | cons entry before inductionHypothesis =>
      rw [List.cons_append, List.map_cons, List.nodup_cons] at distinct
      cases resolvesAll with
      | @cons _ following _ other _ replacement? _ others resolves rest =>
          have different : name ≠ other := by
            intro same
            refine distinct.1 (same ▸ ?_)
            rw [List.map_append]
            exact List.mem_append_right _ List.mem_cons_self
          rw [lookup_later different]
          rcases inductionHypothesis rest distinct.2 with
            ⟨first, middle, next, last, earlier, own, remaining⟩
          exact ⟨_, middle, next, last, .cons resolves earlier, own, remaining⟩

/-- Resolving a sequence gives the entries of its elements. -/
theorem Resolves.natives_of_sequence {pass after : Pass (Recorder σ) σ} {capture : Capture σ}
    {replacement? : Option Replacement} {produce : EStateM String (Store σ) (List (Capture σ))}
    (resolves : Resolves pass capture replacement? after)
    (sequence : capture.elements? = some produce) (reads : capture.ReadOnly) :
    ∃ elements natives, pass.store.answer? produce = some elements ∧
      pass.mappedFrom 0 elements = .ok natives ∧ replacement? = some (.sequence natives) := by
  cases resolves with
  | mapped found =>
      rw [lookup?_of_elements (Option.isSome_of_eq_some sequence)] at found
      cases found
  | made missing makes => cases sequence
  | argument missing source => cases sequence
  | index missing => cases sequence
  | scalar missing => cases sequence
  | deferred missing resolved => cases sequence
  | @sequence elements natives entries =>
      cases sequence
      exact ⟨elements, natives, rfl, entries, rfl⟩
  | @lazy produce elements store natives produced entries =>
      cases sequence
      rcases (Store.ReadOnly.eq_ok_iff reads _ _ _).mp produced with ⟨answered, rfl⟩
      exact ⟨elements, natives, answered, entries, rfl⟩

/-- A strict pass finds the entries of a sequence only if all elements have
one. -/
theorem isSome_lookup_of_strict {β : Type} {pass : Pass β σ}
    (strict : pass.options.strictSequences = true) {position : Nat} {elements : List (Capture σ)}
    {natives : List NativeValue} (entries : pass.mappedFrom position elements = .ok natives) :
    forall element, element ∈ elements -> (pass.lookup? element).isSome = true := by
  induction elements generalizing position natives with
  | nil => exact fun _ impossible => absurd impossible List.not_mem_nil
  | cons element rest inductionHypothesis =>
      rw [mappedFrom, strict] at entries
      cases entry : pass.lookup? element with
      | none =>
          simp only [entry, if_true] at entries
          cases entries
      | some value =>
          simp only [entry] at entries
          cases later : pass.mappedFrom (position + 1) rest with
          | error fault =>
              rw [later] at entries
              cases entries
          | ok others =>
              rw [List.forall_mem_cons, entry]
              exact ⟨rfl, inductionHypothesis later⟩

end Pass

/-- The values are the entries of the elements that are kept, in order, and a
strict pass keeps all elements. -/
structure Gathers {σ : Type} (identities : IdentityMap) (options : PassOptions)
    (keeps : Capture σ -> Bool) (elements : List (Capture σ)) (natives : List NativeValue) :
    Prop where
  natives_eq : natives.map some = (elements.filter keeps).map (Capture.entry? identities)
  all_of_strict : options.strictSequences = true ->
    forall element, element ∈ elements -> keeps element = true

/-- Sequences that keep the same elements are the same up to numbers. -/
theorem Gathers.forall₂ {σ : Type} {left right : IdentityMap} {options : PassOptions}
    {keeps otherKeeps : Capture σ -> Bool} {elements : List (Capture σ)}
    {natives others : List NativeValue} {related : NativeValue -> NativeValue -> Prop}
    (gathers : Gathers left options keeps elements natives)
    (otherGathers : Gathers right options otherKeeps elements others)
    (entries : forall token : Token, Option.Rel related left[token]? right[token]?)
    (same : elements.filter keeps = elements.filter otherKeeps) :
    List.Forall₂ related natives others := by
  have found : List.Forall₂ (Option.Rel related) (natives.map some) (others.map some) := by
    rw [gathers.natives_eq, otherGathers.natives_eq, same, List.forall₂_map_left_iff,
      List.forall₂_map_right_iff, List.forall₂_same]
    intro element _
    unfold Capture.entry?
    cases element.identity? with
    | none => exact .none
    | some token => exact entries token
  rw [List.forall₂_map_left_iff, List.forall₂_map_right_iff] at found
  refine found.imp fun native other holds => ?_
  cases holds with
  | some holds => exact holds

namespace Pass

variable {σ : Type}

/-- A pass stands where it is, with nothing supplied beforehand. -/
theorem stands_now (pass : Pass (Recorder σ) σ) : Stands [] pass.store pass :=
  ⟨rfl, fun _ impossible => absurd impossible List.not_mem_nil⟩

/-- The replacement of a captured value, told by the map that is left. -/
theorem shows_of_resolvesAll {logic : LogicFunction σ} {pass after : Pass (Recorder σ) σ}
    {replacements : List (String × Replacement)}
    (resolvesAll : ResolvesAll pass logic.captures replacements after)
    (reads : forall entry, entry ∈ logic.captures -> entry.2.ReadOnly)
    (issued : FromOneArena (logic.captures.map Prod.snd)) {name : String} {capture : Capture σ}
    (found : logic.capture? name = some capture) :
    Shows after.identities [] pass.store capture
      (bindingOf capture (replacements.lookup name)) := by
  have valuesRead : forall capture, capture ∈ logic.captures.map Prod.snd -> capture.ReadOnly :=
    List.forall_mem_map.mpr reads
  exact resolvesAll.shows logic.names_distinct (stands_now pass) (.refl _)
    (fun _ impossible => nomatch impossible) issued (fun _ member => List.mem_map_of_mem member)
    valuesRead (name, capture) (logic.mem_of_capture? found)

theorem lookup_of_uncaptured {logic : LogicFunction σ} {pass after : Pass (Recorder σ) σ}
    {replacements : List (String × Replacement)}
    (resolvesAll : ResolvesAll pass logic.captures replacements after) {name : String}
    (absent : logic.capture? name = none) : replacements.lookup name = none := by
  refine resolvesAll.lookup_of_notMem ?_
  intro listed
  rcases List.mem_map.mp listed with ⟨⟨_, capture⟩, member, rfl⟩
  rw [(logic.capture?_eq_some_iff _ capture).mpr member] at absent
  cases absent

/-- What a sequence keeps is told by its place among the captured values. -/
theorem gathers_of_resolvesAll {logic : LogicFunction σ} {pass after : Pass (Recorder σ) σ}
    {replacements : List (String × Replacement)}
    (resolvesAll : ResolvesAll pass logic.captures replacements after)
    (reads : forall entry, entry ∈ logic.captures -> entry.2.ReadOnly) {name : String}
    {capture : Capture σ} (found : logic.capture? name = some capture)
    {produce : EStateM String (Store σ) (List (Capture σ))}
    (sequence : capture.elements? = some produce) :
    ∃ elements natives, pass.store.answer? produce = some elements ∧
      replacements.lookup name = some (.sequence natives) ∧
        Gathers after.identities pass.options (logic.keeps pass.identities name) elements
          natives := by
  rcases logic.captures_eq_of_capture? found with ⟨before, later, split, earlier⟩
  have distinct := logic.names_distinct
  rw [split] at resolvesAll reads distinct
  rw [List.forall_mem_append, List.forall_mem_cons] at reads
  rcases resolvesAll.split distinct with ⟨first, middle, next, last, begun, own, rest⟩
  rcases own.natives_of_sequence sequence reads.2.1 with
    ⟨elements, natives, answered, entries, replaced⟩
  have unchanged := ((stands_now pass).resolvesAll reads.1 begun).unchanged
  -- The entries of the state in which the turn comes, told by the captured values before.
  have kept : (fun element => (middle.lookup? element).isSome) =
      logic.keeps pass.identities name := by
    funext element
    unfold lookup? LogicFunction.keeps
    cases element.identity? with
    | none => rfl
    | some token =>
        have present := begun.completes.exists_iff token
        rw [Option.bind_some, Option.any_some, Bool.eq_iff_iff, Option.isSome_iff_exists, present,
          Bool.or_eq_true, Option.isSome_iff_exists, List.any_eq_true, earlier]
        simp only [decide_eq_true_iff]
  refine ⟨elements, natives, unchanged ▸ answered, replaced, ?_, ?_⟩
  · rw [← kept]
    exact natives_of_mappedFrom (fun old => rest.completes.kept (own.completes.kept old)) entries
  · intro strict
    rw [← begun.continues.options] at strict
    rw [← kept]
    exact isSome_lookup_of_strict strict entries

section Reordered

variable {left right : LogicFunction σ} {pass leftAfter rightAfter : Pass (Recorder σ) σ}
  {replacements others : List (String × Replacement)}
  (reordered : left.captures.Perm right.captures)
  (reads : forall entry, entry ∈ left.captures -> entry.2.ReadOnly)
  (issued : FromOneArena (left.captures.map Prod.snd))
  (leftAll : ResolvesAll pass left.captures replacements leftAfter)
  (rightAll : ResolvesAll pass right.captures others rightAfter)

include reordered issued leftAll rightAll in
theorem handles_reordered :
    (pass.unmade (Capture.madeIn (left.captures.map Prod.snd))).Perm
      (pass.unmade (Capture.madeIn (right.captures.map Prod.snd))) :=
  unmade_perm (reordered.map Prod.snd) issued leftAll.materializes rightAll.materializes

include reordered issued leftAll rightAll in
theorem entries_reordered (token : Token) :
    Option.Rel (Renamed pass leftAfter rightAfter) leftAfter.identities[token]?
      rightAfter.identities[token]? :=
  leftAll.materializes.renamed rightAll.materializes
    (handles_reordered reordered issued leftAll rightAll) token

include reordered reads issued leftAll rightAll

theorem alike_single {name : String} {capture : Capture σ}
    (found : left.capture? name = some capture) (single : capture.elements? = none) :
    Option.Rel (Replacement.Alike (Renamed pass leftAfter rightAfter)) (replacements.lookup name)
      (others.lookup name) := by
  have rightFound := LogicFunction.capture?_of_perm reordered name ▸ found
  have shown := shows_of_resolvesAll leftAll reads issued found
  have otherShown := shows_of_resolvesAll rightAll
    (fun entry member => reads entry (reordered.symm.subset member))
    (issued.mono fun _ member => (reordered.map Prod.snd).symm.subset member) rightFound
  exact alike_of_shows (entries_reordered reordered issued leftAll rightAll) single shown otherShown

theorem gathers_sequence {name : String} {capture : Capture σ}
    (found : left.capture? name = some capture)
    {produce : EStateM String (Store σ) (List (Capture σ))}
    (sequence : capture.elements? = some produce) :
    ∃ elements natives otherNatives, pass.store.answer? produce = some elements ∧
      replacements.lookup name = some (.sequence natives) ∧
      others.lookup name = some (.sequence otherNatives) ∧
      Gathers leftAfter.identities pass.options (left.keeps pass.identities name) elements
        natives ∧
      Gathers rightAfter.identities pass.options (right.keeps pass.identities name) elements
        otherNatives ∧
      (elements.filter (left.keeps pass.identities name) =
          elements.filter (right.keeps pass.identities name) ->
        List.Forall₂ (Renamed pass leftAfter rightAfter) natives otherNatives) := by
  have rightFound := LogicFunction.capture?_of_perm reordered name ▸ found
  rcases gathers_of_resolvesAll leftAll reads found sequence with
    ⟨elements, natives, answered, replaced, gathers⟩
  rcases gathers_of_resolvesAll rightAll
      (fun entry member => reads entry (reordered.symm.subset member)) rightFound sequence with
    ⟨otherElements, otherNatives, otherAnswered, otherReplaced, otherGathers⟩
  rw [answered] at otherAnswered
  cases otherAnswered
  have entries := entries_reordered reordered issued leftAll rightAll
  exact ⟨elements, natives, otherNatives, answered, replaced, otherReplaced, gathers,
    otherGathers, gathers.forall₂ otherGathers entries⟩

/-- The same names are replaced. -/
theorem isSome_lookup_reordered (name : String) :
    (replacements.lookup name).isSome = (others.lookup name).isSome := by
  cases found : left.capture? name with
  | none =>
      have rightFound := LogicFunction.capture?_of_perm reordered name ▸ found
      rw [lookup_of_uncaptured leftAll found, lookup_of_uncaptured rightAll rightFound]
  | some capture =>
      cases sequence : capture.elements? with
      | none =>
          exact isSome_eq_of_rel
            (alike_single reordered reads issued leftAll rightAll found sequence)
      | some produce =>
          rcases gathers_sequence reordered reads issued leftAll rightAll found sequence with
            ⟨_, _, _, _, replaced, otherReplaced, _⟩
          rw [replaced, otherReplaced]
          rfl

end Reordered

/-- When two orders of the same captured values both resolve from one state,
arrays are made for the same handles and the same names are replaced.  The
replacement of a value with a token is the same up to the numbers of these
arrays.  A sequence keeps the elements that have an entry when its turn comes,
and where these are the same in both orders, so is its replacement. -/
theorem resolve_reordered {left right : LogicFunction σ}
    (reordered : left.captures.Perm right.captures)
    (reads : forall entry, entry ∈ left.captures -> entry.2.ReadOnly)
    (issued : FromOneArena (left.captures.map Prod.snd))
    {pass leftAfter rightAfter : Pass (Recorder σ) σ} {first second : Substitution}
    (leftDone : resolve left pass = .ok first leftAfter)
    (rightDone : resolve right pass = .ok second rightAfter) :
    (∃ handles others, handles.Perm others ∧ Materializes pass handles leftAfter ∧
      Materializes pass others rightAfter) ∧
    (forall name, first.contains name = second.contains name) ∧
    (forall name capture, left.capture? name = some capture -> capture.elements? = none ->
      Option.Rel (Replacement.Alike (Renamed pass leftAfter rightAfter)) (first.get? name)
        (second.get? name)) ∧
    (forall name capture produce, left.capture? name = some capture ->
      capture.elements? = some produce ->
        ∃ elements natives others, pass.store.answer? produce = some elements ∧
          first.get? name = some (.sequence natives) ∧
          second.get? name = some (.sequence others) ∧
          Gathers leftAfter.identities pass.options (left.keeps pass.identities name) elements
            natives ∧
          Gathers rightAfter.identities pass.options (right.keeps pass.identities name) elements
            others ∧
          (elements.filter (left.keeps pass.identities name) =
              elements.filter (right.keeps pass.identities name) ->
            List.Forall₂ (Renamed pass leftAfter rightAfter) natives others)) := by
  have leftAll := (resolve_eq_ok_iff _ _ _ _).mp leftDone
  have rightAll := (resolve_eq_ok_iff _ _ _ _).mp rightDone
  refine ⟨⟨_, _, handles_reordered reordered issued leftAll rightAll, leftAll.materializes,
    rightAll.materializes⟩, ?_, ?_, ?_⟩
  · intro name
    exact isSome_lookup_reordered reordered reads issued leftAll rightAll name
  · intro name capture found single
    exact alike_single reordered reads issued leftAll rightAll found single
  · intro name capture produce found sequence
    exact gathers_sequence reordered reads issued leftAll rightAll found sequence

end Pass

/-! ## Two arrays and a sequence of both -/

namespace Sample

def pool : ArrayHandle :=
  ⟨⟨⟨0⟩, .temporary, .float64, ⟨[4], .first⟩, none⟩, by decide⟩

def weights : ArrayHandle :=
  ⟨⟨⟨1⟩, .constant, .int32, ⟨[2], .first⟩, some (.ints [1, 2])⟩, by decide⟩

def both : Capture Unit :=
  .sequence [.array pool, .array weights]

/-- A logic function that only captures. -/
def capturing (captures : List (String × Capture Unit))
    (distinct : (captures.map Prod.fst).Nodup) : LogicFunction Unit :=
  ⟨"kernel", captures, fun _ store => store, distinct⟩

def arraysFirst : LogicFunction Unit :=
  capturing [("pool", .array pool), ("weights", .array weights), ("all", both)] (by decide)

/-- The arrays in the other order. -/
def arraysSwapped : LogicFunction Unit :=
  capturing [("weights", .array weights), ("pool", .array pool), ("all", both)] (by decide)

def sequenceFirst : LogicFunction Unit :=
  capturing [("all", both), ("pool", .array pool), ("weights", .array weights)] (by decide)

theorem arraysFirst_reads :
    forall entry, entry ∈ arraysFirst.captures -> entry.2.ReadOnly := by
  simp [arraysFirst, capturing, both, Capture.ReadOnly]

theorem arraysFirst_issued : FromOneArena (arraysFirst.captures.map Prod.snd) := by
  refine ⟨[.array .temporary .float64 ⟨[4], .first⟩,
    .array (.constant (.ints [1, 2])) .int32 ⟨[2], .first⟩], by decide, ?_⟩
  have served : forall value : Capture Unit, value ∈ [.array pool, .array weights, both] ->
      value.identity?.isSome = true -> value ∈ [.array pool, .array weights] := by
    simp [both, Capture.identity?]
  exact served

/-- A pass that has just begun. -/
def begun : Pass (Recorder Unit) Unit :=
  Pass.start .empty (Store.initial ()) .empty .lenient

end Sample

namespace Pass

/-- With the arrays in the other order each gets the number of the other, in
the sequence too. -/
theorem resolve_swapped_arrays :
    ∃ first second leftAfter rightAfter natives others,
      resolve Sample.arraysFirst Sample.begun = .ok first leftAfter ∧
      resolve Sample.arraysSwapped Sample.begun = .ok second rightAfter ∧
      first.get? "pool" = some (.value (.array ⟨0, .float64, .allocated⟩)) ∧
      second.get? "pool" = some (.value (.array ⟨1, .float64, .allocated⟩)) ∧
      Option.Rel (Replacement.Alike (Renamed Sample.begun leftAfter rightAfter))
        (first.get? "pool") (second.get? "pool") ∧
      first.get? "all" = some (.sequence natives) ∧
      second.get? "all" = some (.sequence others) ∧ natives.length = 2 ∧
      List.Forall₂ (Renamed Sample.begun leftAfter rightAfter) natives others := by
  let first : Substitution :=
    ⟨[("pool", .value (.array ⟨0, .float64, .allocated⟩)),
      ("weights", .value (.array ⟨1, .int32, .constant⟩)),
      ("all", .sequence [.array ⟨0, .float64, .allocated⟩, .array ⟨1, .int32, .constant⟩])]⟩
  let second : Substitution :=
    ⟨[("weights", .value (.array ⟨0, .int32, .constant⟩)),
      ("pool", .value (.array ⟨1, .float64, .allocated⟩)),
      ("all", .sequence [.array ⟨1, .float64, .allocated⟩, .array ⟨0, .int32, .constant⟩])]⟩
  have leftDone : resolve Sample.arraysFirst Sample.begun =
      .ok first (Outcome.state (resolve Sample.arraysFirst Sample.begun)) := rfl
  have rightDone : resolve Sample.arraysSwapped Sample.begun =
      .ok second (Outcome.state (resolve Sample.arraysSwapped Sample.begun)) := rfl
  have reordered : Sample.arraysFirst.captures.Perm Sample.arraysSwapped.captures :=
    .swap _ _ _
  have outcome := resolve_reordered reordered Sample.arraysFirst_reads Sample.arraysFirst_issued
    leftDone rightDone
  rcases outcome.2.2.2 "all" Sample.both _ rfl rfl with
    ⟨elements, natives, others, answered, replaced, otherReplaced, _, _, alike⟩
  cases answered
  cases replaced
  exact ⟨first, second, _, _, _, others, leftDone, rightDone, rfl, rfl,
    outcome.2.2.1 "pool" (.array Sample.pool) rfl rfl, rfl, otherReplaced, rfl, alike rfl⟩

/-- A sequence that is captured before its arrays keeps none of them, and one
that is captured after them keeps both, so no relation of single values makes
the two replacements alike. -/
theorem sequence_depends_on_order :
    Sample.arraysFirst.captures.Perm Sample.sequenceFirst.captures ∧
      (forall entry, entry ∈ Sample.arraysFirst.captures -> entry.2.ReadOnly) ∧
      FromOneArena (Sample.arraysFirst.captures.map Prod.snd) ∧
      ∃ first second leftAfter rightAfter,
        resolve Sample.arraysFirst Sample.begun = .ok first leftAfter ∧
        resolve Sample.sequenceFirst Sample.begun = .ok second rightAfter ∧
        second.get? "all" = some (.sequence []) ∧
        forall related, ¬ Option.Rel (Replacement.Alike related) (first.get? "all")
          (second.get? "all") := by
  have reordered : Sample.arraysFirst.captures.Perm Sample.sequenceFirst.captures :=
    List.perm_append_singleton ("all", Sample.both)
      [("pool", .array Sample.pool), ("weights", .array Sample.weights)]
  refine ⟨reordered, Sample.arraysFirst_reads, Sample.arraysFirst_issued,
    ⟨[("pool", .value (.array ⟨0, .float64, .allocated⟩)),
      ("weights", .value (.array ⟨1, .int32, .constant⟩)),
      ("all", .sequence [.array ⟨0, .float64, .allocated⟩, .array ⟨1, .int32, .constant⟩])]⟩,
    ⟨[("all", .sequence []), ("pool", .value (.array ⟨0, .float64, .allocated⟩)),
      ("weights", .value (.array ⟨1, .int32, .constant⟩))]⟩, _, _, rfl, rfl, rfl, ?_⟩
  intro related alike
  cases alike with
  | some alike =>
      cases alike with
      | sequence all => cases all

end Pass

end LoopNest
