import LoopNest.Proofs.Pass.Sequences

namespace LoopNest

/-!
# Resolving a logic function again

Resolving the captured values of a logic function finds entries and adds some,
one for each array that it makes.  If the same values are resolved again right
afterwards, all these entries are found and none is missing that was not missing
before.  So the second time leaves the pass as it is, and any later time is like
the second.

What the values are replaced by is the same as the first time, except that a
sequence may have been captured before an array that is one of its elements.
The second time it finds the entry of that array too.  In a strict pass all
entries of a sequence are there from the beginning.

None of this depends on what the backend does.
-/

/-- The elements of a sequence are read from the slots if the sequence only reads. -/
theorem Capture.ReadOnly.produce {σ : Type} {capture : Capture σ}
    {produce : EStateM String (Store σ) (List (Capture σ))} (reads : capture.ReadOnly)
    (sequence : capture.elements? = some produce) : Store.ReadOnly produce := by
  cases capture with
  | sequence elements =>
      cases sequence
      exact Store.readOnly_pure elements
  | lazy rule =>
      cases sequence
      exact reads
  | deferred value => cases sequence
  | index loop => cases sequence
  | array handle => cases sequence
  | scalar value => cases sequence

namespace Pass

variable {β σ : Type}

/-! ## What is added -/

/-- The later state has all entries of the earlier, and those that it has beyond
are of arrays among the values that a pass makes. -/
structure Extends (values : List (Capture σ)) (pass later : Pass β σ) : Prop where
  store : later.store = pass.store
  options : later.options = pass.options
  kept : forall {token : Token} {value : NativeValue}, pass.identities[token]? = some value ->
    later.identities[token]? = some value
  added : forall {token : Token}, pass.identities[token]? = none ->
    later.identities[token]? = none ∨ ∃ handle, handle ∈ Capture.madeIn values ∧ handle.id = token

namespace Extends

variable {values : List (Capture σ)} {pass middle later : Pass β σ} {capture : Capture σ}

theorem refl (values : List (Capture σ)) (pass : Pass β σ) : Extends values pass pass :=
  ⟨rfl, rfl, id, .inl⟩

theorem trans (begun : Extends values pass middle) (continued : Extends values middle later) :
    Extends values pass later where
  store := continued.store.trans begun.store
  options := continued.options.trans begun.options
  kept found := continued.kept (begun.kept found)
  added missing := (begun.added missing).elim continued.added .inr

theorem lookup (more : Extends values pass later) {value : NativeValue}
    (found : pass.lookup? capture = some value) : later.lookup? capture = some value := by
  rcases Option.bind_eq_some_iff.mp found with ⟨token, identity, entry⟩
  exact Option.bind_eq_some_iff.mpr ⟨token, identity, more.kept entry⟩

/-- Among the values of one arena only arrays that are made get an entry. -/
theorem lookup_of_unmade (more : Extends values pass later) (issued : FromOneArena values)
    (member : capture ∈ values) (unmade : capture.made? = none)
    (missing : pass.lookup? capture = none) : later.lookup? capture = none := by
  cases identity : capture.identity? with
  | none =>
      unfold lookup?
      rw [identity]
      rfl
  | some token =>
      unfold lookup? at missing ⊢
      rw [identity] at missing ⊢
      rcases more.added missing with still | ⟨handle, made, carries⟩
      · exact still
      · rcases (Capture.mem_madeIn_iff values handle).mp made with ⟨handleMember, origin⟩
        have same : capture = .array handle :=
          issued.eq_of_identity member handleMember identity (congrArg some carries)
        have impossible := (capture.made?_eq_some_iff handle).mpr ⟨same, origin⟩
        rw [unmade] at impossible
        cases impossible

end Extends

/-- With more entries more elements are kept, in the same order. -/
theorem filterMap_sublist {α γ : Type} {first second : α -> Option γ}
    (kept : forall {item : α} {value : γ}, first item = some value -> second item = some value)
    (items : List α) : (items.filterMap first).Sublist (items.filterMap second) := by
  induction items with
  | nil => exact .slnil
  | cons item rest inductionHypothesis =>
      cases earlier : first item with
      | some value =>
          rw [List.filterMap_cons_some earlier, List.filterMap_cons_some (kept earlier)]
          exact inductionHypothesis.cons_cons value
      | none =>
          rw [List.filterMap_cons_none earlier]
          cases later : second item with
          | none => rw [List.filterMap_cons_none later]; exact inductionHypothesis
          | some value =>
              rw [List.filterMap_cons_some later]
              exact inductionHypothesis.cons value

/-! ## What is found again -/

/-- What a value is replaced by at first and later on.  Only the entries of a
sequence may have become more, and in a strict pass not even these. -/
inductive Follows (options : PassOptions) (capture : Capture σ) :
    Option Replacement -> Option Replacement -> Prop
  | same {replacement? : Option Replacement} (single : capture.elements? = none) :
      Follows options capture replacement? replacement?
  | grown {values later : List NativeValue} (sequence : capture.elements?.isSome)
      (kept : values.Sublist later)
      (strict : options.strictSequences = true -> later = values) :
      Follows options capture (some (.sequence values)) (some (.sequence later))

section Follows

variable {options : PassOptions} {capture : Capture σ} {replacement? again? : Option Replacement}

theorem Follows.eq_of_single (follows : Follows options capture replacement? again?)
    (single : capture.elements? = none) : again? = replacement? := by
  cases follows with
  | same _ => rfl
  | grown sequence _ _ =>
      rw [single] at sequence
      cases sequence

theorem Follows.of_sequence (follows : Follows options capture replacement? again?)
    (sequence : capture.elements?.isSome) :
    ∃ values others, replacement? = some (.sequence values) ∧ again? = some (.sequence others) ∧
      values.Sublist others := by
  cases follows with
  | same single =>
      rw [single] at sequence
      cases sequence
  | grown _ kept _ => exact ⟨_, _, rfl, rfl, kept⟩

theorem Follows.eq_of_strict (follows : Follows options capture replacement? again?)
    (strict : options.strictSequences = true) : again? = replacement? := by
  cases follows with
  | same _ => rfl
  | grown _ _ same => rw [same strict]

end Follows

/-- A value with an entry is no sequence. -/
theorem single_of_lookup {pass : Pass β σ} {capture : Capture σ} {value : NativeValue}
    (found : pass.lookup? capture = some value) : capture.elements? = none := by
  cases sequence : capture.elements? with
  | none => rfl
  | some produce =>
      have missing := lookup?_of_elements (Option.isSome_of_eq_some sequence) pass
      rw [found] at missing
      cases missing

/-- The elements of a sequence, listed with more entries. -/
theorem listed_again (failure : CaptureFault -> NestError) {pass later : Pass β σ}
    {elements : List (Capture σ)} {values : List NativeValue}
    (entries : pass.mappedFrom 0 elements = .ok values) (options : later.options = pass.options)
    (kept : forall {element : Capture σ} {value : NativeValue},
      pass.lookup? element = some value -> later.lookup? element = some value) :
    ∃ others, listed failure elements later = .ok (some (.sequence others)) later ∧
      values.Sublist others ∧ (later.options.strictSequences = true -> others = values) := by
  have earlier : values = elements.filterMap pass.lookup? := eq_filterMap_of_mappedFrom entries
  subst earlier
  have mapped (strict : later.options.strictSequences = true) (element : Capture σ)
      (member : element ∈ elements) : ∃ value, pass.lookup? element = some value := by
    rw [options] at strict
    exact Option.isSome_iff_exists.mp (isSome_lookup_of_strict strict entries element member)
  refine ⟨elements.filterMap later.lookup?, ?_, filterMap_sublist kept elements, ?_⟩
  · cases strict : later.options.strictSequences with
    | false => exact listed_of_lenient strict failure elements
    | true =>
        refine listed_of_mapped strict failure fun element member => ?_
        rcases mapped strict element member with ⟨value, found⟩
        exact ⟨value, kept found⟩
  · intro strict
    refine List.filterMap_congr fun element member => ?_
    rcases mapped strict element member with ⟨value, found⟩
    rw [kept found, found]

/-- What captured values are replaced by at first and later on, value by value. -/
inductive FollowsAll (options : PassOptions) : List (String × Capture σ) ->
    List (String × Replacement) -> List (String × Replacement) -> Prop
  | nil : FollowsAll options [] [] []
  | cons {name : String} {capture : Capture σ} {replacement? again? : Option Replacement}
      {rest : List (String × Capture σ)} {others later : List (String × Replacement)}
      (first : Follows options capture replacement? again?)
      (remaining : FollowsAll options rest others later) :
      FollowsAll options ((name, capture) :: rest)
        ((replacement?.map fun replacement => (name, replacement)).toList ++ others)
        ((again?.map fun replacement => (name, replacement)).toList ++ later)

section FollowsAll

variable {options : PassOptions} {entries : List (String × Capture σ)}
  {replacements later : List (String × Replacement)}

theorem FollowsAll.names (follows : FollowsAll options entries replacements later) :
    later.map Prod.fst = replacements.map Prod.fst := by
  induction follows with
  | nil => rfl
  | cons first _ inductionHypothesis =>
      rw [List.map_append, List.map_append, inductionHypothesis]
      cases first <;> rfl

theorem FollowsAll.eq_of_strict (follows : FollowsAll options entries replacements later)
    (strict : options.strictSequences = true) : later = replacements := by
  induction follows with
  | nil => rfl
  | cons first _ inductionHypothesis =>
      rw [inductionHypothesis, first.eq_of_strict strict]

theorem FollowsAll.lookup_of_notMem (follows : FollowsAll options entries replacements later)
    {name : String} (absent : name ∉ entries.map Prod.fst) :
    replacements.lookup name = none ∧ later.lookup name = none := by
  induction follows with
  | nil => exact ⟨rfl, rfl⟩
  | cons _ _ inductionHypothesis =>
      rw [List.map_cons, List.mem_cons, not_or] at absent
      rw [lookup_later absent.1, lookup_later absent.1]
      exact inductionHypothesis absent.2

/-- What is found under the name of a captured value at first and later on. -/
theorem FollowsAll.lookup (follows : FollowsAll options entries replacements later)
    (distinct : (entries.map Prod.fst).Nodup) {name : String} {capture : Capture σ}
    (member : (name, capture) ∈ entries) :
    Follows options capture (replacements.lookup name) (later.lookup name) := by
  induction follows with
  | nil => cases member
  | @cons other _ _ _ rest _ _ first remaining inductionHypothesis =>
      rw [List.map_cons, List.nodup_cons] at distinct
      rcases List.mem_cons.mp member with own | listed
      · cases own
        have fresh := remaining.lookup_of_notMem distinct.1
        rw [lookup_own fresh.1, lookup_own fresh.2]
        exact first
      · have named : name ∈ rest.map Prod.fst := List.mem_map_of_mem listed
        have different : name ≠ other := fun same => distinct.1 (same ▸ named)
        rw [lookup_later different, lookup_later different]
        exact inductionHypothesis distinct.2 listed

end FollowsAll

/-! ## One captured value -/

section Captures

variable [Backend σ β]

/-- The ways in which a captured value that only reads is resolved. -/
inductive Way (failure : CaptureFault -> NestError) (pass : Pass β σ) :
    Capture σ -> Option Replacement -> Pass β σ -> Prop
  /-- The value has an entry. -/
  | entry {capture : Capture σ} {value : NativeValue} (found : pass.lookup? capture = some value) :
      Way failure pass capture (some (.value value)) pass
  /-- An array is made and gets an entry. -/
  | made {handle : ArrayHandle} {array : NativeArray} {backend : β}
      (origin : ∃ origin, handle.source.origin? = some origin)
      (missing : pass.lookup? (.array handle) = none) :
      Way failure pass (.array handle) (some (.value (.array array)))
        { pass with
          identities := pass.identities.insert handle.id (.array array)
          backend }
  /-- The store alone decides, and neither the map nor the backend is used. -/
  | alone {capture : Capture σ} {replacement? : Option Replacement}
      (missing : pass.lookup? capture = none) (unmade : capture.made? = none)
      (single : capture.elements? = none)
      (answers : forall later : Pass β σ, later.store = pass.store ->
        resolveUnmapped failure capture later = .ok replacement? later) :
      Way failure pass capture replacement? pass
  /-- The entries of the elements of a sequence are listed. -/
  | listed {capture : Capture σ} {produce : EStateM String (Store σ) (List (Capture σ))}
      {elements : List (Capture σ)} {values : List NativeValue}
      (sequence : capture.elements? = some produce)
      (produced : produce pass.store = .ok elements pass.store)
      (entries : pass.mappedFrom 0 elements = .ok values) :
      Way failure pass capture (some (.sequence values)) pass

/-- An array gets an entry if it is made, and nothing happens otherwise. -/
theorem materialize_of_ok {failure : CaptureFault -> NestError} {handle : ArrayHandle}
    {pass after : Pass β σ} {value? : Option NativeValue}
    (done : materialize failure handle.record pass = .ok value? after) :
    (handle.source.origin? = none ∧ value? = none ∧ after = pass) ∨
      ∃ origin array backend, handle.source.origin? = some origin ∧ value? = some (.array array) ∧
        after = { pass with
          identities := pass.identities.insert handle.id (.array array)
          backend } := by
  rw [materialize_handle] at done
  cases source : handle.source with
  | temporary =>
      rw [source] at done
      rcases (makeArray_eq_ok_iff handle.id pass after value?).mp done with
        ⟨array, backend, _, made, ended⟩
      exact .inr ⟨.allocated, array, backend, rfl, made, ended⟩
  | constant data =>
      rw [source] at done
      rcases (makeArray_eq_ok_iff handle.id pass after value?).mp done with
        ⟨array, backend, _, made, ended⟩
      exact .inr ⟨.constant, array, backend, rfl, made, ended⟩
  | input =>
      rw [source] at done
      cases done
      exact .inl ⟨rfl, rfl, rfl⟩
  | inputOutput =>
      rw [source] at done
      cases done
      exact .inl ⟨rfl, rfl, rfl⟩

theorem materialize_of_argument (failure : CaptureFault -> NestError) {handle : ArrayHandle}
    (source : handle.source.origin? = none) (pass : Pass β σ) :
    materialize failure handle.record pass = .ok none pass := by
  rw [materialize_handle]
  cases kind : handle.source with
  | temporary =>
      rw [kind] at source
      cases source
  | constant data =>
      rw [kind] at source
      cases source
  | input => rfl
  | inputOutput => rfl

variable {failure : CaptureFault -> NestError} {capture : Capture σ} {pass after : Pass β σ}
  {replacement? : Option Replacement}

/-- A value without an entry that is no sequence is resolved by what its kind
asks for. -/
theorem way_of_unmapped (reads : capture.ReadOnly) (missing : pass.lookup? capture = none)
    (single : capture.elements? = none)
    (done : resolveUnmapped failure capture pass = .ok replacement? after) :
    Way failure pass capture replacement? after := by
  cases capture with
  | array handle =>
      rcases (Outcome.bind_eq_ok_iff _ _ _ _ _).mp done with ⟨value?, middle, produced, last⟩
      cases last
      rcases materialize_of_ok produced with
        ⟨source, rfl, rfl⟩ | ⟨origin, array, backend, made, rfl, rfl⟩
      · exact .alone missing (Capture.made?_of_argument source) rfl fun later _ =>
          Outcome.bind_of_ok (materialize_of_argument failure source later) _
      · exact .made ⟨origin, made⟩ missing
  | index loop =>
      cases done
      exact .alone missing rfl rfl fun _ _ => rfl
  | scalar value =>
      cases done
      exact .alone missing rfl rfl fun _ _ => rfl
  | deferred value =>
      rcases (Outcome.bind_eq_ok_iff _ _ _ _ _).mp done with ⟨number, middle, resolved, last⟩
      rcases (onStore_eq_ok_iff _ _ _ _ _).mp resolved with ⟨store, answered, rfl⟩
      cases last
      have same : store = pass.store :=
        ((Deferred.ReadOnly.resolve reads).eq_ok_iff _ _ _).mp answered |>.2
      subst same
      refine .alone missing rfl rfl fun later kept => ?_
      have again := (onStore_eq_ok_iff .unresolvableDeferred value.resolve later later number).mpr
        ⟨later.store, by rw [kept, answered], rfl⟩
      exact Outcome.bind_of_ok again _
  | sequence elements => cases single
  | lazy produce => cases single

theorem way_of_resolveCapture (reads : capture.ReadOnly)
    (done : resolveCapture failure capture pass = .ok replacement? after) :
    Way failure pass capture replacement? after := by
  cases entry : pass.lookup? capture with
  | some value =>
      rw [resolveCapture_of_mapped failure entry] at done
      cases done
      exact .entry entry
  | none =>
      cases sequence : capture.elements? with
      | none =>
          rw [resolveCapture_of_unmapped failure entry] at done
          exact way_of_unmapped reads entry sequence done
      | some produce =>
          rw [resolveCapture_of_sequence sequence] at done
          cases produced : produce pass.store with
          | error reason store =>
              rw [produced] at done
              cases done
          | ok elements store =>
              have same : store = pass.store :=
                ((reads.produce sequence).eq_ok_iff _ _ _).mp produced |>.2
              subst same
              rw [produced] at done
              change Pass.listed failure elements pass = _ at done
              unfold Pass.listed at done
              cases entries : pass.mappedFrom 0 elements with
              | error fault =>
                  rw [entries] at done
                  cases done
              | ok values =>
                  rw [entries] at done
                  cases done
                  exact .listed sequence produced entries

/-- Resolving one value adds at most the entry of an array that is made. -/
theorem Way.extends (way : Way failure pass capture replacement? after) {values : List (Capture σ)}
    (member : capture ∈ values) : Extends values pass after := by
  cases way with
  | entry found => exact .refl values pass
  | alone missing unmade single answers => exact .refl values pass
  | listed sequence produced entries => exact .refl values pass
  | @made handle array backend origin missing =>
      refine ⟨rfl, rfl, ?_, ?_⟩
      · intro token value found
        have different : handle.id ≠ token := by
          rintro rfl
          cases missing.symm.trans found
        exact (IdentityMap.getElem?_insert_of_ne different _ _).trans found
      · intro token absent
        by_cases same : handle.id = token
        · exact .inr ⟨handle, (Capture.mem_madeIn_iff values handle).mpr ⟨member, origin⟩, same⟩
        · exact .inl ((IdentityMap.getElem?_insert_of_ne same _ _).trans absent)

/-- In any later state the value is resolved without a trace. -/
theorem Way.again (way : Way failure pass capture replacement? after) {values : List (Capture σ)}
    (issued : FromOneArena values) (member : capture ∈ values) {later : Pass β σ}
    (more : Extends values after later) :
    ∃ again?, resolveCapture failure capture later = .ok again? later ∧
      Follows later.options capture replacement? again? := by
  cases way with
  | entry found =>
      have still := resolveCapture_of_mapped failure (more.lookup found)
      exact ⟨_, still, .same (single_of_lookup found)⟩
  | @made handle array backend origin missing =>
      have entry : later.lookup? (.array handle) = some (.array array) :=
        more.kept Std.ExtTreeMap.getElem?_insert_self
      exact ⟨_, resolveCapture_of_mapped failure entry, .same rfl⟩
  | alone missing unmade single answers =>
      have still := more.lookup_of_unmade issued member unmade missing
      refine ⟨replacement?, ?_, .same single⟩
      rw [resolveCapture_of_unmapped failure still]
      exact answers later more.store
  | listed sequence produced entries =>
      rcases listed_again failure entries more.options more.lookup with
        ⟨others, listing, kept, strict⟩
      refine ⟨some (.sequence others), ?_,
        .grown (Option.isSome_of_eq_some sequence) kept strict⟩
      rw [resolveCapture_of_sequence sequence, more.store, produced, ← more.store]
      exact listing

/-- Captured values that were resolved are resolved again without a trace, in any
later state. -/
theorem again_of_resolveAll {logic : String} {entries : List (String × Capture σ)}
    {replacements : List (String × Replacement)} {values : List (Capture σ)}
    (reads : forall entry, entry ∈ entries -> entry.2.ReadOnly)
    (members : forall entry, entry ∈ entries -> entry.2 ∈ values) (issued : FromOneArena values)
    (done : resolveAll logic entries pass = .ok replacements after) :
    Extends values pass after ∧
      forall later, Extends values after later ->
        ∃ again, resolveAll logic entries later = .ok again later ∧
          FollowsAll later.options entries replacements again := by
  induction entries generalizing pass replacements with
  | nil =>
      cases done
      exact ⟨.refl values after, fun later _ => ⟨[], rfl, .nil⟩⟩
  | cons entry rest inductionHypothesis =>
      rw [List.forall_mem_cons] at reads members
      rcases resolveAll_cons_eq_ok_iff.mp done with
        ⟨replacement?, middle, others, resolved, remaining, rfl⟩
      have way := way_of_resolveCapture reads.1 resolved
      rcases inductionHypothesis reads.2 members.2 remaining with ⟨added, repeated⟩
      refine ⟨(way.extends members.1).trans added, fun later more => ?_⟩
      rcases way.again issued members.1 (added.trans more) with ⟨again?, first, follows⟩
      rcases repeated later more with ⟨again, second, followsAll⟩
      exact ⟨_, resolveAll_cons_eq_ok_iff.mpr ⟨again?, later, again, first, second, rfl⟩,
        .cons follows followsAll⟩

/-- A logic function that was resolved is resolved again right afterwards, and
this and all later times leave the pass as it is and give the same substitution.
It replaces the names that the first one did.  Under each it gives the same as the
first one, except that of the elements of a sequence more may be found, and in a
strict pass it is the same altogether. -/
theorem resolved_again {logic : LogicFunction σ} {first : Substitution}
    (reads : forall entry, entry ∈ logic.captures -> entry.2.ReadOnly)
    (issued : FromOneArena (logic.captures.map Prod.snd))
    (done : resolve logic pass = .ok first after) :
    ∃ second, resolve logic after = .ok second after ∧
      (forall count, (List.replicate (count + 1) logic).mapM resolve pass =
        .ok (first :: List.replicate count second) after) ∧
      second.entries.map Prod.fst = first.entries.map Prod.fst ∧
      (forall name capture, logic.capture? name = some capture ->
        (capture.elements? = none -> second.get? name = first.get? name) ∧
        (capture.elements?.isSome -> ∃ values others,
          first.get? name = some (.sequence values) ∧
            second.get? name = some (.sequence others) ∧ values.Sublist others)) ∧
      (pass.options.strictSequences = true -> second = first) := by
  rcases (Outcome.bind_eq_ok_iff _ _ _ _ _).mp done with ⟨replacements, middle, resolved, last⟩
  cases last
  have members : forall entry, entry ∈ logic.captures -> entry.2 ∈ logic.captures.map Prod.snd :=
    fun entry member => List.mem_map_of_mem member
  rcases again_of_resolveAll reads members issued resolved with ⟨added, repeated⟩
  rcases repeated _ (.refl _ _) with ⟨again, repetition, follows⟩
  have second : resolve logic after = .ok ⟨again⟩ after := Outcome.bind_of_ok repetition _
  refine ⟨⟨again⟩, second, fun count => ?_, follows.names, fun name capture found => ?_, ?_⟩
  · rw [List.replicate_succ, List.mapM_cons, Outcome.bind_of_ok done,
      Outcome.bind_of_ok (Outcome.mapM_replicate_of_ok second count)]
    rfl
  · have shown := follows.lookup logic.names_distinct ((logic.capture?_eq_some_iff _ _).mp found)
    exact ⟨fun single => shown.eq_of_single single, fun sequence => shown.of_sequence sequence⟩
  · intro strict
    rw [← added.options] at strict
    exact congrArg Substitution.mk (follows.eq_of_strict strict)

end Captures

end Pass

namespace Sample

theorem sequenceFirst_members (entry : String × Capture Unit)
    (member : entry ∈ sequenceFirst.captures) : entry ∈ arraysFirst.captures := by
  simp only [sequenceFirst, arraysFirst, capturing, List.mem_cons, List.not_mem_nil,
    or_false] at member ⊢
  rcases member with all | arrays | weights
  · exact .inr (.inr all)
  · exact .inl arrays
  · exact .inr (.inl weights)

theorem sequenceFirst_issued : FromOneArena (sequenceFirst.captures.map Prod.snd) := by
  refine arraysFirst_issued.mono fun value member => ?_
  rcases List.mem_map.mp member with ⟨entry, listed, rfl⟩
  exact List.mem_map_of_mem (sequenceFirst_members entry listed)

end Sample

namespace Pass

/-- A sequence that is captured before its arrays is empty at first.  The second
time it has both, while each array stays the one that was made the first time. -/
theorem sequence_filled_again :
    (forall entry, entry ∈ Sample.sequenceFirst.captures -> entry.2.ReadOnly) ∧
      FromOneArena (Sample.sequenceFirst.captures.map Prod.snd) ∧
      ∃ first second after, resolve Sample.sequenceFirst Sample.begun = .ok first after ∧
        resolve Sample.sequenceFirst after = .ok second after ∧
        first.get? "all" = some (.sequence []) ∧
        second.get? "all" =
          some (.sequence [.array ⟨0, .float64, .allocated⟩, .array ⟨1, .int32, .constant⟩]) ∧
        second.get? "pool" = first.get? "pool" ∧
        (List.replicate 3 Sample.sequenceFirst).mapM resolve Sample.begun =
          .ok [first, second, second] after := by
  have reads : forall entry, entry ∈ Sample.sequenceFirst.captures -> entry.2.ReadOnly :=
    fun entry member => Sample.arraysFirst_reads entry (Sample.sequenceFirst_members entry member)
  let first : Substitution :=
    ⟨[("all", .sequence []), ("pool", .value (.array ⟨0, .float64, .allocated⟩)),
      ("weights", .value (.array ⟨1, .int32, .constant⟩))]⟩
  have done : resolve Sample.sequenceFirst Sample.begun =
      .ok first (Outcome.state (resolve Sample.sequenceFirst Sample.begun)) := rfl
  rcases resolved_again reads Sample.sequenceFirst_issued done with
    ⟨second, again, times, _, shown, _⟩
  have filled : second.get? "all" =
      some (.sequence [.array ⟨0, .float64, .allocated⟩, .array ⟨1, .int32, .constant⟩]) := by
    cases again
    rfl
  exact ⟨reads, Sample.sequenceFirst_issued, first, second, _, done, again, rfl, filled,
    (shown "pool" (.array Sample.pool) rfl).1 rfl, times 2⟩

end Pass

end LoopNest
