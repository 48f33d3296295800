import LoopNest.Declaration.Capture
import LoopNest.Proofs.Pass.Basic

namespace LoopNest

/-!
# Completing the identity map

While kernels are resolved, the identity map only gains entries, and every
entry that it gains is an array that was made for a handle.  A handle is made
when its token has no entry yet.  So of several handles with one token the
first counts, and none of them counts if there was an entry before.
-/

/-- How an array came to exist that a pass makes itself. -/
def ArraySource.origin? : ArraySource -> Option ArrayOrigin
  | .temporary => some .allocated
  | .constant _ => some .constant
  | .input => none
  | .inputOutput => none

/-- The array may be the counterpart of the handle that a pass made. -/
structure ArrayHandle.Becomes (handle : ArrayHandle) (array : NativeArray) : Prop where
  elementType : array.elementType = handle.elementType
  origin : handle.source.origin? = some array.origin

/-- The handle of a captured array that a pass makes itself. -/
def Capture.made? {σ : Type} : Capture σ -> Option ArrayHandle
  | .array handle => if handle.source.origin?.isSome then some handle else none
  | .deferred _ => none
  | .index _ => none
  | .scalar _ => none
  | .sequence _ => none
  | .lazy _ => none

theorem Capture.made?_eq_some_iff {σ : Type} (capture : Capture σ) (handle : ArrayHandle) :
    capture.made? = some handle <->
      capture = .array handle ∧ ∃ origin, handle.source.origin? = some origin := by
  cases capture with
  | array other =>
      rw [made?]
      cases made : other.source.origin? with
      | some origin =>
          rw [Option.isSome_some, if_pos rfl, Option.some.injEq, array.injEq]
          constructor
          · intro same
            exact ⟨same, origin, same ▸ made⟩
          · intro both
            exact both.1
      | none =>
          rw [Option.isSome_none, if_neg Bool.false_ne_true]
          constructor
          · intro impossible
            cases impossible
          · rintro ⟨same, origin, found⟩
            cases same
            rw [made] at found
            cases found
  | deferred value => simp [made?]
  | index loop => simp [made?]
  | scalar value => simp [made?]
  | sequence elements => simp [made?]
  | lazy produce => simp [made?]

theorem Capture.made?_of_argument {σ : Type} {handle : ArrayHandle}
    (source : handle.source.origin? = none) : (array handle : Capture σ).made? = none := by
  rw [made?, source, Option.isSome_none, if_neg Bool.false_ne_true]

/-- The handles of captured arrays that a pass makes itself, in order. -/
def Capture.madeIn {σ : Type} (captures : List (Capture σ)) : List ArrayHandle :=
  captures.filterMap made?

theorem Capture.madeIn_cons {σ : Type} (capture : Capture σ) (rest : List (Capture σ)) :
    madeIn (capture :: rest) = capture.made?.toList ++ madeIn rest := by
  unfold madeIn
  cases making : capture.made? with
  | none => rw [List.filterMap_cons_none making, Option.toList_none, List.nil_append]
  | some handle =>
      rw [List.filterMap_cons_some making, Option.toList_some, List.singleton_append]

theorem Capture.madeIn_append {σ : Type} (first second : List (Capture σ)) :
    madeIn (first ++ second) = madeIn first ++ madeIn second :=
  List.filterMap_append

theorem Capture.mem_madeIn_iff {σ : Type} (captures : List (Capture σ)) (handle : ArrayHandle) :
    handle ∈ madeIn captures <->
      .array handle ∈ captures ∧ ∃ origin, handle.source.origin? = some origin := by
  unfold madeIn
  rw [List.mem_filterMap]
  constructor
  · rintro ⟨capture, member, making⟩
    rcases (capture.made?_eq_some_iff handle).mp making with ⟨rfl, made⟩
    exact ⟨member, made⟩
  · rintro ⟨member, made⟩
    exact ⟨.array handle, member, (made?_eq_some_iff _ handle).mpr ⟨rfl, made⟩⟩

theorem Capture.madeIn_subset {σ : Type} {captures others : List (Capture σ)}
    (members : forall capture, capture ∈ captures -> capture ∈ others) :
    forall handle, handle ∈ madeIn captures -> handle ∈ madeIn others := by
  intro handle made
  rcases (mem_madeIn_iff captures handle).mp made with ⟨member, origin⟩
  exact (mem_madeIn_iff others handle).mpr ⟨members _ member, origin⟩

/-- The first handle that carries the token. -/
def firstOf? (token : Token) (handles : List ArrayHandle) : Option ArrayHandle :=
  handles.find? fun handle => decide (handle.id = token)

theorem isSome_firstOf?_iff (token : Token) (handles : List ArrayHandle) :
    (firstOf? token handles).isSome = true <-> ∃ handle, handle ∈ handles ∧ handle.id = token := by
  simp [firstOf?]

theorem firstOf?_append (token : Token) (first second : List ArrayHandle) :
    firstOf? token (first ++ second) = (firstOf? token first).or (firstOf? token second) :=
  List.find?_append

theorem mem_of_firstOf?_eq_some {token : Token} {handles : List ArrayHandle}
    {handle : ArrayHandle} (isFirst : firstOf? token handles = some handle) :
    handle ∈ handles ∧ handle.id = token := by
  have carries := List.find?_some isFirst
  exact ⟨List.mem_of_find?_eq_some isFirst, of_decide_eq_true carries⟩

/-- The second map has the entries of the first, and for every other token of
the handles an array that was made for the first handle with that token. -/
structure Completes (handles : List ArrayHandle) (before after : IdentityMap) : Prop where
  kept : forall {token : Token} {value : NativeValue}, before[token]? = some value ->
    after[token]? = some value
  made : forall {token : Token} {handle : ArrayHandle}, before[token]? = none ->
    firstOf? token handles = some handle ->
      ∃ array, after[token]? = some (.array array) ∧ handle.Becomes array
  absent : forall {token : Token}, before[token]? = none -> firstOf? token handles = none ->
    after[token]? = none

namespace Completes

theorem refl (identities : IdentityMap) : Completes [] identities identities where
  kept found := found
  made _ impossible := by cases impossible
  absent missing _ := missing

/-- The handles of two stretches complete the map one after the other. -/
theorem append {first second : List ArrayHandle} {before middle after : IdentityMap}
    (begun : Completes first before middle) (ended : Completes second middle after) :
    Completes (first ++ second) before after where
  kept found := ended.kept (begun.kept found)
  made := by
    intro token handle missing isFirst
    rw [firstOf?_append] at isFirst
    cases earlier : firstOf? token first with
    | some maker =>
        rw [earlier] at isFirst
        cases isFirst
        rcases begun.made missing earlier with ⟨array, found, becomes⟩
        exact ⟨array, ended.kept found, becomes⟩
    | none =>
        rw [earlier, Option.none_or] at isFirst
        exact ended.made (begun.absent missing earlier) isFirst
  absent := by
    intro token missing noFirst
    rw [firstOf?_append, Option.or_eq_none_iff] at noFirst
    exact ended.absent (begun.absent missing noFirst.1) noFirst.2

/-- A handle that is made adds its own entry. -/
theorem insert {handle : ArrayHandle} {array : NativeArray} {identities : IdentityMap}
    (missing : identities[handle.id]? = none) (becomes : handle.Becomes array) :
    Completes [handle] identities (identities.insert handle.id (.array array)) where
  kept := by
    intro token value found
    have different : handle.id ≠ token := by
      rintro rfl
      rw [missing] at found
      cases found
    rw [IdentityMap.getElem?_insert_of_ne different, found]
  made := by
    intro token other _ isFirst
    rcases mem_of_firstOf?_eq_some isFirst with ⟨member, carries⟩
    rw [List.mem_singleton] at member
    subst member carries
    exact ⟨array, Std.ExtTreeMap.getElem?_insert_self, becomes⟩
  absent := by
    intro token unset noFirst
    have passed := List.find?_eq_none.mp noFirst handle List.mem_cons_self
    have different : handle.id ≠ token := fun same => passed (decide_eq_true same)
    rw [IdentityMap.getElem?_insert_of_ne different, unset]

/-- Handles that were passed over because their tokens had entries do not
count. -/
theorem skip {handle : ArrayHandle} {identities : IdentityMap} {value : NativeValue}
    (found : identities[handle.id]? = some value) :
    Completes [handle] identities identities where
  kept found := found
  made := by
    intro token other missing isFirst
    rcases mem_of_firstOf?_eq_some isFirst with ⟨member, carries⟩
    rw [List.mem_singleton] at member
    rw [← carries, member, found] at missing
    cases missing
  absent missing _ := missing

/-- The tokens of the completed map. -/
theorem exists_iff {handles : List ArrayHandle} {before after : IdentityMap}
    (completes : Completes handles before after) (token : Token) :
    (∃ value, after[token]? = some value) <->
      (∃ value, before[token]? = some value) ∨ ∃ handle, handle ∈ handles ∧ handle.id = token := by
  rw [← isSome_firstOf?_iff]
  cases old : before[token]? with
  | some value =>
      have kept := completes.kept old
      simp [kept]
  | none =>
      cases isFirst : firstOf? token handles with
      | some handle =>
          rcases completes.made old isFirst with ⟨array, found, _⟩
          simp [found]
      | none =>
          have missing := completes.absent old isFirst
          simp [missing]

end Completes

end LoopNest
