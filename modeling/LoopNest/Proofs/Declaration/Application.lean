import LoopNest.Proofs.First
import LoopNest.Proofs.Declaration.Parameters

namespace LoopNest

/-!
# Applying a set of bindings

A set of bindings is applied as a whole or not at all.  The handles are looked
through first, and the first one that is derived stops everything: no slot has
been written then, not even for a parameter that stands before it.

If all handles are parameters, nothing can stop the writing, and each of them
has its own slot.  Releasing the set afterwards empties these slots, whether
they were written or not.
-/

namespace Bindings

variable {σ : Type}

/-- The entry is for a derived integer. -/
def IsDerived (entry : Deferred σ × Int) : Prop :=
  entry.1.isParameter = false

theorem isParameter_of_not_derived {entry : Deferred σ × Int} (bindable : ¬ IsDerived entry) :
    entry.1.isParameter = true :=
  Bool.eq_true_of_not_eq_false bindable

/-- The handle that is reported is that of the first derived entry. -/
theorem firstDerived?_of_first {bindings : Bindings σ} {position : Nat}
    {entry : Deferred σ × Int} (first : FirstAt IsDerived bindings.entries position entry) :
    bindings.firstDerived? = some entry.1 := by
  have found : (bindings.entries.find? fun entry => !entry.1.isParameter) = some entry := by
    refine List.find?_eq_some_iff_append.mpr ⟨by simpa [IsDerived] using first.here,
      _, _, first.split, ?_⟩
    intro other member
    simpa [IsDerived] using first.earlier other member
  unfold firstDerived?
  rw [found]
  rfl

theorem apply_of_first {bindings : Bindings σ} {position : Nat} {entry : Deferred σ × Int}
    (first : FirstAt IsDerived bindings.entries position entry) (store : Store σ) :
    bindings.apply store = .error ⟨entry.1.name, .notBindable⟩ store := by
  unfold apply
  rw [firstDerived?_of_first first]
  rfl

/-- A set is refused exactly if it has a derived entry. -/
theorem apply_fails_iff (bindings : Bindings σ) (store : Store σ) :
    (∃ error stopped, bindings.apply store = .error error stopped) <->
      ∃ entry, entry ∈ bindings.entries ∧ IsDerived entry := by
  rcases FirstAt.exists_or_forall IsDerived bindings.entries with ⟨position, entry, first⟩ | none
  · have member := List.mem_of_getElem? first.found
    exact iff_of_true ⟨_, _, apply_of_first first store⟩ ⟨entry, member, first.here⟩
  · refine iff_of_false ?_ ?_
    · rintro ⟨error, stopped, failed⟩
      have parameters : forall entry, entry ∈ bindings.entries -> entry.1.isParameter = true :=
        fun entry member => isParameter_of_not_derived (none entry member)
      rw [(bindings.apply_eq_ok_iff store _ ()).mpr ⟨parameters, rfl⟩] at failed
      cases failed
    · rintro ⟨entry, member, derived⟩
      exact none entry member derived

/-- However the application ends, the slots that are not in the set stay. -/
theorem read?_apply_of_notMem (bindings : Bindings σ) (store : Store σ) {slot : Slot}
    (free : slot ∉ bindings.slots) :
    (Outcome.state (bindings.apply store)).read? slot = store.read? slot := by
  cases outcome : bindings.apply store with
  | ok done after =>
      rw [((bindings.apply_eq_ok_iff store after done).mp outcome).2]
      exact bindings.read?_applied_of_notMem store free
  | error error after =>
      rw [bindings.eq_of_apply_error outcome]
      rfl

/-- A parameter of the set resolves to its number, through every copy. -/
theorem resolve_applied {puts : List (Deferred σ × Int)}
    (slotsTold : Deferred.SlotsTold (puts.map Prod.fst)) (store : Store σ)
    {entry : Deferred σ × Int} (member : entry ∈ (ofPuts puts).entries)
    (bindable : entry.1.isParameter = true) {copy : Deferred σ}
    (shared : copy.source = entry.1.source) :
    copy.resolve ((ofPuts puts).applied store) = .ok entry.2 ((ofPuts puts).applied store) := by
  unfold Deferred.isParameter at bindable
  cases source : entry.1.source with
  | derived rule =>
      rw [source] at bindable
      cases bindable
  | parameter slot =>
      have located : entry.1.slot? = some slot := by
        rw [Deferred.slot?, source]
      have held : entry.1 ∈ (ofPuts puts).handles := List.mem_map_of_mem member
      rcases read?_applied_ofPuts slotsTold store held located with ⟨number, last, read⟩
      have same := (told_ofPuts puts).number entry member
      rw [last, Option.some.injEq] at same
      unfold Deferred.resolve
      rw [shared, source]
      dsimp only
      rw [read, same]

/-- Whatever is bound in the slots, a set is applied as a whole or not at all.  It
is refused exactly if an entry is derived; the first such entry is named then,
and the store is what it was.  Otherwise every parameter of the set resolves to
its number, through every copy, and the other slots are what they were.  In both
cases a release empties the slots of the set, and the others are as before. -/
theorem applies_whole_or_not {puts : List (Deferred σ × Int)} {store : Store σ}
    {known : List (Deferred σ)} (declared : Deferred.Declared store known)
    (members : forall handle, handle ∈ puts.map Prod.fst -> handle ∈ known) :
    let bindings := ofPuts puts
    let after := Outcome.state (bindings.apply store)
    ((∃ error stopped, bindings.apply store = .error error stopped) <->
        ∃ entry, entry ∈ bindings.entries ∧ IsDerived entry) ∧
      (forall position entry, FirstAt IsDerived bindings.entries position entry ->
        ∃ error, bindings.apply store = .error error store ∧ error.name = entry.1.name ∧
          error.cause.message = "derived values cannot be bound") ∧
      ((forall entry, entry ∈ bindings.entries -> ¬ IsDerived entry) ->
        bindings.apply store = .ok () after ∧
          (forall entry (copy : Deferred σ), entry ∈ bindings.entries ->
            copy.source = entry.1.source -> copy.resolve after = .ok entry.2 after) ∧
          forall slot, slot ∉ bindings.slots -> after.read? slot = store.read? slot) ∧
      forall slot, (bindings.release after).read? slot =
        if slot ∈ bindings.slots then none else store.read? slot := by
  intro bindings after
  have others {slot : Slot} (free : slot ∉ bindings.slots) :
      after.read? slot = store.read? slot := bindings.read?_apply_of_notMem store free
  refine ⟨bindings.apply_fails_iff store, ?_, ?_, ?_⟩
  · intro position entry first
    exact ⟨_, apply_of_first first store, rfl, rfl⟩
  · intro none
    have parameters : forall entry, entry ∈ bindings.entries -> entry.1.isParameter = true :=
      fun entry member => isParameter_of_not_derived (none entry member)
    have done := (bindings.apply_eq_ok_iff store _ ()).mpr ⟨parameters, rfl⟩
    have written : after = bindings.applied store := congrArg Outcome.state done
    refine ⟨?_, ?_, fun slot free => others free⟩
    · rw [written]
      exact done
    · intro entry copy member shared
      rw [written]
      exact resolve_applied (declared.slotsTold members) store member (parameters entry member)
        shared
  · intro slot
    rw [read?_release]
    by_cases held : slot ∈ bindings.slots
    · rw [if_pos held, if_pos held]
    · rw [if_neg held, if_neg held, others held]

namespace Sample

def rows : Deferred Unit :=
  ((Deferred.parameter "rows" 0).run Arena.empty).1

/-- Twice as many as there are rows, by a token of another arena. -/
def doubled : Deferred Unit :=
  ((rows.map "doubled" (2 * ·)).run (Arena.issue .deferred Arena.empty).2).1

/-- Nine rows are bound. -/
def nine : Store Unit :=
  (Store.newSlot.run (Store.initial ())).2.write 0 9

theorem declared : Deferred.Declared nine [doubled, rows] :=
  .use (.derived (.parameter (.nothing ()) "rows" Arena.empty) "doubled" _ _) (Nat.le_refl _)

end Sample

/-- A set with three rows and the double of them is refused and leaves nine rows.
With the rows alone, the number that was put last is bound. -/
theorem rows_are_applied_or_not :
    let refused := ofPuts [(Sample.rows, 3), (Sample.doubled, 8)]
    let accepted := ofPuts [(Sample.rows, 3), (Sample.rows, 4)]
    let after := Outcome.state (accepted.apply Sample.nine)
    (∃ error, refused.apply Sample.nine = .error error Sample.nine ∧ error.name = "doubled") ∧
      accepted.apply Sample.nine = .ok () after ∧ Sample.rows.resolve after = .ok 4 after ∧
      (accepted.release after).read? 0 = none := by
  intro refused accepted after
  rcases @applies_whole_or_not _ [(Sample.rows, 3), (Sample.doubled, 8)] _ _ Sample.declared
    (by simp) with ⟨_, refusal, _, _⟩
  rcases @applies_whole_or_not _ [(Sample.rows, 3), (Sample.rows, 4)] _ _ Sample.declared
    (by simp) with ⟨_, _, application, released⟩
  have entries : accepted.entries = [(Sample.rows, 4)] := rfl
  refine ⟨?_, ?_⟩
  · have first : FirstAt IsDerived refused.entries 1 (Sample.doubled, 8) := by
      refine ⟨rfl, rfl, ?_⟩
      have before : refused.entries.take 1 = [(Sample.rows, 3)] := rfl
      rw [before, List.forall_mem_singleton]
      exact Bool.noConfusion
    rcases refusal 1 _ first with ⟨error, failed, named, _⟩
    exact ⟨error, failed, named⟩
  · have bindable : forall entry, entry ∈ accepted.entries -> ¬ IsDerived entry := by
      rw [entries, List.forall_mem_singleton]
      exact Bool.noConfusion
    rcases application bindable with ⟨done, bound, _⟩
    have member : (Sample.rows, 4) ∈ accepted.entries := List.mem_singleton.mpr rfl
    have held : 0 ∈ accepted.slots := List.mem_singleton.mpr rfl
    exact ⟨done, bound _ _ member rfl, (released 0).trans (if_pos held)⟩

end Bindings

end LoopNest
