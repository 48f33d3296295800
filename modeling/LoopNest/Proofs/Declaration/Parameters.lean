import LoopNest.Proofs.Declaration.Answers
import LoopNest.Proofs.Declaration.Bindings

namespace LoopNest

/-!
# What a set of bindings binds

Applying a set of bindings writes the number of each entry into the slot of its
handle, which is the number that was put last for the token.  Releasing the set
empties that slot again; no other slot is touched by either.

Two entries never write into one slot, since a slot belongs to one parameter and
all handles of a parameter carry its token.
-/

namespace Deferred

variable {σ : Type}

/-- Handles that have a slot in common carry one token. -/
def SlotsTold (handles : List (Deferred σ)) : Prop :=
  forall (first second : Deferred σ) (slot : Slot), first ∈ handles -> second ∈ handles ->
    first.slot? = some slot -> second.slot? = some slot -> first.id = second.id

/-- The handles that were declared until the store became what it is.  Every
parameter gets a slot of its own; the arenas may be any. -/
inductive Declared : Store σ -> List (Deferred σ) -> Prop
  | nothing (client : σ) : Declared (Store.initial client) []
  | parameter {store : Store σ} {known : List (Deferred σ)} (declared : Declared store known)
      (name : String) (arena : Arena) :
      Declared (Store.newSlot.run store).2
        (((Deferred.parameter name (Store.newSlot.run store).1).run arena).1 :: known)
  | derived {store : Store σ} {known : List (Deferred σ)} (declared : Declared store known)
      (name : String) (rule : EStateM String (Store σ) Int) (arena : Arena) :
      Declared store (((Deferred.derived name rule).run arena).1 :: known)
  /-- Whatever else happens to a store, no slot is handed out again. -/
  | use {store after : Store σ} {known : List (Deferred σ)} (declared : Declared store known)
      (kept : store.slots <= after.slots) : Declared after known

/-- The slots of declared handles were handed out. -/
theorem Declared.slot_lt {store : Store σ} {known : List (Deferred σ)}
    (declared : Declared store known) {handle : Deferred σ} {slot : Slot}
    (member : handle ∈ known) (located : handle.slot? = some slot) : slot < store.slots := by
  induction declared with
  | nothing client => exact absurd member List.not_mem_nil
  | parameter declared name arena inductionHypothesis =>
      rcases List.mem_cons.mp member with rfl | earlier
      · cases located
        exact Nat.lt_succ_self _
      · exact Nat.lt_succ_of_lt (inductionHypothesis earlier)
  | derived declared name rule arena inductionHypothesis =>
      rcases List.mem_cons.mp member with rfl | earlier
      · cases located
      · exact inductionHypothesis earlier
  | use declared kept inductionHypothesis =>
      exact Nat.lt_of_lt_of_le (inductionHypothesis member) kept

/-- Declared handles with one slot are one handle. -/
theorem Declared.eq_of_slot {store : Store σ} {known : List (Deferred σ)}
    (declared : Declared store known) {first second : Deferred σ} {slot : Slot}
    (firstMember : first ∈ known) (secondMember : second ∈ known)
    (firstLocated : first.slot? = some slot) (secondLocated : second.slot? = some slot) :
    first = second := by
  induction declared with
  | nothing client => exact absurd firstMember List.not_mem_nil
  | @parameter store known declared name arena inductionHypothesis =>
      -- The slot of the new parameter is above those of all earlier ones.
      have above {handle : Deferred σ} (earlier : handle ∈ known)
          (located : handle.slot? = some (Store.newSlot.run store).1) : False :=
        Nat.lt_irrefl _ (declared.slot_lt earlier located)
      rcases List.mem_cons.mp firstMember with rfl | firstEarlier
      · rcases List.mem_cons.mp secondMember with rfl | secondEarlier
        · rfl
        · cases firstLocated
          exact (above secondEarlier secondLocated).elim
      · rcases List.mem_cons.mp secondMember with rfl | secondEarlier
        · cases secondLocated
          exact (above firstEarlier firstLocated).elim
        · exact inductionHypothesis firstEarlier secondEarlier
  | derived declared name rule arena inductionHypothesis =>
      rcases List.mem_cons.mp firstMember with rfl | firstEarlier
      · cases firstLocated
      · rcases List.mem_cons.mp secondMember with rfl | secondEarlier
        · cases secondLocated
        · exact inductionHypothesis firstEarlier secondEarlier
  | use declared kept inductionHypothesis => exact inductionHypothesis firstMember secondMember

theorem Declared.slotsTold {store : Store σ} {known handles : List (Deferred σ)}
    (declared : Declared store known)
    (members : forall handle, handle ∈ handles -> handle ∈ known) :
    SlotsTold handles := by
  intro first second slot firstMember secondMember firstLocated secondLocated
  rw [declared.eq_of_slot (members first firstMember) (members second secondMember) firstLocated
    secondLocated]

/-- Releasing a parameter empties its slot and no other. -/
theorem read?_release (value : Deferred σ) (store : Store σ) (slot : Slot) :
    (value.release store).read? slot =
      if value.slot? = some slot then none else store.read? slot := by
  unfold release slot?
  cases value.source with
  | parameter own => simp only [Store.read?_erase, Option.some.injEq]
  | derived rule => rfl

end Deferred

namespace Bindings

variable {σ : Type}

/-- The handles in the set. -/
def handles (bindings : Bindings σ) : List (Deferred σ) :=
  bindings.entries.map Prod.fst

/-- The slots of the parameters in the set. -/
def slots (bindings : Bindings σ) : List Slot :=
  bindings.handles.filterMap Deferred.slot?

theorem mem_slots_iff (bindings : Bindings σ) (slot : Slot) :
    slot ∈ bindings.slots <->
      ∃ parameter, parameter ∈ bindings.handles ∧ parameter.slot? = some slot :=
  List.mem_filterMap

theorem slots_cons (entry : Deferred σ × Int) (rest : List (Deferred σ × Int))
    (positions : Std.ExtTreeMap Token Nat) :
    slots ⟨entry :: rest, positions⟩ = entry.1.slot?.toList ++ slots ⟨rest, positions⟩ := by
  unfold slots handles
  cases located : entry.1.slot? with
  | none => simp [List.filterMap_cons_none located]
  | some slot => simp [List.filterMap_cons_some located]

theorem read?_release (bindings : Bindings σ) (store : Store σ) (slot : Slot) :
    (bindings.release store).read? slot =
      if slot ∈ bindings.slots then none else store.read? slot := by
  rcases bindings with ⟨entries, positions⟩
  induction entries generalizing store with
  | nil => rfl
  | cons entry rest inductionHypothesis =>
      have first := entry.1.read?_release store slot
      have rested := inductionHypothesis (entry.1.release store)
      change (release ⟨rest, positions⟩ (entry.1.release store)).read? slot = _
      rw [rested, first, slots_cons]
      by_cases own : entry.1.slot? = some slot
      · simp [own]
      · have other : slot ∉ entry.1.slot?.toList := by
          rw [Option.mem_toList]
          exact own
        simp [own, other]

/-- The store after the first entry is applied. -/
private theorem applied_cons (entry : Deferred σ × Int) (rest : List (Deferred σ × Int))
    (positions : Std.ExtTreeMap Token Nat) (store : Store σ) :
    applied ⟨entry :: rest, positions⟩ store =
      applied ⟨rest, positions⟩
        (match entry.1.slot? with
          | some slot => store.write slot entry.2
          | none => store) :=
  rfl

theorem read?_applied_of_notMem (bindings : Bindings σ) (store : Store σ) {slot : Slot}
    (free : slot ∉ bindings.slots) : (bindings.applied store).read? slot = store.read? slot := by
  rcases bindings with ⟨entries, positions⟩
  induction entries generalizing store with
  | nil => rfl
  | cons entry rest inductionHypothesis =>
      rw [slots_cons, List.mem_append, not_or, Option.mem_toList] at free
      rw [applied_cons, inductionHypothesis _ free.2]
      cases located : entry.1.slot? with
      | none => rfl
      | some own =>
          rw [located] at free
          have different : own ≠ slot := fun same => free.1 (congrArg some same)
          dsimp only
          rw [Store.read?_write, if_neg different]

/-- A set that cannot be applied writes nothing. -/
theorem eq_of_apply_error (bindings : Bindings σ) {store after : Store σ} {error : DeferredError}
    (failed : bindings.apply store = .error error after) : after = store := by
  cases derived : bindings.firstDerived? with
  | some value =>
      unfold apply at failed
      rw [derived] at failed
      cases failed
      rfl
  | none =>
      have parameters := (firstDerived?_eq_none_iff bindings).mp derived
      have applied := (bindings.apply_eq_ok_iff store _ ()).mpr ⟨parameters, rfl⟩
      rw [applied] at failed
      cases failed

/-- If all entries with this slot have one number, the slot has it afterwards. -/
theorem read?_applied_of_mem (bindings : Bindings σ) (store : Store σ) {slot : Slot} {number : Int}
    (numbered : forall entry, entry ∈ bindings.entries -> entry.1.slot? = some slot ->
      entry.2 = number)
    (held : slot ∈ bindings.slots) : (bindings.applied store).read? slot = some number := by
  rcases bindings with ⟨entries, positions⟩
  induction entries generalizing store with
  | nil => exact absurd held List.not_mem_nil
  | cons entry rest inductionHypothesis =>
      rw [List.forall_mem_cons] at numbered
      rw [applied_cons]
      by_cases later : slot ∈ slots ⟨rest, positions⟩
      · exact inductionHypothesis _ numbered.2 later
      · rw [slots_cons, List.mem_append, Option.mem_toList] at held
        have located := held.resolve_right later
        rw [read?_applied_of_notMem _ _ later, located]
        dsimp only
        rw [Store.read?_write, if_pos rfl, numbered.1 located]

/-- A set that is applied has every parameter read the number that was put last
for its token. -/
theorem read?_applied_ofPuts {puts : List (Deferred σ × Int)}
    (slotsTold : Deferred.SlotsTold (puts.map Prod.fst)) (store : Store σ)
    {parameter : Deferred σ} {slot : Slot} (held : parameter ∈ (ofPuts puts).handles)
    (located : parameter.slot? = some slot) :
    ∃ number, lastPut? puts parameter.id = some number ∧
      ((ofPuts puts).applied store).read? slot = some number := by
  have told := told_ofPuts puts
  rcases List.mem_map.mp held with ⟨⟨_, number⟩, member, rfl⟩
  have last := told.number _ member
  refine ⟨number, last, read?_applied_of_mem _ store ?_ ?_⟩
  · intro entry otherMember otherLocated
    have same := slotsTold _ _ slot (told.handle otherMember) (told.handle member)
      otherLocated located
    have otherLast := told.number entry otherMember
    rw [same, last, Option.some.injEq] at otherLast
    exact otherLast.symm
  · exact (mem_slots_iff _ slot).mpr ⟨_, held, located⟩

end Bindings

end LoopNest
