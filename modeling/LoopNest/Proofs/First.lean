namespace LoopNest

/-!
# The first item of a list

A pass takes dimensions and arguments in order and stops at the first one that
is in its way.  The first item of a list with a property stands at a position,
and no item before that position has the property.
-/

/-- The item at this position is the first one that has the property. -/
structure FirstAt {α : Type} (has : α -> Prop) (items : List α) (position : Nat) (item : α) :
    Prop where
  found : items[position]? = some item
  here : has item
  earlier : forall other, other ∈ items.take position -> ¬ has other

namespace FirstAt

variable {α : Type} {has : α -> Prop} {items : List α} {position : Nat} {item : α}

/-- The list is what comes before the item, the item, and what comes after. -/
theorem split (first : FirstAt has items position item) :
    items = items.take position ++ item :: items.drop (position + 1) := by
  rcases List.getElem?_eq_some_iff.mp first.found with ⟨within, rfl⟩
  rw [← List.drop_eq_getElem_cons within, List.take_append_drop]

/-- A list with an item of this kind at its head. -/
theorem head (here : has item) (rest : List α) : FirstAt has (item :: rest) 0 item :=
  ⟨rfl, here, nofun⟩

theorem cons_succ_iff {skipped : α} :
    FirstAt has (skipped :: items) (position + 1) item <->
      ¬ has skipped ∧ FirstAt has items position item := by
  constructor
  · intro first
    have earlier := first.earlier
    rw [List.take_succ_cons, List.forall_mem_cons] at earlier
    exact ⟨earlier.1, first.found, first.here, earlier.2⟩
  · rintro ⟨skips, first⟩
    refine ⟨first.found, first.here, ?_⟩
    rw [List.take_succ_cons, List.forall_mem_cons]
    exact ⟨skips, first.earlier⟩

/-- Either some item is the first of its kind, or there is none. -/
theorem exists_or_forall (has : α -> Prop) (items : List α) :
    (∃ position item, FirstAt has items position item) ∨
      forall item, item ∈ items -> ¬ has item := by
  induction items with
  | nil => exact .inr nofun
  | cons item rest inductionHypothesis =>
      by_cases here : has item
      · exact .inl ⟨0, item, head here rest⟩
      · rcases inductionHypothesis with ⟨position, later, first⟩ | none
        · exact .inl ⟨position + 1, later, cons_succ_iff.mpr ⟨here, first⟩⟩
        · exact .inr (List.forall_mem_cons.mpr ⟨here, none⟩)

end FirstAt

end LoopNest
