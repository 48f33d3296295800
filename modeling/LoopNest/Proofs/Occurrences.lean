import Mathlib.Data.List.Basic

namespace LoopNest

/-!
# First occurrences

A list that is read from its beginning may name an item again and again.  What
remembers every item when it is named for the first time, and passes over it
later, ends up with the first occurrences: each item once, in the order in which
the items come up.

The order is told by the positions in the list that is read, so it does not
depend on how the first occurrences are found.
-/

/-- The second list has every item of the first one, ordered by the positions at
which they occur for the first time. -/
structure FirstOccurrences {α : Type} [DecidableEq α] (read once : List α) : Prop where
  members : forall item, item ∈ once <-> item ∈ read
  ordered : once.Pairwise fun earlier later => read.idxOf earlier < read.idxOf later

namespace FirstOccurrences

variable {α : Type} [DecidableEq α] {read once : List α} {item : α}

/-- Each item is there once. -/
theorem nodup (occurrences : FirstOccurrences read once) : once.Nodup := by
  refine occurrences.ordered.imp fun before same => ?_
  subst same
  exact Nat.lt_irrefl _ before

theorem nil : FirstOccurrences ([] : List α) [] :=
  ⟨fun _ => Iff.rfl, .nil⟩

/-- What is read later leaves the positions of what was read alone. -/
private theorem ordered_concat (occurrences : FirstOccurrences read once) (item : α) :
    once.Pairwise fun earlier later =>
      (read ++ [item]).idxOf earlier < (read ++ [item]).idxOf later := by
  refine occurrences.ordered.imp_of_mem fun {earlier later} member otherMember before => ?_
  rw [List.idxOf_append_of_mem ((occurrences.members earlier).mp member),
    List.idxOf_append_of_mem ((occurrences.members later).mp otherMember)]
  exact before

/-- An item that was read already is passed over. -/
theorem again (occurrences : FirstOccurrences read once) (member : item ∈ read) :
    FirstOccurrences (read ++ [item]) once where
  members := by
    intro other
    rw [occurrences.members, List.mem_append, List.mem_singleton]
    constructor
    · exact .inl
    · rintro (earlier | rfl)
      · exact earlier
      · exact member
  ordered := ordered_concat occurrences item

/-- An item that was not read before comes last. -/
theorem concat (occurrences : FirstOccurrences read once) (absent : item ∉ read) :
    FirstOccurrences (read ++ [item]) (once ++ [item]) where
  members := by
    intro other
    rw [List.mem_append, List.mem_append, occurrences.members]
  ordered := by
    refine List.pairwise_append.mpr
      ⟨ordered_concat occurrences item, List.pairwise_singleton _ _, ?_⟩
    intro earlier member last same
    cases List.mem_singleton.mp same
    have here := (occurrences.members earlier).mp member
    rw [List.idxOf_append_of_mem here, List.idxOf_append_of_notMem absent]
    exact Nat.lt_of_lt_of_le (List.idxOf_lt_length_of_mem here) (Nat.le_add_right _ _)

/-- Dropping repetitions leaves the first occurrences. -/
theorem eraseDups (read : List α) : FirstOccurrences read read.eraseDups := by
  -- The induction is from the end, where an item is told apart by what was read before it.
  suffices fromEnd : forall reversed : List α,
      FirstOccurrences reversed.reverse reversed.reverse.eraseDups by
    have all := fromEnd read.reverse
    rwa [List.reverse_reverse] at all
  intro reversed
  induction reversed with
  | nil => exact nil
  | cons item rest inductionHypothesis =>
      rw [List.reverse_cons, List.eraseDups_append]
      by_cases earlier : item ∈ rest.reverse
      · have nothing : [item].removeAll rest.reverse = [] := by
          simpa [List.removeAll] using earlier
        rw [nothing, List.eraseDups_nil, List.append_nil]
        exact inductionHypothesis.again earlier
      · have itself : [item].removeAll rest.reverse = [item] := by
          simpa [List.removeAll] using earlier
        rw [itself]
        exact inductionHypothesis.concat earlier

end FirstOccurrences

end LoopNest
