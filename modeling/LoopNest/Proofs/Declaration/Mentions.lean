import LoopNest.Declaration.Predicate
import LoopNest.Proofs.Occurrences

namespace LoopNest

/-!
# Indices that a predicate mentions

A predicate is read from left to right, and the indices are noted as they come
up.  What was noted before the reading began only takes away: a predicate adds
those of its own indices that are new, in the order in which it would list them
alone.  So two predicates that are joined list the indices of the first and then
the new ones of the second, whatever joins them, and the way in which a chain of
predicates is grouped makes no difference.
-/

namespace Predicate

variable {index : LoopIndex} {predicate : Predicate}

/-! ## What is mentioned -/

/-- The index stands in one of the conditions of which the predicate is made. -/
inductive Mentions (index : LoopIndex) : Predicate -> Prop where
  | first : Mentions index (.first index)
  | last : Mentions index (.last index)
  | equals (value : Int) : Mentions index (.equals index value)
  | range (start stop : Int) : Mentions index (.range index start stop)
  | andLeft {left right : Predicate} (inside : Mentions index left) :
      Mentions index (.and left right)
  | andRight {left right : Predicate} (inside : Mentions index right) :
      Mentions index (.and left right)
  | orLeft {left right : Predicate} (inside : Mentions index left) :
      Mentions index (.or left right)
  | orRight {left right : Predicate} (inside : Mentions index right) :
      Mentions index (.or left right)
  | not {inner : Predicate} (inside : Mentions index inner) : Mentions index (.not inner)

/-- The indices of the conditions as they stand from left to right, with every
repetition. -/
def reading : Predicate -> List LoopIndex
  | .first index => [index]
  | .last index => [index]
  | .equals index _ => [index]
  | .range index _ _ => [index]
  | .and left right => left.reading ++ right.reading
  | .or left right => left.reading ++ right.reading
  | .not inner => inner.reading

theorem mem_reading_of_mentions (mentions : Mentions index predicate) :
    index ∈ predicate.reading := by
  induction mentions with
  | first => exact List.mem_singleton_self index
  | last => exact List.mem_singleton_self index
  | equals value => exact List.mem_singleton_self index
  | range start stop => exact List.mem_singleton_self index
  | andLeft _ inductionHypothesis => exact List.mem_append_left _ inductionHypothesis
  | andRight _ inductionHypothesis => exact List.mem_append_right _ inductionHypothesis
  | orLeft _ inductionHypothesis => exact List.mem_append_left _ inductionHypothesis
  | orRight _ inductionHypothesis => exact List.mem_append_right _ inductionHypothesis
  | not _ inductionHypothesis => exact inductionHypothesis

theorem mentions_of_mem_reading (member : index ∈ predicate.reading) :
    Mentions index predicate := by
  induction predicate with
  | first other =>
      cases List.mem_singleton.mp member
      exact .first
  | last other =>
      cases List.mem_singleton.mp member
      exact .last
  | equals other value =>
      cases List.mem_singleton.mp member
      exact .equals value
  | range other start stop =>
      cases List.mem_singleton.mp member
      exact .range start stop
  | and left right leftHypothesis rightHypothesis =>
      rcases List.mem_append.mp member with inLeft | inRight
      · exact .andLeft (leftHypothesis inLeft)
      · exact .andRight (rightHypothesis inRight)
  | or left right leftHypothesis rightHypothesis =>
      rcases List.mem_append.mp member with inLeft | inRight
      · exact .orLeft (leftHypothesis inLeft)
      · exact .orRight (rightHypothesis inRight)
  | not inner inductionHypothesis => exact .not (inductionHypothesis member)

/-! ## What is collected -/

theorem occurrences_note {read seen : List LoopIndex} (occurrences : FirstOccurrences read seen)
    (index : LoopIndex) : FirstOccurrences (read ++ [index]) (note seen index) := by
  unfold note
  split
  · next earlier => exact occurrences.again ((occurrences.members index).mp earlier)
  · next new =>
      exact occurrences.concat fun earlier => new ((occurrences.members index).mpr earlier)

/-- Whatever was read before, the predicate is read after it. -/
theorem occurrences_collect {read seen : List LoopIndex} (occurrences : FirstOccurrences read seen)
    (predicate : Predicate) :
    FirstOccurrences (read ++ predicate.reading) (predicate.collect seen) := by
  induction predicate generalizing read seen with
  | first index => exact occurrences_note occurrences index
  | last index => exact occurrences_note occurrences index
  | equals index value => exact occurrences_note occurrences index
  | range index start stop => exact occurrences_note occurrences index
  | and left right leftHypothesis rightHypothesis =>
      have both := rightHypothesis (leftHypothesis occurrences)
      rwa [List.append_assoc] at both
  | or left right leftHypothesis rightHypothesis =>
      have both := rightHypothesis (leftHypothesis occurrences)
      rwa [List.append_assoc] at both
  | not inner inductionHypothesis => exact inductionHypothesis occurrences

theorem occurrences_indices (predicate : Predicate) :
    FirstOccurrences predicate.reading predicate.indices :=
  occurrences_collect .nil predicate

theorem note_eq (seen : List LoopIndex) (index : LoopIndex) :
    note seen index = seen ++ [index].filter (· ∉ seen) := by
  unfold note
  split
  · next earlier => simp [earlier]
  · next new => simp [new]

/-- What is new in two lists is what is new in the first, and what is new in the
second and not in the first. -/
private theorem filter_joined (seen left right : List LoopIndex) :
    seen ++ left.filter (· ∉ seen) ++ right.filter (· ∉ seen ++ left.filter (· ∉ seen)) =
      seen ++ (left ++ right.filter (· ∉ left)).filter (· ∉ seen) := by
  rw [List.filter_append, List.filter_filter, List.append_assoc]
  congr 2
  refine List.filter_congr fun index _ => ?_
  by_cases earlier : index ∈ seen
  · simp [earlier]
  · simp [earlier]

/-- Two predicates that add what is new in them do so together, one read after the
other. -/
private theorem collect_both {left right : Predicate}
    (first : forall seen, left.collect seen = seen ++ left.indices.filter (· ∉ seen))
    (second : forall seen, right.collect seen = seen ++ right.indices.filter (· ∉ seen))
    (seen : List LoopIndex) :
    right.collect (left.collect seen) =
      seen ++ (right.collect left.indices).filter (· ∉ seen) := by
  rw [second left.indices, ← filter_joined, ← first]
  exact second (left.collect seen)

/-- A predicate adds to what was seen those of its own indices that are new. -/
theorem collect_eq (predicate : Predicate) (seen : List LoopIndex) :
    predicate.collect seen = seen ++ predicate.indices.filter (· ∉ seen) := by
  -- The left part of a pair is what was seen before its right part, so `seen` has to vary.
  induction predicate generalizing seen with
  | first index => exact note_eq seen index
  | last index => exact note_eq seen index
  | equals index value => exact note_eq seen index
  | range index start stop => exact note_eq seen index
  | and left right leftHypothesis rightHypothesis =>
      exact collect_both leftHypothesis rightHypothesis seen
  | or left right leftHypothesis rightHypothesis =>
      exact collect_both leftHypothesis rightHypothesis seen
  | not inner inductionHypothesis => exact inductionHypothesis seen

/-! ## Chains -/

/-- The predicate joins these parts in order, each pair by either connective,
however they are grouped. -/
inductive Joins : List Predicate -> Predicate -> Prop where
  | part (predicate : Predicate) : Joins [predicate] predicate
  | and {before after : List Predicate} {left right : Predicate} (first : Joins before left)
      (second : Joins after right) : Joins (before ++ after) (.and left right)
  | or {before after : List Predicate} {left right : Predicate} (first : Joins before left)
      (second : Joins after right) : Joins (before ++ after) (.or left right)

/-- Reading a chain is reading its parts one after the other. -/
theorem Joins.collect_eq {parts : List Predicate} {whole : Predicate} (joins : Joins parts whole)
    (seen : List LoopIndex) : whole.collect seen = parts.foldl collect seen := by
  induction joins generalizing seen with
  | part predicate => rfl
  | and _ _ firstHypothesis secondHypothesis =>
      rw [List.foldl_append, ← firstHypothesis, ← secondHypothesis]
      rfl
  | or _ _ firstHypothesis secondHypothesis =>
      rw [List.foldl_append, ← firstHypothesis, ← secondHypothesis]
      rfl

/-- A predicate lists the indices that it mentions, each one once, in the order
in which they are first mentioned from left to right.  Joined to another one it
lists its own indices and then those of the other that are new; negation changes
nothing, and neither does the grouping of a chain. -/
theorem indices_by_first_mention (predicate : Predicate) :
    predicate.indices.Nodup ∧
    (forall index, index ∈ predicate.indices <-> Mentions index predicate) ∧
    FirstOccurrences predicate.reading predicate.indices ∧
    (forall other, (predicate.and other).indices =
      predicate.indices ++ other.indices.filter (· ∉ predicate.indices)) ∧
    (forall other, (predicate.or other).indices = (predicate.and other).indices) ∧
    predicate.not.indices = predicate.indices ∧
    (forall second third,
      ((predicate.and second).and third).indices = (predicate.and (second.and third)).indices ∧
      ((predicate.or second).or third).indices = (predicate.or (second.or third)).indices) ∧
    (forall parts other, Joins parts predicate -> Joins parts other ->
      predicate.indices = other.indices) := by
  have occurrences := occurrences_indices predicate
  refine ⟨occurrences.nodup, fun index => ?_, occurrences, fun other => ?_, fun other => rfl, rfl,
    fun second third => ⟨rfl, rfl⟩, fun parts other joins otherJoins => ?_⟩
  · exact (occurrences.members index).trans ⟨mentions_of_mem_reading, mem_reading_of_mentions⟩
  · exact collect_eq other predicate.indices
  · exact (joins.collect_eq []).trans (otherJoins.collect_eq []).symm

namespace Sample

def row : LoopIndex :=
  ⟨⟨0⟩, ⟨0⟩, 0⟩

def column : LoopIndex :=
  ⟨⟨1⟩, ⟨0⟩, 1⟩

/-- Three conditions, two of which are about the same loop. -/
def conditions : List Predicate :=
  [.first column, .range row 0 4, .not (.last column)]

def groupedFirst : Predicate :=
  .or (.and (.first column) (.range row 0 4)) (.not (.last column))

def groupedLast : Predicate :=
  .and (.first column) (.or (.range row 0 4) (.not (.last column)))

end Sample

/-- The inner loop comes first since it is mentioned first, and it comes once,
in both groupings of the conditions. -/
theorem indices_of_regrouped :
    Joins Sample.conditions Sample.groupedFirst ∧ Joins Sample.conditions Sample.groupedLast ∧
      Sample.groupedFirst.indices = Sample.groupedLast.indices ∧
      Sample.groupedLast.indices = [Sample.column, Sample.row] := by
  have first : Joins Sample.conditions Sample.groupedFirst :=
    .or (.and (.part _) (.part _)) (.part _)
  have last : Joins Sample.conditions Sample.groupedLast :=
    .and (.part _) (.or (.part _) (.part _))
  rcases indices_by_first_mention Sample.groupedFirst with ⟨_, _, _, _, _, _, _, regrouped⟩
  exact ⟨first, last, regrouped _ _ first last, by decide⟩

end Predicate

end LoopNest
