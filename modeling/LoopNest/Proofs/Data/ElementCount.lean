import Mathlib.Algebra.BigOperators.Group.List.Basic
import LoopNest.Proofs.Native.Recorder

namespace LoopNest

/-!
# The number of elements of a layout

The number of elements is multiplied up extent by extent, and the count ends
without a number when a product does not fit its word.  Behind an extent of zero
all products are zero, so the extents before the first zero decide whether there
is a number.  If there is one, it is the product of all extents.

So a layout without an extent of zero is counted exactly.  A layout with one has
no elements, but it is only counted so if the extents before the zero multiply
to a word.  This is the one place where the order of the dimensions matters.
-/

namespace Layout

/-- The product of extents, of whatever size. -/
def product (shape : List UInt64) : Nat :=
  (shape.map UInt64.toNat).prod

/-- The extents before the first that is zero. -/
def leading (shape : List UInt64) : List UInt64 :=
  shape.takeWhile fun extent => extent != 0

/-- The count is the product of the extents if a word holds that, and there is
no count exactly if no word does. -/
def CountsExactly (layout : Layout) : Prop :=
  (forall count, layout.elementCount? = some count <->
    product layout.shape < UInt64.size ∧ count.toNat = product layout.shape) ∧
  (layout.elementCount? = none <-> UInt64.size <= product layout.shape)

theorem product_cons (extent : UInt64) (rest : List UInt64) :
    product (extent :: rest) = extent.toNat * product rest :=
  List.prod_cons

theorem product_eq_zero_iff (shape : List UInt64) : product shape = 0 <-> 0 ∈ shape := by
  have zero (extent : UInt64) : extent.toNat = 0 <-> extent = 0 := UInt64.toNat_inj (b := 0)
  rw [product, List.prod_eq_zero_iff_exists_zero_nat]
  constructor
  · rintro ⟨factor, member, vanishes⟩
    rcases List.mem_map.mp member with ⟨extent, listed, rfl⟩
    exact (zero extent).mp vanishes ▸ listed
  · intro listed
    exact ⟨0, List.mem_map.mpr ⟨0, listed, rfl⟩, rfl⟩

theorem product_of_perm {shape other : List UInt64} (reordered : shape.Perm other) :
    product shape = product other :=
  (reordered.map UInt64.toNat).prod_nat

theorem leading_cons_of_ne {extent : UInt64} (different : extent ≠ 0) (rest : List UInt64) :
    leading (extent :: rest) = extent :: leading rest :=
  List.takeWhile_cons_of_pos (bne_iff_ne.mpr different)

theorem leading_zero_cons (rest : List UInt64) : leading (0 :: rest) = [] :=
  rfl

theorem leading_eq_self {shape : List UInt64} (positive : 0 ∉ shape) : leading shape = shape := by
  induction shape with
  | nil => rfl
  | cons extent rest inductionHypothesis =>
      rw [List.mem_cons, not_or] at positive
      rw [leading_cons_of_ne (Ne.symm positive.1), inductionHypothesis positive.2]

theorem product_leading_pos (shape : List UInt64) : 0 < product (leading shape) := by
  refine Nat.pos_of_ne_zero fun vanishes => ?_
  have member := (product_eq_zero_iff _).mp vanishes
  have passed := List.all_eq_true.mp (List.all_takeWhile (p := fun extent => extent != 0)) 0 member
  cases passed

/-- With one more extent in front its product is what has to fit too. -/
theorem fits_leading_cons_iff (start extent : UInt64) (rest : List UInt64) :
    start.toNat * product (leading (extent :: rest)) < UInt64.size <->
      start.toNat * extent.toNat < UInt64.size ∧
        start.toNat * extent.toNat * product (leading rest) < UInt64.size := by
  by_cases zero : extent = 0
  · subst zero
    have fits : start.toNat < UInt64.size := start.toNat_lt
    have positive : 0 < UInt64.size := by decide
    simp [leading_zero_cons, product, fits, positive]
  · rw [leading_cons_of_ne zero, product_cons, ← Nat.mul_assoc]
    have shorter := Nat.le_mul_of_pos_right (start.toNat * extent.toNat) (product_leading_pos rest)
    exact ⟨fun fits => ⟨Nat.lt_of_le_of_lt shorter fits, fits⟩, fun both => both.2⟩

/-- Multiplied up from any number, a shape gives a number if the extents before
its first zero do, and then the number is the product of all. -/
theorem foldlM_times?_eq_some_iff (shape : List UInt64) (start count : UInt64) :
    shape.foldlM times? start = some count <->
      start.toNat * product (leading shape) < UInt64.size ∧
        count.toNat = start.toNat * product shape := by
  induction shape generalizing start with
  | nil =>
      have one : product [] = 1 := rfl
      have fits : start.toNat < UInt64.size := start.toNat_lt
      have alone : leading [] = [] := rfl
      rw [List.foldlM_nil, alone, one, Nat.mul_one, Option.pure_def, Option.some.injEq,
        ← UInt64.toNat_inj, eq_comm]
      exact ⟨fun same => ⟨fits, same⟩, fun both => both.2⟩
  | cons extent rest inductionHypothesis =>
      rw [List.foldlM_cons, Option.bind_eq_bind, Option.bind_eq_some_iff, fits_leading_cons_iff,
        product_cons, ← Nat.mul_assoc]
      simp only [times?_eq_some, inductionHypothesis]
      constructor
      · rintro ⟨next, ⟨fits, next_eq⟩, laterFits, counted⟩
        rw [next_eq] at laterFits counted
        exact ⟨⟨fits, laterFits⟩, counted⟩
      · rintro ⟨⟨fits, laterFits⟩, counted⟩
        have next_eq : (UInt64.ofNat (start.toNat * extent.toNat)).toNat =
            start.toNat * extent.toNat := UInt64.toNat_ofNat_of_lt' fits
        refine ⟨_, ⟨fits, next_eq⟩, ?_⟩
        rw [next_eq]
        exact ⟨laterFits, counted⟩

theorem elementCount?_eq_some_iff (layout : Layout) (count : UInt64) :
    layout.elementCount? = some count <->
      product (leading layout.shape) < UInt64.size ∧ count.toNat = product layout.shape := by
  have one : (1 : UInt64).toNat = 1 := rfl
  rw [elementCount?, foldlM_times?_eq_some_iff, one, Nat.one_mul, Nat.one_mul]

theorem product_le_leading (shape : List UInt64) : product shape <= product (leading shape) := by
  by_cases zero : 0 ∈ shape
  · rw [(product_eq_zero_iff shape).mpr zero]
    exact Nat.zero_le _
  · exact Nat.le_of_eq (congrArg product (leading_eq_self zero).symm)

/-- There is no count exactly if the extents before the first zero multiply to
more than a word holds. -/
theorem elementCount?_eq_none_iff (layout : Layout) :
    layout.elementCount? = none <-> UInt64.size <= product (leading layout.shape) := by
  constructor
  · intro uncounted
    refine Nat.le_of_not_lt fun fits => ?_
    have small := Nat.lt_of_le_of_lt (product_le_leading layout.shape) fits
    have counted := (elementCount?_eq_some_iff layout (.ofNat (product layout.shape))).mpr
      ⟨fits, UInt64.toNat_ofNat_of_lt' small⟩
    rw [uncounted] at counted
    cases counted
  · intro overflows
    cases counted : layout.elementCount? with
    | none => rfl
    | some count =>
        have fits := ((elementCount?_eq_some_iff layout count).mp counted).1
        exact absurd fits (Nat.not_lt_of_le overflows)

/-- A layout is counted exactly if no extent is zero, and otherwise if those
before the first zero multiply to a word. -/
theorem countsExactly_iff (layout : Layout) :
    layout.CountsExactly <->
      (0 ∈ layout.shape -> product (leading layout.shape) < UInt64.size) := by
  constructor
  · intro exactly zero
    have nothing := (product_eq_zero_iff layout.shape).mpr zero
    have counted := (exactly.1 0).mpr (by rw [nothing]; decide)
    exact ((elementCount?_eq_some_iff layout 0).mp counted).1
  · intro fits
    have same : product (leading layout.shape) < UInt64.size <->
        product layout.shape < UInt64.size := by
      by_cases zero : 0 ∈ layout.shape
      · have small := Nat.lt_of_le_of_lt (product_le_leading layout.shape) (fits zero)
        exact ⟨fun _ => small, fun _ => fits zero⟩
      · rw [leading_eq_self zero]
    refine ⟨fun count => ?_, ?_⟩
    · rw [elementCount?_eq_some_iff, same]
    · rw [elementCount?_eq_none_iff, ← Nat.not_lt, same, Nat.not_lt]

/-- A recorder that does not reject constants takes the data if they are as many
as the product of the extents and the layout has a count. -/
theorem succeeds_resolveConstant_iff {σ : Type} (elementType : ElementType) (layout : Layout)
    (data : ConstantData) {recorder : Recorder σ}
    (accepting : BackendOperation.resolveConstant ∉ recorder.rejected) :
    Outcome.Succeeds (Recorder.resolveConstant elementType layout data) recorder <->
      product (leading layout.shape) < UInt64.size ∧ data.length = product layout.shape := by
  unfold Outcome.Succeeds
  simp only [Recorder.resolveConstant_eq_ok_iff, elementCount?_eq_some_iff]
  constructor
  · rintro ⟨_, _, _, ⟨count, ⟨fits, counted⟩, filled⟩, _⟩
    exact ⟨fits, filled.trans counted⟩
  · rintro ⟨fits, filled⟩
    have small := Nat.lt_of_le_of_lt (product_le_leading layout.shape) fits
    have counted := UInt64.toNat_ofNat_of_lt' small
    exact ⟨_, _, accepting, ⟨.ofNat (product layout.shape), ⟨fits, counted⟩,
      filled.trans counted.symm⟩, rfl, rfl⟩

/-- The count of a layout is the product of its extents, and it is missing only
if a product of extents before the first zero overflows.  Where the count is
exact, the order of the dimensions does not matter, an extent of zero gives zero
elements, and a constant is taken if its data are as many as the product. -/
theorem counted_until_zero (layout : Layout) :
    (forall count, layout.elementCount? = some count <->
      product (leading layout.shape) < UInt64.size ∧ count.toNat = product layout.shape) ∧
    (layout.elementCount? = none <-> UInt64.size <= product (leading layout.shape)) ∧
    (layout.CountsExactly <->
      (0 ∈ layout.shape -> product (leading layout.shape) < UInt64.size)) ∧
    (layout.CountsExactly -> 0 ∈ layout.shape -> layout.elementCount? = some 0) ∧
    (layout.CountsExactly -> forall other : Layout, other.CountsExactly ->
      layout.shape.Perm other.shape -> layout.elementCount? = other.elementCount?) ∧
    (forall (σ : Type) (elementType : ElementType) (data : ConstantData) (recorder : Recorder σ),
      BackendOperation.resolveConstant ∉ recorder.rejected ->
        (Outcome.Succeeds (Recorder.resolveConstant elementType layout data) recorder <->
          product (leading layout.shape) < UInt64.size ∧
            data.length = product layout.shape) ∧
        (layout.CountsExactly -> data.length < UInt64.size ->
          (Outcome.Succeeds (Recorder.resolveConstant elementType layout data) recorder <->
            data.length = product layout.shape))) := by
  refine ⟨elementCount?_eq_some_iff layout, elementCount?_eq_none_iff layout,
    countsExactly_iff layout, ?_, ?_, ?_⟩
  · intro exactly zero
    have fits := (countsExactly_iff layout).mp exactly zero
    exact (elementCount?_eq_some_iff layout 0).mpr
      ⟨fits, ((product_eq_zero_iff layout.shape).mpr zero).symm⟩
  · intro exactly other otherExactly reordered
    have same := product_of_perm reordered
    refine Option.ext fun count => ?_
    exact (exactly.1 count).trans (same ▸ (otherExactly.1 count).symm)
  · intro σ elementType data recorder accepting
    have taken := succeeds_resolveConstant_iff elementType layout data accepting
    refine ⟨taken, fun exactly small => taken.trans ⟨fun both => both.2, fun filled => ?_⟩⟩
    refine ⟨?_, filled⟩
    by_cases zero : 0 ∈ layout.shape
    · exact (countsExactly_iff layout).mp exactly zero
    · rw [leading_eq_self zero, ← filled]
      exact small

end Layout

namespace Sample

/-- Two dimensions whose extents multiply to a number beyond all words, and one
without any iteration. -/
def vast : Layout :=
  ⟨[9223372036854775808, 2, 0], .first⟩

/-- The same dimensions, the empty one first. -/
def vastReordered : Layout :=
  ⟨[0, 9223372036854775808, 2], .first⟩

end Sample

namespace Layout

/-- A layout that is counted exactly takes data for all its elements. -/
theorem counted_two_by_three :
    CountsExactly ⟨[2, 3], .first⟩ ∧
      Outcome.Succeeds
        (Recorder.resolveConstant .int32 ⟨[2, 3], .first⟩ (.ints [1, 2, 3, 4, 5, 6]))
        (Recorder.empty : Recorder Unit) := by
  have counted := counted_until_zero ⟨[2, 3], .first⟩
  have exactly := counted.2.2.1.mpr fun _ => by decide
  have taken := counted.2.2.2.2.2 Unit .int32 (.ints [1, 2, 3, 4, 5, 6]) .empty List.not_mem_nil
  exact ⟨exactly, (taken.2 exactly (by decide)).mpr rfl⟩

/-- An empty layout has no count if an overflow comes before its extent of zero,
so not even empty data are taken for it.  In another order it is counted. -/
theorem uncounted_before_zero :
    product Sample.vast.shape = 0 ∧ Sample.vast.elementCount? = none ∧
      ¬ Sample.vast.CountsExactly ∧
      Sample.vast.shape.Perm Sample.vastReordered.shape ∧
      Sample.vastReordered.elementCount? = some 0 ∧
      Recorder.resolveConstant .int32 Sample.vast (.ints []) (Recorder.empty : Recorder Unit) =
        .error (.layoutOverflow Sample.vast.shape) .empty := by
  have uncounted : Sample.vast.elementCount? = none := by decide +kernel
  have nothing : product Sample.vast.shape = 0 := by decide +kernel
  refine ⟨nothing, uncounted, ?_, by decide +kernel, by decide +kernel, rfl⟩
  intro exactly
  have counted := (exactly.1 0).mpr (by rw [nothing]; decide)
  rw [uncounted] at counted
  cases counted

end Layout

end LoopNest
