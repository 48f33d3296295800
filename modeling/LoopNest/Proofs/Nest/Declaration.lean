import Mathlib.Data.List.Nodup
import LoopNest.Proofs.Pass.Contexts

namespace LoopNest

/-!
# What a new nest has

A new nest has the extents that it was declared with and one loop index for each
of them.  As long as the numbers of the dimensions fit their words, the index of
a dimension bears its number, and no two of the indices share a token, although
tokens may begin anew in between.
-/

/-- Loop indices that are declared together bear consecutive numbers. -/
theorem LoopIndex.dimension_of_declareMany {owner : NestId} {start count : Nat} {arena : Arena}
    {dimension : Nat} {index : LoopIndex}
    (found : ((declareMany owner start count).run arena).1[dimension]? = some index) :
    index.dimension = UInt32.ofNat (start + dimension) := by
  induction count generalizing start arena dimension with
  | zero => cases found
  | succ count inductionHypothesis =>
      cases dimension with
      | zero =>
          cases found
          rfl
      | succ dimension =>
          have later : index.dimension = UInt32.ofNat (start + 1 + dimension) :=
            inductionHypothesis found
          rw [later]
          congr 1
          omega

namespace Nest

variable {σ : Type}

/-- The nest is over this shape, and its loop indices can be told apart: their
tokens are distinct and each bears the number of its dimension. -/
structure Over (shape : List (Extent σ)) (nest : Nest σ) : Prop where
  declaredShape : nest.declaredShape = shape
  tokens : nest.ownTokens.Nodup
  dimensions : forall {dimension : Nat} {index : LoopIndex},
    nest.ownIndices[dimension]? = some index ->
      index.dimension = UInt32.ofNat dimension ∧ index.dimension.toNat = dimension

theorem Over.of_same {shape : List (Extent σ)} {nest other : Nest σ} (shaped : nest.Over shape)
    (declaredShape : other.declaredShape = nest.declaredShape)
    (indices : other.ownIndices = nest.ownIndices) : other.Over shape where
  declaredShape := declaredShape.trans shaped.declaredShape
  tokens := by
    rw [ownTokens, indices]
    exact shaped.tokens
  dimensions := by
    rw [indices]
    exact shaped.dimensions

theorem declaredShape_declare (shape : List (Extent σ)) (arena : Arena) :
    ((declare shape).run arena).1.declaredShape = shape := by
  have counted := Arena.length_declareMany ⟨arena.nests⟩ 0 shape.length
    (Arena.issueNest.run arena).2
  refine (List.map_zipWith).trans ?_
  refine (List.map_zip_eq_zipWith (f := Prod.fst)).symm.trans ?_
  exact List.map_fst_zip (Nat.le_of_eq counted.symm)

/-- Tokens in sequence are distinct until they come around. -/
theorem nodup_of_sequence {tokens : List Token} {first : Nat} (fits : tokens.length <= UInt32.size)
    (sequence : forall {place : Nat} {token : Token}, tokens[place]? = some token ->
      token = ⟨UInt32.ofNat (first + place)⟩) : tokens.Nodup := by
  apply List.nodup_iff_getElem?_ne_getElem?.mpr
  intro place later before within same
  have found := List.getElem?_eq_getElem within
  have equal := (sequence (same.trans found)).symm.trans (sequence found)
  have numbers := congrArg UInt32.toNat (Token.mk.inj equal)
  rw [UInt32.toNat_ofNat', UInt32.toNat_ofNat'] at numbers
  have words : UInt32.size = 2 ^ 32 := rfl
  omega

/-- A new nest is over its shape. -/
theorem over_declare (shape : List (Extent σ)) (arena : Arena)
    (fits : shape.length <= UInt32.size) : ((declare shape).run arena).1.Over shape where
  declaredShape := declaredShape_declare shape arena
  tokens := by
    rw [ownTokens, ownIndices_declare]
    apply nodup_of_sequence
    · rw [List.length_map, Arena.length_declareMany]
      exact fits
    · intro place token found
      rw [List.getElem?_map] at found
      rcases Option.map_eq_some_iff.mp found with ⟨index, declared, rfl⟩
      exact token_of_declareMany declared
  dimensions := by
    intro dimension index found
    rw [ownIndices_declare] at found
    have number := LoopIndex.dimension_of_declareMany found
    rw [Nat.zero_add] at number
    have within := (List.getElem?_eq_some_iff.mp found).1
    rw [Arena.length_declareMany] at within
    refine ⟨number, ?_⟩
    rw [number]
    apply UInt32.toNat_ofNat_of_lt'
    omega

end Nest

end LoopNest
