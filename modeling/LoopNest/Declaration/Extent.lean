import LoopNest.Declaration.Deferred

namespace LoopNest

/-!
# Extents, and values per dimension

The extent of a dimension is a number, or deferred until a pass resolves it.
Two extents that are numbers are equal as numbers, two deferred ones are equal
when they are the same deferred integer.

Values that belong to the dimensions of a space are handed out without a list
around them when there is only one dimension.
-/

/-- Extent of one dimension. -/
inductive Extent (σ : Type) where
  | fixed (value : Int)
  | deferred (value : Deferred σ)

namespace Extent

variable {σ : Type}

def isDeferred : Extent σ -> Bool
  | .fixed _ => false
  | .deferred _ => true

/-- The number: a fixed extent is its own, a deferred one is resolved. -/
def resolve : Extent σ -> EStateM DeferredError (Store σ) Int
  | .fixed value => pure value
  | .deferred value => value.resolve

/-- Numbers compare by value, deferred extents by identity. -/
instance : BEq (Extent σ) where
  beq
    | .fixed left, .fixed right => left == right
    | .deferred left, .deferred right => left.id == right.id
    | .fixed _, .deferred _ => false
    | .deferred _, .fixed _ => false

/-- The extent as diagnostics show it. -/
def describe : Extent σ -> String
  | .fixed value => toString value
  | .deferred value => "?" ++ value.name

end Extent

/-- One value per dimension, without a list around it if there is one
dimension only. -/
inductive Dims (α : Type) where
  | one (value : α)
  | many (values : List α)
deriving BEq

namespace Dims

variable {α : Type}

/-- The values of all dimensions in order. -/
def ofList : List α -> Dims α
  | [value] => .one value
  | values => .many values

/-- The values of all dimensions in order, whatever their number. -/
def toList : Dims α -> List α
  | .one value => [value]
  | .many values => values

def length (dims : Dims α) : Nat :=
  dims.toList.length

def isEmpty (dims : Dims α) : Bool :=
  dims.length == 0

/-- The value of the only dimension. -/
def one? : Dims α -> Option α
  | .one value => some value
  | .many _ => none

/-- The values of a space that has not exactly one dimension. -/
def many? : Dims α -> Option (List α)
  | .one _ => none
  | .many values => some values

/-- The values as diagnostics show them. -/
def describe (element : α -> String) : Dims α -> String
  | .one value => Text.tuple "One" [element value]
  | .many values => Text.tuple "Many" [Text.items (values.map element)]

@[simp] theorem toList_ofList (values : List α) : (ofList values).toList = values := by
  unfold ofList
  split <;> rfl

end Dims

end LoopNest
