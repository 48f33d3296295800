import LoopNest.Number.Double
import LoopNest.Text.Outline

namespace LoopNest

/-!
# Element types, layouts and contents of arrays

A layout is a shape together with the order of its dimensions in memory.
Extents are sixty-four bit words, and so is the number of elements: it is
multiplied up from the first extent to the last, and there is none as soon as
an intermediate product does not fit.  In particular a later extent of zero
does not undo an earlier overflow.

The front end owns the contents of a constant array and keeps them as a plain
list, of integers or of floating point numbers, whatever the element type of
the array is.
-/

/-- Element type of an array. -/
inductive ElementType where
  | bool
  | int8
  | int16
  | int32
  | int64
  | uint8
  | uint16
  | uint32
  | uint64
  | float16
  | float32
  | float64
deriving DecidableEq

def ElementType.name : ElementType -> String
  | .bool => "Bool"
  | .int8 => "Int8"
  | .int16 => "Int16"
  | .int32 => "Int32"
  | .int64 => "Int64"
  | .uint8 => "UInt8"
  | .uint16 => "UInt16"
  | .uint32 => "UInt32"
  | .uint64 => "UInt64"
  | .float16 => "Float16"
  | .float32 => "Float32"
  | .float64 => "Float64"

/-- Order of the dimensions in memory. -/
inductive MajorOrder where
  /-- The first dimension has the largest stride. -/
  | first
  /-- The last dimension has the largest stride. -/
  | last
deriving DecidableEq

def MajorOrder.name : MajorOrder -> String
  | .first => "FirstMajor"
  | .last => "LastMajor"

/-- A logical shape and the order of its dimensions. -/
structure Layout where
  shape : List UInt64
  order : MajorOrder
deriving DecidableEq

namespace Layout

/-- The product of two words, if it fits into a word. -/
def times? (left right : UInt64) : Option UInt64 :=
  if left.toNat * right.toNat < UInt64.size then some (left * right) else none

/-- Number of elements, unless an intermediate product overflows. -/
def elementCount? (layout : Layout) : Option UInt64 :=
  layout.shape.foldlM times? 1

/-- The extents as diagnostics show them. -/
def describeShape (shape : List UInt64) : String :=
  Text.items (shape.map toString)

/-- The layout as diagnostics show it. -/
def describe (layout : Layout) : String :=
  Text.record "Layout"
    [Text.field "shape" (describeShape layout.shape), Text.field "order" layout.order.name]

theorem times?_eq_some (left right product : UInt64) :
    times? left right = some product <->
      left.toNat * right.toNat < UInt64.size ∧ product.toNat = left.toNat * right.toNat := by
  unfold times?
  split
  next fits =>
    have exact_product : (left * right).toNat = left.toNat * right.toNat := by
      rw [UInt64.toNat_mul]
      exact Nat.mod_eq_of_lt fits
    rw [Option.some.injEq, ← UInt64.toNat_inj, exact_product]
    exact ⟨fun same => ⟨fits, same.symm⟩, fun same => same.2.symm⟩
  next overflow =>
    exact ⟨fun impossible => (nomatch impossible), fun same => absurd same.1 overflow⟩

end Layout

/-- Contents of a constant array. -/
inductive ConstantData where
  | ints (values : List Int)
  | floats (values : List Number.Double)
deriving DecidableEq, BEq

namespace ConstantData

def length : ConstantData -> Nat
  | .ints values => values.length
  | .floats values => values.length

def isEmpty (data : ConstantData) : Bool :=
  data.length == 0

end ConstantData

end LoopNest
