import LoopNest.Identity.Token
import LoopNest.Number.Decimal
import LoopNest.Text.Outline

namespace LoopNest

/-!
# Scalars

A scalar is an integer, a floating point number or a truth value.  Scalars
have no identity of their own.  A tagged scalar has one, so that it can be
passed as an argument and found again; otherwise it reaches the kernel body
untouched.
-/

/-- A plain scalar.  Two scalars of different kinds are never equal, and
floating point numbers compare as numbers. -/
inductive Scalar where
  | int (value : Int)
  | float (value : Number.Double)
  | bool (value : Bool)
deriving DecidableEq, BEq

/-- The scalar as diagnostics show it. -/
def Scalar.describe : Scalar -> String
  | .int value => Text.tuple "Int" [toString value]
  | .float value => Text.tuple "Float" [value.text]
  | .bool value => Text.tuple "Bool" [toString value]

/-- A scalar with an identity. -/
structure TaggedScalar where
  id : Token
  value : Scalar
deriving DecidableEq, BEq

namespace TaggedScalar

/-- Declare a scalar. -/
def declare (value : Scalar) : StateM Arena TaggedScalar := fun arena =>
  let (id, arena) := Arena.issue .scalar arena
  (⟨id, value⟩, arena)

/-- The scalar with its token, as diagnostics show it. -/
def describe (scalar : TaggedScalar) : String :=
  Text.record "OpaqueValue"
    [Text.field "id" scalar.id.describe, Text.field "value" scalar.value.describe]

end TaggedScalar

end LoopNest
