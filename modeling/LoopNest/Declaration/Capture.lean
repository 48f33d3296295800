import LoopNest.Data.ArrayHandle
import LoopNest.Data.Scalar
import LoopNest.Declaration.Deferred
import LoopNest.Identity.LoopIndex

namespace LoopNest

/-!
# Captured values

A kernel body closes over deferred integers, loop indices, arrays, scalars and
sequences of such values.  The first four carry a token.  A sequence has no
identity: it is given element by element, or by a rule that produces the
elements anew whenever they are asked for and may fail with a text.

A sequence may hold sequences, and a rule may produce rules.
-/

/-- A value that a kernel body closes over. -/
inductive Capture (σ : Type) where
  | deferred (value : Deferred σ)
  | index (loop : LoopIndex)
  | array (handle : ArrayHandle)
  | scalar (value : TaggedScalar)
  /-- A sequence whose elements are known. -/
  | sequence (elements : List (Capture σ))
  /-- A sequence whose elements are produced on demand. -/
  | lazy (produce : Store σ -> EStateM.Result String (Store σ) (List (Capture σ)))

namespace Capture

variable {σ : Type}

/-- The token of the value.  Sequences have none. -/
def identity? : Capture σ -> Option Token
  | .deferred value => some value.id
  | .index loop => some loop.id
  | .array handle => some handle.id
  | .scalar value => some value.id
  | .sequence _ => none
  | .lazy _ => none

/-- The kind of the value in a word, as messages use it. -/
def kindName : Capture σ -> String
  | .deferred _ => "deferred"
  | .index _ => "index"
  | .array _ => "array"
  | .scalar _ => "opaque"
  | .sequence _ => "sequence"
  | .lazy _ => "sequence"

/-- How to get the elements, if the value is a sequence. -/
def elements? : Capture σ -> Option (EStateM String (Store σ) (List (Capture σ)))
  | .sequence elements => some (pure elements)
  | .lazy produce => some produce
  | .deferred _ => none
  | .index _ => none
  | .array _ => none
  | .scalar _ => none

/-- The value as diagnostics show it.  Elements that are produced on demand
are not produced for this. -/
def describe (store : Store σ) : Capture σ -> String
  | .deferred value => Text.tuple "Deferred" [value.describe store]
  | .index loop => Text.tuple "Index" [loop.describe]
  | .array handle => Text.tuple "Array" [handle.describe]
  | .scalar value => Text.tuple "Opaque" [value.describe]
  | .sequence elements => Text.tuple "Sequence" [Text.items (describeAll store elements)]
  | .lazy _ => Text.tuple "Sequence" ["[..lazy]"]
where
  describeAll (store : Store σ) : List (Capture σ) -> List String
    | [] => []
    | element :: rest => describe store element :: describeAll store rest

end Capture

end LoopNest
