import LoopNest.Identity.LoopIndex
import LoopNest.Text.Outline

namespace LoopNest

/-!
# Predicates and placements

A predicate is a condition on the point of an iteration at which a kernel
runs; a placement asks for a kernel before or after a loop.  Both are for the
scheduler of the backend and go through a pass unchanged.
-/

/-- Condition on the iteration point under which a kernel runs. -/
inductive Predicate where
  /-- The first iteration of the index. -/
  | first (index : LoopIndex)
  /-- The last iteration of the index. -/
  | last (index : LoopIndex)
  /-- The index has this value. -/
  | equals (index : LoopIndex) (value : Int)
  /-- The index lies at or after `start` and before `stop`. -/
  | range (index : LoopIndex) (start stop : Int)
  | and (left right : Predicate)
  | or (left right : Predicate)
  | not (inner : Predicate)
deriving DecidableEq

namespace Predicate

/-- The indices that were seen, and after them this one if it is new. -/
def note (seen : List LoopIndex) (index : LoopIndex) : List LoopIndex :=
  if index ∈ seen then seen else seen ++ [index]

/-- The indices that were seen before the predicate is read, and after them those
that are new in it, as they come up. -/
def collect (seen : List LoopIndex) : Predicate -> List LoopIndex
  | .first index => note seen index
  | .last index => note seen index
  | .equals index _ => note seen index
  | .range index _ _ => note seen index
  | .and left right => right.collect (left.collect seen)
  | .or left right => right.collect (left.collect seen)
  | .not inner => inner.collect seen

/-- Every index that the predicate mentions, once, in the order of first
mention. -/
def indices (predicate : Predicate) : List LoopIndex :=
  predicate.collect []

/-- The predicate as diagnostics show it. -/
def describe : Predicate -> String
  | .first index => Text.tuple "First" [index.describe]
  | .last index => Text.tuple "Last" [index.describe]
  | .equals index value => Text.tuple "Equals" [index.describe, toString value]
  | .range index start stop =>
      Text.record "Range"
        [Text.field "index" index.describe, Text.field "start" (toString start),
          Text.field "end" (toString stop)]
  | .and left right => Text.tuple "And" [left.describe, right.describe]
  | .or left right => Text.tuple "Or" [left.describe, right.describe]
  | .not inner => Text.tuple "Not" [inner.describe]

end Predicate

/-- Where a kernel is emitted relative to a loop. -/
inductive Placement where
  /-- Before the loop over the index begins. -/
  | before (index : LoopIndex)
  /-- After the loop over the index has ended. -/
  | after (index : LoopIndex)
deriving DecidableEq

namespace Placement

/-- The index of the loop. -/
def index : Placement -> LoopIndex
  | .before index => index
  | .after index => index

/-- The placement as diagnostics show it. -/
def describe : Placement -> String
  | .before index => Text.tuple "Before" [index.describe]
  | .after index => Text.tuple "After" [index.describe]

end Placement

end LoopNest
