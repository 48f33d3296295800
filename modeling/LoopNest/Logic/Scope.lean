import LoopNest.Declaration.Capture
import LoopNest.Logic.Substitution

namespace LoopNest

/-!
# What a kernel body sees

A body looks its captured values up by name.  For every name it finds the
replacement that the pass made, or else the value as it was captured.  The
four narrower look-ups answer only from the replacements, and only if the
replacement has the shape that they ask for.
-/

/-- The captured values of a function and their replacements in one pass. -/
structure Scope (σ : Type) where
  captures : List (String × Capture σ)
  substitution : Substitution

/-- What a body finds under one name. -/
inductive Binding (σ : Type) where
  /-- The captured value was replaced in this pass. -/
  | resolved (replacement : Replacement)
  /-- The captured value goes through as it is. -/
  | captured (capture : Capture σ)

namespace Scope

variable {σ : Type}

/-- The replacement for the name if there is one, else the captured value. -/
def get? (scope : Scope σ) (name : String) : Option (Binding σ) :=
  match scope.substitution.get? name with
  | some replacement => some (.resolved replacement)
  | none => (scope.captures.lookup name).map .captured

/-- The single native value substituted for the name. -/
def native? (scope : Scope σ) (name : String) : Option NativeValue :=
  match scope.substitution.get? name with
  | some (.value native) => some native
  | some (.sequence _) => none
  | none => none

/-- The native array substituted for the name. -/
def array? (scope : Scope σ) (name : String) : Option NativeArray :=
  (scope.native? name).bind NativeValue.array?

/-- The native index substituted for the name. -/
def index? (scope : Scope σ) (name : String) : Option NativeIndex :=
  (scope.native? name).bind NativeValue.index?

/-- The integer substituted for the name: a deferred integer that was
resolved, or an integer argument. -/
def int? (scope : Scope σ) (name : String) : Option Int :=
  match scope.native? name with
  | some (.scalar (.int value)) => some value
  | _ => none

/-- The elements substituted for a sequence. -/
def sequence? (scope : Scope σ) (name : String) : Option (List NativeValue) :=
  match scope.substitution.get? name with
  | some (.sequence natives) => some natives
  | some (.value _) => none
  | none => none

end Scope

end LoopNest
