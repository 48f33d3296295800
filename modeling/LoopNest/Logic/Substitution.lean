import LoopNest.Native.Handle

namespace LoopNest

/-!
# Substitutions

Within one pass some captured names are replaced by native values: a single
value by a single one, a sequence by the sequence of those elements that have
a native value.  A substitution lists the replaced names in the order in which
they were captured.  Two substitutions are equal when they replace the same
names by equal values, whatever the order.
-/

/-- What takes the place of one captured value. -/
inductive Replacement where
  | value (native : NativeValue)
  /-- The elements that have a native value, in their order. -/
  | sequence (natives : List NativeValue)
deriving DecidableEq, BEq

/-- All native values in the replacement, in order. -/
def Replacement.natives : Replacement -> List NativeValue
  | .value native => [native]
  | .sequence natives => natives

/-- The replacements of one pass, by captured name. -/
structure Substitution where
  entries : List (String × Replacement)
deriving DecidableEq

namespace Substitution

/-- Nothing is replaced. -/
def empty : Substitution :=
  ⟨[]⟩

/-- The replacement for a name. -/
def get? (substitution : Substitution) (name : String) : Option Replacement :=
  substitution.entries.lookup name

def contains (substitution : Substitution) (name : String) : Bool :=
  (substitution.get? name).isSome

/-- Number of replaced names. -/
def length (substitution : Substitution) : Nat :=
  substitution.entries.length

def isEmpty (substitution : Substitution) : Bool :=
  substitution.entries.isEmpty

/-- The native indices among the replacements, each once, in the order of
first occurrence. -/
def nativeIndices (substitution : Substitution) : List NativeIndex :=
  let natives := substitution.entries.flatMap fun entry => entry.2.natives
  (natives.filterMap NativeValue.index?).eraseDups

/-- The same names are replaced by equal values. -/
instance : BEq Substitution where
  beq left right :=
    left.length == right.length &&
      left.entries.all fun entry => right.get? entry.1 == some entry.2

end Substitution

end LoopNest
