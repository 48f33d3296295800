import LoopNest.Logic.Function

namespace LoopNest

/-!
# Kernels

A kernel is a named body without arguments, ready to be emitted.  One that a
pass registers is a logic function with everything substituted that the pass
found; its scope is fixed from then on.  A backend also accepts a kernel that
is any other action on the store.
-/

/-- What a kernel does. -/
inductive KernelBody (σ : Type) where
  /-- Run a logic function under a substitution. -/
  | bound (logic : LogicFunction σ) (substitution : Substitution)
  | action (run : Store σ -> Store σ)

/-- A named body and the native indices that it refers to. -/
structure Kernel (σ : Type) where
  name : String
  indices : List NativeIndex
  body : KernelBody σ

namespace Kernel

variable {σ : Type}

/-- The kernel of a logic function under a substitution. -/
def ofLogic (logic : LogicFunction σ) (substitution : Substitution) : Kernel σ :=
  { name := logic.name
    indices := substitution.nativeIndices
    body := .bound logic substitution }

/-- What the body sees, if it is that of a logic function. -/
def scope? (kernel : Kernel σ) : Option (Scope σ) :=
  match kernel.body with
  | .bound logic substitution => some (logic.scope substitution)
  | .action _ => none

/-- Run the body. -/
def invoke (kernel : Kernel σ) (store : Store σ) : Store σ :=
  match kernel.body with
  | .bound logic substitution => logic.invoke substitution store
  | .action run => run store

/-- The kernel as diagnostics show it, without its body. -/
def describe (kernel : Kernel σ) : String :=
  Text.openRecord "Kernel"
    [Text.field "name" (Text.quoted kernel.name),
      Text.field "indices" (Text.items (kernel.indices.map NativeIndex.describe))]

end Kernel

end LoopNest
