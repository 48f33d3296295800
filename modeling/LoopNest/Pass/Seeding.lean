import LoopNest.Pass.Basic

namespace LoopNest

/-!
# Seeding the arguments

Before anything else a pass records a backend value for every argument of the
function.  The backend wraps the buffer of an array argument, and a scalar is
its own value.  Arguments are found by their tokens later, so a sequence
cannot be one.  Of several arguments with one token the last one counts.

The lengths of the two lists are compared first.  After that the arguments are
taken in order, and the first one that does not fit ends the pass; those
before it stay recorded.
-/

namespace Pass

variable {β σ : Type} [Backend σ β]

/-- The backend value of one argument, at its position in the list. -/
def argumentValue (position : Nat) : Capture σ -> RuntimeArgument -> PassM β σ NativeValue
  | .array handle, .buffer slot => do
      let array <- onBackend (Backend.wrapArgument handle.elementType handle.layout slot)
      pure (.array array)
  | .sequence _, _ => throw (.argumentMismatch position .sequence)
  | .lazy _, _ => throw (.argumentMismatch position .sequence)
  | .array _, .scalar _ => throw (.argumentMismatch position .bufferExpected)
  | capture, .buffer _ =>
      throw (.argumentMismatch position (.scalarExpected capture.kindName))
  | _, .scalar scalar => pure (.scalar scalar)

/-- Record one argument. -/
def seedArgument (position : Nat) (capture : Capture σ) (runtime : RuntimeArgument) :
    PassM β σ Unit := do
  let value <- argumentValue position capture runtime
  match capture.identity? with
  | some token => record token value
  | none => pure ()

/-- Record arguments in order; `position` is that of the first. -/
def seedFrom (position : Nat) : List (Capture σ × RuntimeArgument) -> PassM β σ Unit
  | [] => pure ()
  | (capture, runtime) :: rest => do
      seedArgument position capture runtime
      seedFrom (position + 1) rest

/-- Record all arguments of the pass. -/
def seedArguments : PassM β σ Unit := do
  let ⟨captures, runtime⟩ := (<- get).arguments
  if captures.length = runtime.length then
    seedFrom 0 (captures.zip runtime)
  else
    throw (.argumentMismatch (min captures.length runtime.length)
      (.counts captures.length runtime.length))

end Pass

end LoopNest
