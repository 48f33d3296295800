import LoopNest.Native.Backend

namespace LoopNest

/-!
# Failures of a declaration or a pass

Every failure is a cause with the data that the message shows.  Failures of
deferred integers and of the backend go through with the messages that they
have on their own.
-/

/-- Why an argument does not fit. -/
inductive ArgumentFault where
  /-- The two lists of arguments have different lengths. -/
  | counts (captures runtime : Nat)
  | sequence
  | bufferExpected
  | scalarExpected (kind : String)
deriving DecidableEq

def ArgumentFault.message : ArgumentFault -> String
  | .counts captures runtime =>
      s!"{captures} front-end arguments but {runtime} runtime arguments"
  | .sequence => "sequence arguments have no identity"
  | .bufferExpected => "array argument needs a buffer"
  | .scalarExpected kind => kind ++ " argument cannot take a buffer"

/-- Why a captured value could not be resolved. -/
inductive CaptureFault where
  /-- A constant array has no data to be resolved from. -/
  | missingData
  /-- The elements of a sequence could not be produced. -/
  | production (reason : String)
  /-- An element of a sequence has no backend value. -/
  | unmapped (position : Nat) (kind : String)
deriving DecidableEq

def CaptureFault.message : CaptureFault -> String
  | .missingData => "constant array carries no data"
  | .production reason => reason
  | .unmapped position kind => s!"element {position} ({kind}) has no backend value"

/-- Why a declaration or a pass failed. -/
inductive NestError where
  /-- A logic function is malformed. -/
  | invalidLogic (error : InvalidLogic)
  /-- A build was attempted while a dimension is still deferred. -/
  | unresolvedShape (dimension : Nat) (parameter : String)
  /-- A deferred integer gave no number. -/
  | unresolvableDeferred (error : DeferredError)
  /-- A captured value could not be turned into a backend value. -/
  | captureResolution (logic capture : String) (fault : CaptureFault)
  /-- The arguments of the two sides do not line up. -/
  | argumentMismatch (position : Nat) (fault : ArgumentFault)
  /-- The backend made a space of another rank than the nest has. -/
  | spaceRankMismatch (expected found : Nat)
  /-- Kernels were to be added before there was a space. -/
  | missingSpace
  | backend (error : BackendError)
deriving DecidableEq

def NestError.message : NestError -> String
  | .invalidLogic error => error.message
  | .unresolvedShape dimension parameter =>
      s!"dimension {dimension} is still deferred (`{parameter}`); " ++
        "replay deferred values before building"
  | .unresolvableDeferred error => error.message
  | .captureResolution logic capture fault =>
      s!"capture `{capture}` of `{logic}` could not be resolved: " ++ fault.message
  | .argumentMismatch position fault => s!"argument {position}: " ++ fault.message
  | .spaceRankMismatch expected found =>
      s!"backend created a space of rank {found}, nest has rank {expected}"
  | .missingSpace => "no native space in the build context; run build_context first"
  | .backend error => error.message

end LoopNest
