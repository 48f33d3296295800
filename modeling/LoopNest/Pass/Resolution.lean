import LoopNest.Pass.Basic

namespace LoopNest

/-!
# Resolving captured values

A logic function is resolved anew in every pass.  For each captured value, in
the order of capture:

* a value whose token is in the identity map is replaced by its entry;
* scratch arrays and constants are made by the backend, recorded under their
  tokens and replaced, so that each is made once in a pass;
* array arguments, loop indices and scalars that are not in the map go through
  as they are: an index then belongs to another nest;
* a deferred integer is replaced by its number;
* a sequence is replaced by the map entries of its elements, in order.  Nothing
  is made for an element, and an element without an entry is dropped, or ends
  the pass if it is strict.
-/

namespace Pass

variable {β σ : Type} [Backend σ β]

/-- The backend value of an array without an entry, if the pass makes one.
`failure` tells what a fault of this array means. -/
def materialize (failure : CaptureFault -> NestError) (array : ArrayRecord) :
    PassM β σ (Option NativeValue) :=
  if array.role.isArgument then pure none
  else do
    let native <-
      if array.role = .temporary then
        onBackend (Backend.allocate array.elementType array.layout)
      else
        match array.data? with
        | none => throw (failure .missingData)
        | some data => onBackend (Backend.resolveConstant array.elementType array.layout data)
    record array.id (.array native)
    pure (some (.array native))

/-- What is made for a handle depends on the way in which it was declared.  A
constant then has its data. -/
theorem materialize_handle (failure : CaptureFault -> NestError) (handle : ArrayHandle) :
    (materialize failure handle.record : PassM β σ (Option NativeValue)) =
      match handle.source with
      | .temporary => do
          let array <- onBackend (Backend.allocate handle.elementType handle.layout)
          record handle.id (.array array)
          pure (some (.array array))
      | .constant data => do
          let array <- onBackend (Backend.resolveConstant handle.elementType handle.layout data)
          record handle.id (.array array)
          pure (some (.array array))
      | .input => pure none
      | .inputOutput => pure none := by
  have role : handle.source.role = handle.record.role := handle.role_source
  have data : handle.source.data? = handle.record.data? := handle.data?_source
  unfold materialize
  rw [← role, ← data]
  cases handle.source <;> rfl

/-- The entries of the elements of a sequence, in order; `position` is that of
the first element.  A strict pass wants an entry for every element. -/
def mappedFrom (pass : Pass β σ) (position : Nat) :
    List (Capture σ) -> Except CaptureFault (List NativeValue)
  | [] => .ok []
  | element :: rest =>
      match pass.lookup? element with
      | some value => (pass.mappedFrom (position + 1) rest).map (value :: ·)
      | none =>
          if pass.options.strictSequences then .error (.unmapped position element.kindName)
          else pass.mappedFrom (position + 1) rest

/-- The replacement of a sequence with the given elements. -/
def resolveElements (failure : CaptureFault -> NestError) (elements : List (Capture σ)) :
    PassM β σ Replacement := do
  match (<- get).mappedFrom 0 elements with
  | .ok values => pure (.sequence values)
  | .error fault => throw (failure fault)

/-- The replacement of a captured value without an entry, if it has one.
`failure` tells what a fault of this capture means. -/
def resolveUnmapped (failure : CaptureFault -> NestError) :
    Capture σ -> PassM β σ (Option Replacement)
  | .array handle => do
      let value? <- materialize failure handle.record
      pure (value?.map .value)
  | .index _ => pure none
  | .scalar _ => pure none
  | .deferred value => do
      let number <- onStore .unresolvableDeferred value.resolve
      pure (some (.value (.scalar (.int number))))
  | .sequence elements => do
      let replacement <- resolveElements failure elements
      pure (some replacement)
  | .lazy produce => do
      let elements <- onStore (fun reason => failure (.production reason)) produce
      let replacement <- resolveElements failure elements
      pure (some replacement)

/-- The replacement of a captured value, if it has one. -/
def resolveCapture (failure : CaptureFault -> NestError) (capture : Capture σ) :
    PassM β σ (Option Replacement) := do
  match (<- get).lookup? capture with
  | some value => pure (some (.value value))
  | none => resolveUnmapped failure capture

/-- The replacements of captured values by name, in order, for the logic
function of the given name. -/
def resolveAll (logic : String) :
    List (String × Capture σ) -> PassM β σ (List (String × Replacement))
  | [] => pure []
  | (name, capture) :: rest => do
      let replacement? <- resolveCapture (.captureResolution logic name) capture
      let others <- resolveAll logic rest
      match replacement? with
      | some replacement => pure ((name, replacement) :: others)
      | none => pure others

/-- The substitution of a logic function in this pass. -/
def resolve (logic : LogicFunction σ) : PassM β σ Substitution := do
  let entries <- resolveAll logic.name logic.captures
  pure ⟨entries⟩

/-- Resolve a logic function and register its kernel in the native space. -/
def addLogic (logic : LogicFunction σ) (scheduling : Scheduling) : PassM β σ Unit := do
  match (<- get).space with
  | none => throw .missingSpace
  | some space =>
      let substitution <- resolve logic
      onBackend (Backend.addKernel space (Kernel.ofLogic logic substitution)
        scheduling.predicate scheduling.placement)

end Pass

end LoopNest
