import LoopNest.Proofs.Nest.Scopes

namespace LoopNest

/-!
# What goes through a pass

A body that finds a captured value as it was captured may look at it whenever
it is run.  A deferred integer would tell what is bound by then and a sequence
what its rule produces by then, so what the body sees would change with the
store.  But a pass replaces all of these, or it registers no kernel.  Only loop
indices, scalars and array arguments go through, and of these there is the same
to see whatever the store is.
-/

/-- The result or the failure of a step, without the state that it leaves. -/
def Outcome.answer {ε τ α : Type} : EStateM.Result ε τ α -> Except ε α
  | .ok value _ => .ok value
  | .error error _ => .error error

/-- What there is to see of a captured value: how it is shown, the number of a
deferred integer, and the elements of a sequence. -/
structure Look (σ : Type) where
  text : String
  number? : Option (Except DeferredError Int)
  elements? : Option (Except String (List (Capture σ)))

namespace Capture

variable {σ : Type}

/-- The value, if it is a deferred integer. -/
def deferred? : Capture σ -> Option (Deferred σ)
  | .deferred value => some value
  | .index _ => none
  | .array _ => none
  | .scalar _ => none
  | .sequence _ => none
  | .lazy _ => none

/-- What there is to see of the value in this store. -/
def look (store : Store σ) (capture : Capture σ) : Look σ where
  text := capture.describe store
  number? := capture.deferred?.map fun value => Outcome.answer (value.resolve store)
  elements? := capture.elements?.map fun produce => Outcome.answer (produce store)

/-- The value may go through a pass as it is. -/
inductive PassesThrough : Capture σ -> Prop
  | index (loop : LoopIndex) : PassesThrough (.index loop)
  | scalar (value : TaggedScalar) : PassesThrough (.scalar value)
  | argument {handle : ArrayHandle} (role : handle.role.isArgument = true) :
      PassesThrough (.array handle)

theorem PassesThrough.look_eq {capture : Capture σ} (through : capture.PassesThrough)
    (first second : Store σ) : capture.look first = capture.look second := by
  cases through <;> rfl

end Capture

/-- What there is to see of a captured value that was not replaced. -/
def Binding.look? {σ : Type} (store : Store σ) : Binding σ -> Option (Look σ)
  | .resolved _ => none
  | .captured capture => some (capture.look store)

/-- All that a body finds under one name, by each of its five look-ups and by
looking at what was not replaced. -/
structure Finding (σ : Type) where
  binding? : Option (Binding σ)
  look? : Option (Look σ)
  array? : Option NativeArray
  index? : Option NativeIndex
  int? : Option Int
  sequence? : Option (List NativeValue)

namespace Scope

variable {σ : Type}

/-- What the body finds under a name in this store. -/
def find (scope : Scope σ) (store : Store σ) (name : String) : Finding σ where
  binding? := scope.get? name
  look? := (scope.get? name).bind (Binding.look? store)
  array? := scope.array? name
  index? := scope.index? name
  int? := scope.int? name
  sequence? := scope.sequence? name

/-- Whatever is not replaced may go through a pass. -/
def PassesThrough (scope : Scope σ) : Prop :=
  forall (name : String) (capture : Capture σ),
    scope.get? name = some (.captured capture) -> capture.PassesThrough

/-- What the body finds does not depend on the store. -/
theorem PassesThrough.find_eq {scope : Scope σ} (through : scope.PassesThrough)
    (first second : Store σ) (name : String) : scope.find first name = scope.find second name := by
  have looks : (scope.get? name).bind (Binding.look? first) =
      (scope.get? name).bind (Binding.look? second) := by
    cases found : scope.get? name with
    | none => rfl
    | some binding =>
        cases binding with
        | resolved replacement => rfl
        | captured capture =>
            exact congrArg some ((through name capture found).look_eq first second)
  simp only [find, looks]

end Scope

namespace Pass

variable {β σ : Type} [Backend σ β]

/-- A captured value that is not replaced may go through. -/
theorem passesThrough_of_resolveCapture {failure : CaptureFault -> NestError}
    {capture : Capture σ} {pass after : Pass β σ}
    (done : resolveCapture failure capture pass = .ok none after) : capture.PassesThrough := by
  have started : (get : PassM β σ (Pass β σ)) pass = .ok pass pass := rfl
  unfold resolveCapture at done
  rw [Outcome.bind_of_ok started] at done
  cases entry : pass.lookup? capture with
  | some native =>
      rw [entry] at done
      cases done
  | none =>
      rw [entry] at done
      cases capture with
      | index loop => exact .index loop
      | scalar value => exact .scalar value
      | array handle =>
          rcases (Outcome.bind_eq_ok_iff _ _ _ _ _).mp done with ⟨value?, middle, made, last⟩
          cases value? with
          | some native => cases last
          | none =>
              refine .argument (handle.isArgument_iff.mpr ?_)
              rw [materialize_handle] at made
              cases source : handle.source with
              | temporary =>
                  rw [source] at made
                  simp only [Outcome.bind_eq_ok_iff] at made
                  rcases made with ⟨_, _, _, _, _, _, impossible⟩
                  cases impossible
              | constant data =>
                  rw [source] at made
                  simp only [Outcome.bind_eq_ok_iff] at made
                  rcases made with ⟨_, _, _, _, _, _, impossible⟩
                  cases impossible
              | input => rfl
              | inputOutput => rfl
      | deferred value =>
          rcases (Outcome.bind_eq_ok_iff _ _ _ _ _).mp done with ⟨_, _, _, impossible⟩
          cases impossible
      | sequence elements =>
          rcases (Outcome.bind_eq_ok_iff _ _ _ _ _).mp done with ⟨_, _, _, impossible⟩
          cases impossible
      | lazy produce =>
          rcases (Outcome.bind_eq_ok_iff _ _ _ _ _).mp done with ⟨_, _, _, rest⟩
          rcases (Outcome.bind_eq_ok_iff _ _ _ _ _).mp rest with ⟨_, _, _, impossible⟩
          cases impossible

theorem passesThrough_of_resolveAll {logic : String} {entries : List (String × Capture σ)}
    {pass after : Pass β σ}
    {replacements : List (String × Replacement)}
    (resolved : resolveAll logic entries pass = .ok replacements after)
    (distinct : (entries.map Prod.fst).Nodup) {name : String} {capture : Capture σ}
    (captured : (name, capture) ∈ entries) (unreplaced : replacements.lookup name = none) :
    capture.PassesThrough := by
  induction entries generalizing pass replacements with
  | nil => exact absurd captured List.not_mem_nil
  | cons entry rest inductionHypothesis =>
      rcases resolveAll_cons_eq_ok_iff.mp resolved with
        ⟨replacement?, middle, others, first, later, rfl⟩
      rw [List.map_cons, List.nodup_cons] at distinct
      rcases List.mem_cons.mp captured with same | member
      · cases same
        rw [List.lookup_append, lookup_of_notMem later distinct.1, Option.or_none] at unreplaced
        cases replacement? with
        | none => exact passesThrough_of_resolveCapture first
        | some replacement => simp at unreplaced
      · have listed : name ∈ rest.map Prod.fst := List.mem_map_of_mem member
        have different : name ≠ entry.1 := fun same => distinct.1 (same ▸ listed)
        rw [lookup_later different] at unreplaced
        exact inductionHypothesis later distinct.2 member unreplaced

/-- Of the captured values of a logic function that is resolved all that is not
replaced goes through. -/
theorem passesThrough_scope {logic : LogicFunction σ} {pass after : Pass β σ}
    {replacements : List (String × Replacement)}
    (resolved : resolveAll logic.name logic.captures pass = .ok replacements after) :
    (logic.scope ⟨replacements⟩).PassesThrough := by
  intro name capture found
  unfold Scope.get? at found
  cases unreplaced : (logic.scope ⟨replacements⟩).substitution.get? name with
  | some replacement =>
      rw [unreplaced] at found
      cases found
  | none =>
      rw [unreplaced] at found
      rcases Option.map_eq_some_iff.mp found with ⟨_, looked, same⟩
      cases same
      exact passesThrough_of_resolveAll resolved logic.names_distinct
        (logic.mem_of_capture? looked) unreplaced

end Pass

/-- The kernel that is registered for a command runs the body of its logic
function in a scope where all that is not replaced goes through. -/
theorem Nest.Adds.exists_scope {σ : Type} {pass after : Pass (Recorder σ) σ}
    {attachment : Attachment σ} {entry : RecordedKernel σ}
    (adds : Adds pass attachment entry after) :
    ∃ scope, entry.kernel.scope? = some scope ∧ scope.PassesThrough ∧
      forall store, entry.kernel.invoke store = attachment.logic.body scope store := by
  cases adds with
  | @intro space substitution middle entered resolvesAll accepted recorded =>
      have resolved := (Pass.resolveAll_eq_ok_iff attachment.logic.name _ _ _ _).mpr resolvesAll
      exact ⟨attachment.logic.scope substitution, rfl, Pass.passesThrough_scope resolved,
        fun _ => rfl⟩

end LoopNest
