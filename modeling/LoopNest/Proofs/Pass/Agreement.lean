import LoopNest.Proofs.Declaration.Answers
import LoopNest.Proofs.Native.Agreement
import LoopNest.Proofs.Pass.Steps

namespace LoopNest

/-!
# Two passes that do the same

Two passes over two recorders stay alike when they take the same steps: the
same parameters are bound, the entries of the identity maps correspond under
the shift between the recorders, and so does what is logged.  Neither pass sees
the difference, because a number is never looked at, only handed on.  So each
part of a pass gives results that correspond, or fails with the same error.

The state of the client may differ.  What it has to do with a pass is told by
rules, and these must only read the slots.
-/

namespace Pass

variable {σ : Type}

/-- Two passes that took the same steps since their backends were the bases. -/
structure Alike (leftBase rightBase : Recorder σ) (left right : Pass (Recorder σ) σ) : Prop where
  backend : Recorder.Alike leftBase rightBase left.backend right.backend
  bound : left.store.bound = right.store.bound
  identities : right.identities = (Shift.between leftBase rightBase).identities left.identities
  space : right.space = left.space.map (Shift.between leftBase rightBase).space
  arguments : right.arguments = left.arguments
  options : right.options = left.options

/-- From passes that are alike the two programs go alike. -/
def Agrees {α : Type} (leftBase rightBase : Recorder σ) (results : α -> α -> Prop)
    (program following : PassM (Recorder σ) σ α) : Prop :=
  forall left right, Alike leftBase rightBase left right ->
    Outcome.Agree results (Alike leftBase rightBase) (program left) (following right)

section Agrees

variable {α β : Type} {leftBase rightBase : Recorder σ}

theorem Agrees.bind {results : α -> α -> Prop} {others : β -> β -> Prop}
    {first second : PassM (Recorder σ) σ α} {next following : α -> PassM (Recorder σ) σ β}
    (begun : Agrees leftBase rightBase results first second)
    (continued : forall left right, results left right ->
      Agrees leftBase rightBase others (next left) (following right)) :
    Agrees leftBase rightBase others (first >>= next) (second >>= following) := by
  intro left right alike
  refine (begun left right alike).bind fun leftValue rightValue leftMiddle rightMiddle _ _ => ?_
  intro result middle
  exact continued leftValue rightValue result leftMiddle rightMiddle middle

theorem Agrees.pure {results : α -> α -> Prop} {left right : α} (result : results left right) :
    Agrees leftBase rightBase results (Pure.pure left) (Pure.pure right) :=
  fun _ _ alike => .ok result alike

theorem Agrees.throw {results : α -> α -> Prop} (error : NestError) :
    Agrees leftBase rightBase results (throw error) (throw error) :=
  fun _ _ alike => .error error alike

theorem Agrees.get :
    Agrees leftBase rightBase (Alike leftBase rightBase) MonadState.get MonadState.get :=
  fun _ _ alike => .ok alike alike

theorem Alike.onBackend {left right : Pass (Recorder σ) σ} {results : α -> α -> Prop}
    {operation following : EStateM BackendError (Recorder σ) α}
    (alike : Alike leftBase rightBase left right)
    (agree : Outcome.Agree results (Recorder.Alike leftBase rightBase) (operation left.backend)
      (following right.backend)) :
    Outcome.Agree results (Alike leftBase rightBase) (Pass.onBackend operation left)
      (Pass.onBackend following right) := by
  unfold Pass.onBackend
  generalize operation left.backend = leftOutcome at agree
  generalize following right.backend = rightOutcome at agree
  cases agree with
  | ok result after => exact .ok result { alike with backend := after }
  | error error after => exact .error _ { alike with backend := after }

/-- Operations that go alike on recorders go alike in passes. -/
theorem Agrees.onBackend {results : α -> α -> Prop}
    {operation following : EStateM BackendError (Recorder σ) α}
    (agree : forall left right, Recorder.Alike leftBase rightBase left right ->
      Outcome.Agree results (Recorder.Alike leftBase rightBase) (operation left)
        (following right)) :
    Agrees leftBase rightBase results (Pass.onBackend operation) (Pass.onBackend following) :=
  fun _ _ alike => alike.onBackend (agree _ _ alike.backend)

theorem Agrees.onStore {ε : Type} {failure : ε -> NestError} {rule : EStateM ε (Store σ) α}
    (reads : Store.ReadOnly rule) :
    Agrees leftBase rightBase Eq (Pass.onStore failure rule) (Pass.onStore failure rule) := by
  intro left right alike
  have outcomes := reads.agree alike.bound
  unfold Pass.onStore
  generalize rule left.store = leftOutcome at outcomes
  generalize rule right.store = rightOutcome at outcomes
  cases outcomes with
  | ok result after => exact .ok result { alike with bound := after }
  | error error after => exact .error _ { alike with bound := after }

theorem Agrees.record (token : Token) (native : NativeValue) :
    Agrees leftBase rightBase (fun _ _ => True) (Pass.record token native)
      (Pass.record token ((Shift.between leftBase rightBase).value native)) := by
  intro left right alike
  refine .ok trivial { alike with identities := ?_ }
  rw [Shift.identities_insert, alike.identities]

end Agrees

/-! ## Captured values -/

section Captures

variable {leftBase rightBase : Recorder σ} {left right : Pass (Recorder σ) σ}

theorem Alike.lookup? (alike : Alike leftBase rightBase left right) (capture : Capture σ) :
    right.lookup? capture =
      (left.lookup? capture).map (Shift.between leftBase rightBase).value := by
  unfold Pass.lookup?
  rw [alike.identities]
  cases capture.identity? with
  | none => rfl
  | some token => exact Shift.getElem?_identities _ _ _

theorem Alike.mappedFrom (alike : Alike leftBase rightBase left right) (position : Nat)
    (elements : List (Capture σ)) :
    right.mappedFrom position elements =
      (left.mappedFrom position elements).map
        (List.map (Shift.between leftBase rightBase).value) := by
  induction elements generalizing position with
  | nil => rfl
  | cons element rest inductionHypothesis =>
      rw [Pass.mappedFrom, Pass.mappedFrom, alike.lookup?, alike.options, inductionHypothesis]
      cases left.lookup? element with
      | some native => cases left.mappedFrom (position + 1) rest <;> rfl
      | none =>
          dsimp only [Option.map_none]
          split
          · rfl
          · rfl

theorem agrees_resolveElements (failure : CaptureFault -> NestError)
    (elements : List (Capture σ)) :
    Agrees leftBase rightBase
      (fun first second => second = (Shift.between leftBase rightBase).replacement first)
      (resolveElements failure elements) (resolveElements failure elements) := by
  refine Agrees.get.bind fun left right alike => ?_
  rw [alike.mappedFrom]
  cases left.mappedFrom 0 elements with
  | ok values => exact .pure rfl
  | error fault => exact .throw _

/-- Arrays that correspond are recorded under one token. -/
private theorem agrees_makeArray
    {operation following : EStateM BackendError (Recorder σ) NativeArray} (token : Token)
    (agree : forall left right, Recorder.Alike leftBase rightBase left right ->
      Outcome.Agree (Recorder.SameArray leftBase rightBase)
        (Recorder.Alike leftBase rightBase) (operation left) (following right)) :
    Agrees leftBase rightBase
      (fun first second => second = first.map (Shift.between leftBase rightBase).value)
      (do
        let array <- onBackend operation
        record token (.array array)
        pure (some (.array array)))
      (do
        let array <- onBackend following
        record token (.array array)
        pure (some (.array array))) := by
  refine (Agrees.onBackend agree).bind fun array image same => ?_
  subst same
  exact (Agrees.record token (.array array)).bind fun _ _ _ => .pure rfl

theorem agrees_materialize (failure : CaptureFault -> NestError) (handle : ArrayHandle) :
    Agrees leftBase rightBase
      (fun first second => second = first.map (Shift.between leftBase rightBase).value)
      (materialize failure handle.record) (materialize failure handle.record) := by
  rw [materialize_handle]
  cases handle.source with
  | temporary =>
      exact agrees_makeArray handle.id fun _ _ alike =>
        alike.allocate handle.elementType handle.layout
  | constant data =>
      exact agrees_makeArray handle.id fun _ _ alike =>
        alike.resolveConstant handle.elementType handle.layout data
  | input => exact .pure rfl
  | inputOutput => exact .pure rfl

theorem agrees_resolveCapture (failure : CaptureFault -> NestError) {capture : Capture σ}
    (reads : capture.ReadOnly) :
    Agrees leftBase rightBase
      (fun first second => second = first.map (Shift.between leftBase rightBase).replacement)
      (resolveCapture failure capture) (resolveCapture failure capture) := by
  refine Agrees.get.bind fun left right alike => ?_
  rw [alike.lookup?]
  cases left.lookup? capture with
  | some native => exact .pure rfl
  | none =>
      cases capture with
      | array handle =>
          refine (agrees_materialize failure handle).bind fun value? image? same => ?_
          subst same
          cases value? with
          | none => exact .pure rfl
          | some native => exact .pure rfl
      | index loop => exact .pure rfl
      | scalar value => exact .pure rfl
      | deferred value =>
          refine (Agrees.onStore reads.resolve).bind fun number other same => ?_
          subst same
          exact .pure rfl
      | sequence elements =>
          refine (agrees_resolveElements failure elements).bind fun replacement image same => ?_
          subst same
          exact .pure rfl
      | lazy produce =>
          refine (Agrees.onStore reads).bind fun elements others same => ?_
          subst same
          refine (agrees_resolveElements failure elements).bind fun replacement image same => ?_
          subst same
          exact .pure rfl

theorem agrees_resolveAll (logic : String) {entries : List (String × Capture σ)}
    (reads : forall entry, entry ∈ entries -> entry.2.ReadOnly) :
    Agrees leftBase rightBase
      (fun first second => second = first.map (Shift.between leftBase rightBase).replaced)
      (resolveAll logic entries) (resolveAll logic entries) := by
  induction entries with
  | nil => exact .pure rfl
  | cons entry rest inductionHypothesis =>
      have others := inductionHypothesis fun other member =>
        reads other (List.mem_cons_of_mem entry member)
      refine (agrees_resolveCapture _ (reads entry List.mem_cons_self)).bind
        fun replacement? image? same => ?_
      subst same
      refine others.bind fun replacements images same => ?_
      subst same
      cases replacement? with
      | none => exact .pure rfl
      | some replacement => exact .pure rfl

theorem agrees_resolve {logic : LogicFunction σ}
    (reads : forall entry, entry ∈ logic.captures -> entry.2.ReadOnly) :
    Agrees leftBase rightBase
      (fun first second => second = (Shift.between leftBase rightBase).substitution first)
      (resolve logic) (resolve logic) := by
  refine (agrees_resolveAll logic.name reads).bind fun replacements images same => ?_
  subst same
  exact .pure rfl

end Captures

/-! ## Kernels -/

/-- A logic function is resolved and registered alike, in spaces that the
backends recorded. -/
theorem Alike.addLogic {leftBase rightBase : Recorder σ} {left right : Pass (Recorder σ) σ}
    (alike : Alike leftBase rightBase left right) (leftRecorded : left.SpaceRecorded)
    (rightRecorded : right.SpaceRecorded) {logic : LogicFunction σ}
    (reads : forall entry, entry ∈ logic.captures -> entry.2.ReadOnly)
    (scheduling : Scheduling) :
    Outcome.Agree (fun _ _ => True) (Alike leftBase rightBase) (addLogic logic scheduling left)
      (addLogic logic scheduling right) := by
  unfold Pass.addLogic
  rw [Outcome.bind_of_ok (get_apply left), Outcome.bind_of_ok (get_apply right), alike.space]
  cases entered : left.space with
  | none => exact .error _ alike
  | some space =>
      refine (agrees_resolve reads left right alike).bind
        fun substitution image leftMiddle rightMiddle leftResolved rightResolved same middle => ?_
      subst same
      have leftContinues := ((resolve_eq_ok_iff _ _ _ _).mp leftResolved).continues
      have rightContinues := ((resolve_eq_ok_iff _ _ _ _).mp rightResolved).continues
      have leftEntered := leftContinues.space.trans entered
      have rightEntered : rightMiddle.space =
          some ((Shift.between leftBase rightBase).space space) := by
        rw [middle.space, leftEntered]
        rfl
      have leftKnown := leftContinues.spaceRecorded leftRecorded space leftEntered
      have rightKnown := rightContinues.spaceRecorded rightRecorded _ rightEntered
      rw [← Shift.kernel_ofLogic]
      exact middle.onBackend (middle.backend.addKernel _ _ leftKnown rightKnown)

/-! ## Arguments -/

section Arguments

variable {leftBase rightBase : Recorder σ}

theorem agrees_argumentValue (position : Nat) (capture : Capture σ) (runtime : RuntimeArgument) :
    Agrees leftBase rightBase
      (fun first second => second = (Shift.between leftBase rightBase).value first)
      (argumentValue position capture runtime) (argumentValue position capture runtime) := by
  cases capture with
  | array handle =>
      cases runtime with
      | buffer slot =>
          refine Agrees.bind (Agrees.onBackend fun _ _ alike =>
            alike.wrapArgument handle.elementType handle.layout slot) fun array image same => ?_
          subst same
          exact .pure rfl
      | scalar value => exact .throw _
  | deferred value =>
      cases runtime with
      | buffer slot => exact .throw _
      | scalar number => exact .pure rfl
  | index loop =>
      cases runtime with
      | buffer slot => exact .throw _
      | scalar number => exact .pure rfl
  | scalar value =>
      cases runtime with
      | buffer slot => exact .throw _
      | scalar number => exact .pure rfl
  | sequence elements => exact .throw _
  | lazy produce => exact .throw _

theorem agrees_seedArgument (position : Nat) (capture : Capture σ) (runtime : RuntimeArgument) :
    Agrees leftBase rightBase (fun _ _ => True) (seedArgument position capture runtime)
      (seedArgument position capture runtime) := by
  refine (agrees_argumentValue position capture runtime).bind fun native image same => ?_
  subst same
  cases capture.identity? with
  | some token => exact .record token native
  | none => exact .pure trivial

theorem agrees_seedFrom (position : Nat) (pairs : List (Capture σ × RuntimeArgument)) :
    Agrees leftBase rightBase (fun _ _ => True) (seedFrom position pairs)
      (seedFrom position pairs) := by
  induction pairs generalizing position with
  | nil => exact .pure trivial
  | cons pair rest inductionHypothesis =>
      exact (agrees_seedArgument position pair.1 pair.2).bind fun _ _ _ =>
        inductionHypothesis (position + 1)

theorem agrees_seedArguments :
    Agrees leftBase rightBase (fun _ _ => True) (seedArguments (σ := σ)) seedArguments := by
  refine Agrees.get.bind fun left right alike => ?_
  rw [alike.arguments]
  dsimp only
  split
  · exact agrees_seedFrom 0 _
  · exact .throw _

end Arguments

end Pass

end LoopNest
