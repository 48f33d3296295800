import LoopNest.Proofs.Native.Calls
import LoopNest.Proofs.Pass.Composition
import LoopNest.Proofs.Pass.Failure
import LoopNest.Proofs.Pass.Indifference

namespace LoopNest

/-!
# Elements that are dropped

A pass that is not strict drops the elements of a sequence that have no entry.
What it drops is listed here along its run, in the order of the replay: for each
captured sequence, in the state in which it is resolved, the elements without an
entry.

A strict pass from the same state goes the same way until an element is dropped
for the first time.  There it fails, with an error that names this element, and
all that it logged until then is logged by the other pass too.
-/

/-- An element without a backend value makes the pass fail. -/
def PassOptions.strict : PassOptions :=
  ⟨true⟩

/-- An element that is dropped from a sequence: for which logic function and
under which name the sequence is captured, and the place and kind of the
element. -/
structure Dropped where
  logic : String
  capture : String
  position : Nat
  kind : String
deriving DecidableEq

/-- The error of a strict pass at this element. -/
def Dropped.error (dropped : Dropped) : NestError :=
  .captureResolution dropped.logic dropped.capture (.unmapped dropped.position dropped.kind)

namespace Pass

section Lists

variable {β σ : Type}

/-- The elements without an entry, with their positions; `position` is that of
the first element. -/
def unmapped (pass : Pass β σ) (position : Nat) (elements : List (Capture σ)) :
    List (Capture σ × Nat) :=
  (elements.zipIdx position).filter fun element => (pass.lookup? element.1).isNone

/-- What a pass that is not strict drops of the elements of a sequence. -/
def droppedOf (logic name : String) (elements : List (Capture σ)) (pass : Pass β σ) :
    List Dropped :=
  (pass.unmapped 0 elements).map fun element => ⟨logic, name, element.2, element.1.kindName⟩

/-- What it drops when it resolves a captured value. -/
def droppedAt (logic name : String) (capture : Capture σ) (pass : Pass β σ) : List Dropped :=
  match capture.elements? with
  | none => []
  | some produce =>
      Outcome.afterwards (fun elements _ => pass.droppedOf logic name elements)
        (produce pass.store)

/-- What it drops when it resolves captured values in order. -/
def droppedIn [Backend σ β] (logic : String) : List (String × Capture σ) -> Pass β σ -> List Dropped
  | [], _ => []
  | (name, capture) :: rest, pass =>
      pass.droppedAt logic name capture ++
        Outcome.afterwards (fun _ => droppedIn logic rest)
          (resolveCapture (.captureResolution logic name) capture pass)

variable {pass : Pass β σ}

theorem unmapped_cons_of_mapped {element : Capture σ} {value : NativeValue}
    (found : pass.lookup? element = some value) (position : Nat) (rest : List (Capture σ)) :
    pass.unmapped position (element :: rest) = pass.unmapped (position + 1) rest := by
  simp [unmapped, List.zipIdx_cons, found]

theorem unmapped_cons_of_missing {element : Capture σ} (missing : pass.lookup? element = none)
    (position : Nat) (rest : List (Capture σ)) :
    pass.unmapped position (element :: rest) =
      (element, position) :: pass.unmapped (position + 1) rest := by
  simp [unmapped, List.zipIdx_cons, missing]

/-- A strict pass finds all entries, or fails at the first element without one. -/
theorem mappedFrom_of_strict (strict : pass.options.strictSequences = true) (position : Nat)
    (elements : List (Capture σ)) :
    pass.mappedFrom position elements =
      match pass.unmapped position elements with
      | [] => .ok (elements.filterMap pass.lookup?)
      | (element, place) :: _ => .error (.unmapped place element.kindName) := by
  induction elements generalizing position with
  | nil => rfl
  | cons element rest inductionHypothesis =>
      rw [mappedFrom]
      cases entry : pass.lookup? element with
      | some value =>
          rw [unmapped_cons_of_mapped entry, List.filterMap_cons_some entry, inductionHypothesis]
          cases pass.unmapped (position + 1) rest with
          | nil => rfl
          | cons first others => rfl
      | none =>
          rw [unmapped_cons_of_missing entry]
          simp only [strict, if_true]

end Lists

/-! ## Two passes until the first difference -/

section Tightens

variable {σ α γ : Type} {pass : Pass (Recorder σ) σ}

/-- From this state the program only adds to the logs, whatever its outcome is. -/
def Logs (program : PassM (Recorder σ) σ α) (pass : Pass (Recorder σ) σ) : Prop :=
  Recorder.Grows pass.backend (Outcome.state (program pass)).backend

theorem Runs.logs {program : PassM (Recorder σ) σ α} (runs : Runs program pass) :
    Logs program pass :=
  runs.steps.changes.grows

/-- How a program goes in a strict pass and in one that is not strict, which
drops these elements.  If it drops none, the two go the same way.  Otherwise the
strict one fails at the first of them, and has logged no more than the other. -/
inductive Tightens (lenient strict : EStateM.Result NestError (Pass (Recorder σ) σ) α) :
    List Dropped -> Prop
  | same (agree : Outcome.Agree Eq (fun after other => other = after.withOptions .strict)
      lenient strict) : Tightens lenient strict []
  | dropped {first : Dropped} {rest : List Dropped} {stopped : Pass (Recorder σ) σ}
      (failed : strict = .error first.error stopped)
      (grows : Recorder.Grows stopped.backend (Outcome.state lenient).backend) :
      Tightens lenient strict (first :: rest)

/-- What follows a program adds what it drops itself. -/
theorem Tightens.bind {first : PassM (Recorder σ) σ α} {next : α -> PassM (Recorder σ) σ γ}
    {drops : List Dropped} {later : α -> Pass (Recorder σ) σ -> List Dropped}
    (begun : Tightens (first pass) (first (pass.withOptions .strict)) drops)
    (logs : forall value middle, first pass = .ok value middle -> Logs (next value) middle)
    (continued : forall value middle, first pass = .ok value middle ->
      Tightens (next value middle) (next value (middle.withOptions .strict)) (later value middle)) :
    Tightens ((first >>= next) pass) ((first >>= next) (pass.withOptions .strict))
      (drops ++ Outcome.afterwards later (first pass)) := by
  cases begun with
  | same agree =>
      cases outcome : first pass with
      | ok value middle =>
          cases strictOutcome : first (pass.withOptions .strict) with
          | ok other strictMiddle =>
              rw [outcome, strictOutcome] at agree
              cases agree with
              | ok same after =>
                  subst same after
                  rw [Outcome.bind_of_ok outcome, Outcome.bind_of_ok strictOutcome]
                  exact continued value middle outcome
          | error error strictMiddle =>
              rw [outcome, strictOutcome] at agree
              cases agree
      | error error middle =>
          refine .same ?_
          exact agree.bind fun _ _ _ _ impossible => by
            rw [outcome] at impossible
            cases impossible
  | @dropped head rest stopped failed grows =>
      refine .dropped (Outcome.bind_of_error failed next) (grows.trans ?_)
      cases outcome : first pass with
      | ok value middle =>
          rw [Outcome.bind_of_ok outcome]
          exact logs value middle outcome
      | error error middle =>
          rw [Outcome.bind_of_error outcome]
          exact .refl _

/-- What follows drops nothing if it does not look at the options. -/
theorem Tightens.follow {first : PassM (Recorder σ) σ α} {next : α -> PassM (Recorder σ) σ γ}
    {drops : List Dropped}
    (begun : Tightens (first pass) (first (pass.withOptions .strict)) drops)
    (logs : forall value middle, first pass = .ok value middle -> Logs (next value) middle)
    (indifferent : forall value, Indifferent .strict (next value)) :
    Tightens ((first >>= next) pass) ((first >>= next) (pass.withOptions .strict)) drops := by
  have both := begun.bind logs fun value middle _ => .same (indifferent value middle)
  have nothing : Outcome.afterwards (fun _ _ => []) (first pass) = ([] : List Dropped) := by
    cases first pass <;> rfl
  rwa [nothing, List.append_nil] at both

end Tightens

/-! ## Captured values -/

section Captures

variable {σ : Type} {pass : Pass (Recorder σ) σ}

theorem tightens_resolveElements (lenient : pass.options.strictSequences = false)
    (logic name : String) (elements : List (Capture σ)) :
    Tightens (resolveElements (.captureResolution logic name) elements pass)
      (resolveElements (.captureResolution logic name) elements (pass.withOptions .strict))
      (pass.droppedOf logic name elements) := by
  have kept := mappedFrom_of_lenient lenient 0 elements
  have strict : (pass.withOptions .strict).options.strictSequences = true := rfl
  have wanted := mappedFrom_of_strict strict 0 elements
  unfold droppedOf
  rw [resolveElements_apply, resolveElements_apply, kept, wanted]
  have entries : (pass.withOptions .strict).unmapped 0 elements = pass.unmapped 0 elements := rfl
  rw [entries]
  cases pass.unmapped 0 elements with
  | nil => exact .same (.ok rfl rfl)
  | cons first others => exact .dropped rfl (.refl _)

/-- A sequence that is produced first. -/
private theorem tightens_produced (lenient : pass.options.strictSequences = false)
    (logic name : String) (produce : EStateM String (Store σ) (List (Capture σ))) :
    Tightens
      (resolveUnmapped (.captureResolution logic name) (.lazy produce) pass)
      (resolveUnmapped (.captureResolution logic name) (.lazy produce) (pass.withOptions .strict))
      (pass.droppedAt logic name (.lazy produce)) := by
  let failure := NestError.captureResolution logic name
  let listing := onStore (β := Recorder σ) (fun reason => failure (.production reason)) produce
  have drops : pass.droppedAt logic name (.lazy produce) =
      Outcome.afterwards (fun elements middle => middle.droppedOf logic name elements)
        (listing pass) := by
    change Outcome.afterwards _ (produce pass.store) = Outcome.afterwards _ (onStore _ _ _)
    unfold onStore
    cases produce pass.store <;> rfl
  have unresolved (fault : CaptureFault) : (failure fault).SpaceKnown := nofun
  rw [drops]
  refine Tightens.bind (.same (Indifferent.onStore _ produce pass)) ?_ ?_
  · intro elements middle _
    have runs := runs_resolveElements unresolved elements middle
    exact (runs.bind fun _ after _ => .pure _ after).logs
  · intro elements middle listed
    rcases (onStore_eq_ok_iff _ _ _ _ _).mp listed with ⟨store, _, rfl⟩
    have still : ({ pass with store } : Pass (Recorder σ) σ).options.strictSequences = false :=
      lenient
    exact (tightens_resolveElements still logic name elements).follow
      (fun _ after _ => (Runs.pure _ after).logs) fun _ => .pure _

theorem tightens_resolveCapture (lenient : pass.options.strictSequences = false)
    (logic name : String) (capture : Capture σ) :
    Tightens (resolveCapture (.captureResolution logic name) capture pass)
      (resolveCapture (.captureResolution logic name) capture (pass.withOptions .strict))
      (pass.droppedAt logic name capture) := by
  cases capture with
  | array handle => exact .same (indifferent_resolveCapture .strict _ rfl pass)
  | index loop => exact .same (indifferent_resolveCapture .strict _ rfl pass)
  | scalar value => exact .same (indifferent_resolveCapture .strict _ rfl pass)
  | deferred value => exact .same (indifferent_resolveCapture .strict _ rfl pass)
  | sequence elements =>
      rw [resolveCapture_of_unmapped _ rfl, resolveCapture_of_unmapped _ rfl]
      exact (tightens_resolveElements lenient logic name elements).follow
        (fun _ middle _ => (Runs.pure _ middle).logs) fun _ => .pure _
  | lazy produce =>
      rw [resolveCapture_of_unmapped _ rfl, resolveCapture_of_unmapped _ rfl]
      exact tightens_produced lenient logic name produce

theorem tightens_resolveAll (lenient : pass.options.strictSequences = false) (logic : String)
    (entries : List (String × Capture σ)) :
    Tightens (resolveAll logic entries pass) (resolveAll logic entries (pass.withOptions .strict))
      (droppedIn logic entries pass) := by
  induction entries generalizing pass with
  | nil => exact .same (.ok rfl rfl)
  | cons entry rest inductionHypothesis =>
      rcases entry with ⟨name, capture⟩
      rw [resolveAll_cons]
      apply (tightens_resolveCapture lenient logic name capture).bind
      · intro replacement? middle resolved
        exact ((runs_resolveAll logic rest middle).bind fun _ after _ => .pure _ after).logs
      · intro replacement? middle resolved
        have continues := ((resolveCapture_eq_ok_iff _ _ _ _ _).mp resolved).continues
        have still : middle.options.strictSequences = false := by
          rw [continues.options, lenient]
        exact (inductionHypothesis still).follow (fun _ after _ => (Runs.pure _ after).logs)
          fun _ => .pure _

/-! ## Kernels -/

theorem backend_onBackend {α : Type} (operation : EStateM BackendError (Recorder σ) α)
    (pass : Pass (Recorder σ) σ) :
    (Outcome.state (onBackend operation pass)).backend =
      Outcome.state (operation pass.backend) := by
  unfold onBackend
  cases operation pass.backend <;> rfl

/-- Registering a kernel drops nothing. -/
theorem tightens_addLogic (lenient : pass.options.strictSequences = false)
    {space : NativeSpace} (entered : pass.space = some space) (logic : LogicFunction σ)
    (scheduling : Scheduling) :
    Tightens (addLogic logic scheduling pass) (addLogic logic scheduling (pass.withOptions .strict))
      (droppedIn logic.name logic.captures pass) := by
  have strictEntered : (pass.withOptions .strict).space = some space := entered
  rw [addLogic_of_entered entered, addLogic_of_entered strictEntered]
  refine (tightens_resolveAll lenient logic.name logic.captures).follow ?_ fun _ => .onBackend _
  intro entries middle resolved
  have call := Recorder.changes_afterCall middle.backend
    (.addKernel space (Kernel.ofLogic logic ⟨entries⟩) scheduling.predicate scheduling.placement)
  unfold Logs
  rw [backend_onBackend]
  exact call.grows

end Captures

end Pass

end LoopNest
