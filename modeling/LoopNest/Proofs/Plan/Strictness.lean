import LoopNest.Proofs.Nest.Strictness
import LoopNest.Proofs.Plan.Opening

namespace LoopNest

/-!
# Strict plans

Whether the passes of a plan are strict makes no difference until commands are
replayed.  From there on a strict pass goes like one that is not strict, from the
same state of the plan, the backend and the store, until that one drops an
element of a sequence.  So a strict pass gives a result exactly when the other
gives this result and drops nothing.
-/

namespace Lowering

section Options

variable {β σ : Type}

/-- The same pass with other options. -/
def withOptions (lowering : Lowering β σ) (options : PassOptions) : Lowering β σ :=
  { lowering with plan := { lowering.plan with options } }

variable [Backend σ β] {arguments : Arguments σ} {bindings : Bindings σ} {lowering : Lowering β σ}
  {applied resolved : Store σ} {numbers : List Int} {pass : Pass β σ}

/-- The elements that a pass drops that is not strict, in the order of the
replay. -/
def dropped (arguments : Arguments σ) (bindings : Bindings σ) (lowering : Lowering β σ) :
    List Dropped :=
  match lowering.opened? arguments bindings with
  | none => []
  | some pass => Nest.droppedBy lowering.plan.nest.attachments pass

/-- A pass gets into its space whatever its options are. -/
theorem Opens.withOptions
    (opens : Opens arguments bindings lowering applied resolved numbers pass)
    (options : PassOptions) :
    Opens arguments bindings (lowering.withOptions options) applied resolved numbers
      (pass.withOptions options) where
  application := opens.application
  resolution := opens.resolution
  building := by
    let start := Pass.start lowering.backend resolved arguments lowering.plan.options
    let nest := lowering.plan.nest.withExtents numbers
    have agree := Nest.indifferent_buildSpace options nest start
    change nest.buildSpace (start.withOptions options) = _
    have built : nest.buildSpace start = .ok () pass := opens.building
    cases outcome : nest.buildSpace (start.withOptions options) with
    | ok done other =>
        rw [built, outcome] at agree
        cases agree with
        | ok same after => rw [after]
    | error error stopped =>
        rw [built, outcome] at agree
        cases agree

end Options

section Refines

variable {σ : Type} {arguments : Arguments σ} {bindings : Bindings σ}
  {lowering : Lowering (Recorder σ) σ} {applied resolved : Store σ} {numbers : List Int}
  {pass : Pass (Recorder σ) σ}

/-- How a pass that is not strict and drops these elements ends, and how a strict
one ends. -/
inductive Refines : EStateM.Result NestError (Lowering (Recorder σ) σ) LoweredNest ->
    EStateM.Result NestError (Lowering (Recorder σ) σ) LoweredNest -> List Dropped -> Prop
  | same {lowered : LoweredNest} {after other : Lowering (Recorder σ) σ}
      (backend : other.backend = after.backend) :
      Refines (.ok lowered after) (.ok lowered other) []
  | dropped {lowered : LoweredNest} {after stopped : Lowering (Recorder σ) σ} {first : Dropped}
      {rest : List Dropped} (grows : Recorder.Grows stopped.backend after.backend) :
      Refines (.ok lowered after) (.error first.error stopped) (first :: rest)
  | failed {error other : NestError} {after stopped : Lowering (Recorder σ) σ}
      {drops : List Dropped} : Refines (.error error after) (.error other stopped) drops

theorem Opens.options (opens : Opens arguments bindings lowering applied resolved numbers pass) :
    pass.options = lowering.plan.options := by
  rcases Nest.buildSpace_of_ok opens.building with ⟨seeded, extents, steps, _, rfl⟩
  exact (Pass.Steps.continues steps).options

/-- From its space on the outcomes compare as the replays do. -/
theorem Opens.refines (opens : Opens arguments bindings lowering applied resolved numbers pass)
    (lenient : lowering.plan.options.strictSequences = false) :
    Refines (lower arguments bindings lowering)
      (lower arguments bindings (lowering.withOptions .strict))
      (Nest.droppedBy lowering.plan.nest.attachments pass) := by
  have strictOpens := opens.withOptions .strict
  rcases opens.entered with ⟨space, entered⟩
  have strictEntered : (pass.withOptions .strict).space = some space := entered
  have commands : (lowering.withOptions .strict).plan.nest.attachments =
      lowering.plan.nest.attachments := rfl
  have tightens := Nest.tightens_addAttachments (opens.options ▸ lenient) entered
    lowering.plan.nest.attachments
  rw [opens.lower_eq entered, strictOpens.lower_eq strictEntered, commands]
  generalize Nest.addAttachments lowering.plan.nest.attachments pass = replay at tightens
  generalize Nest.addAttachments lowering.plan.nest.attachments (pass.withOptions .strict) =
    strictReplay at tightens
  generalize Nest.droppedBy lowering.plan.nest.attachments pass = drops at tightens
  cases tightens with
  | same agree =>
      cases agree with
      | ok _ after =>
          subst after
          exact .same rfl
      | error error after => exact .failed
  | dropped failed grows =>
      subst failed
      cases replay with
      | ok done final => exact .dropped grows
      | error error stopped => exact .failed

theorem refines_strict (arguments : Arguments σ) (bindings : Bindings σ)
    (lenient : lowering.plan.options.strictSequences = false) :
    Refines (lower arguments bindings lowering)
      (lower arguments bindings (lowering.withOptions .strict))
      (lowering.dropped arguments bindings) := by
  unfold dropped
  cases opening : lowering.opened? arguments bindings with
  | some pass =>
      rcases (opened?_eq_some_iff pass).mp opening with ⟨applied, resolved, numbers, opens⟩
      exact opens.refines lenient
  | none =>
      have strictOpening : (lowering.withOptions .strict).opened? arguments bindings = none := by
        apply Option.eq_none_iff_forall_ne_some.mpr
        intro pass opened
        rcases (opened?_eq_some_iff pass).mp opened with ⟨_, _, _, opens⟩
        have back := (opens.withOptions lowering.plan.options).opened?_eq
        have same : (lowering.withOptions .strict).withOptions lowering.plan.options = lowering :=
          rfl
        rw [same, opening] at back
        cases back
      rcases lower_of_unopened opening with ⟨_, _, failed, _⟩
      rcases lower_of_unopened strictOpening with ⟨_, _, strictFailed, _⟩
      rw [failed, strictFailed]
      exact .failed

end Refines

/-- A strict pass gives a result exactly when a pass that is not strict gives it
and drops nothing.  If that one succeeds and drops elements, the strict pass
fails at the first of them, and what it logged is where the other logs begin.
If that one fails, so does the strict pass. -/
theorem strict_refines_lenient {σ : Type} (arguments : Arguments σ) (bindings : Bindings σ)
    (lowering : Lowering (Recorder σ) σ) :
    (forall lowered backend,
      (∃ after, lower arguments bindings (lowering.withOptions .strict) = .ok lowered after ∧
          after.backend = backend) <->
        (∃ after, lower arguments bindings (lowering.withOptions .lenient) = .ok lowered after ∧
          after.backend = backend) ∧
        (lowering.withOptions .lenient).dropped arguments bindings = []) ∧
    (forall lowered after first rest,
      lower arguments bindings (lowering.withOptions .lenient) = .ok lowered after ->
      (lowering.withOptions .lenient).dropped arguments bindings = first :: rest ->
        ∃ stopped,
          lower arguments bindings (lowering.withOptions .strict) = .error first.error stopped ∧
            stopped.backend.kernels <+: after.backend.kernels ∧
            stopped.backend.arrays <+: after.backend.arrays) ∧
    forall error after,
      lower arguments bindings (lowering.withOptions .lenient) = .error error after ->
        ∃ other stopped,
          lower arguments bindings (lowering.withOptions .strict) = .error other stopped := by
  have lenient : (lowering.withOptions .lenient).plan.options.strictSequences = false := rfl
  have strict : (lowering.withOptions .lenient).withOptions .strict =
    lowering.withOptions .strict := rfl
  have refines := refines_strict arguments bindings lenient
  rw [strict] at refines
  generalize lower arguments bindings (lowering.withOptions .lenient) = outcome at refines
  generalize lower arguments bindings (lowering.withOptions .strict) = strictOutcome at refines
  generalize (lowering.withOptions .lenient).dropped arguments bindings = drops at refines
  cases refines with
  | @same result after other backend =>
      refine ⟨?_, ?_, ?_⟩
      · intro lowered wanted
        constructor
        · rintro ⟨_, done, rfl⟩
          cases done
          exact ⟨⟨after, rfl, backend.symm⟩, rfl⟩
        · rintro ⟨⟨_, done, rfl⟩, _⟩
          cases done
          exact ⟨other, rfl, backend⟩
      · intro lowered final first rest _ impossible
        cases impossible
      · intro error final impossible
        cases impossible
  | @dropped result after stopped first rest grows =>
      refine ⟨?_, ?_, ?_⟩
      · intro lowered wanted
        constructor
        · rintro ⟨_, impossible, _⟩
          cases impossible
        · rintro ⟨_, impossible⟩
          cases impossible
      · intro lowered final head others done list
        cases done
        cases list
        exact ⟨stopped, rfl, grows.kernels, grows.arrays⟩
      · intro error final impossible
        cases impossible
  | failed =>
      refine ⟨?_, ?_, ?_⟩
      · intro lowered wanted
        constructor
        · rintro ⟨_, impossible, _⟩
          cases impossible
        · rintro ⟨⟨_, impossible, _⟩, _⟩
          cases impossible
      · intro lowered final first rest impossible
        cases impossible
      · intro error final _
        exact ⟨_, _, rfl⟩

/-- In the small plan nothing is dropped when the input is an argument, so a
strict pass gives the same result.  Without arguments the input is dropped from
the sequence of the first command, and a strict pass fails there.  Without a
number of rows both fail. -/
theorem strict_without_input :
    let plan := Sample.lowering Sample.busyNest
    (∃ lowered after strictAfter,
      lower Sample.arguments Sample.bindings plan = .ok lowered after ∧
        lower Sample.arguments Sample.bindings (plan.withOptions .strict) =
          .ok lowered strictAfter ∧ strictAfter.backend = after.backend) ∧
      (∃ stopped, lower .empty Sample.bindings (plan.withOptions .strict) =
        .error (.captureResolution "kernel" "all" (.unmapped 0 "array")) stopped) ∧
      ∃ error stopped, lower .empty .empty (plan.withOptions .strict) = .error error stopped := by
  intro plan
  refine ⟨?_, ?_, ?_⟩
  · rcases Sample.succeeds with ⟨lowered, after, done⟩
    have nothing : plan.dropped Sample.arguments Sample.bindings = [] := by decide +kernel
    rcases ((strict_refines_lenient _ _ plan).1 lowered after.backend).mpr
      ⟨⟨after, done, rfl⟩, nothing⟩ with ⟨strictAfter, strictDone, backend⟩
    exact ⟨lowered, after, strictAfter, done, strictDone, backend⟩
  · have succeeds : Outcome.Succeeds (lower .empty Sample.bindings) plan := by decide +kernel
    have drops : plan.dropped .empty Sample.bindings =
        [⟨"kernel", "all", 0, "array"⟩, ⟨"kernel", "all", 0, "array"⟩] := by decide +kernel
    rcases succeeds with ⟨lowered, after, done⟩
    rcases (strict_refines_lenient _ _ plan).2.1 lowered after _ _ done drops with
      ⟨stopped, failed, _⟩
    exact ⟨stopped, failed⟩
  · have unbound : lower .empty .empty plan = .error _ _ := rfl
    exact (strict_refines_lenient _ _ plan).2.2 _ _ unbound

end Lowering

end LoopNest
