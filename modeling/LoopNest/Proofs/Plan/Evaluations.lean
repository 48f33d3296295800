import LoopNest.Proofs.Declaration.Parameters
import LoopNest.Proofs.Nest.Evaluations
import LoopNest.Proofs.Plan.Opening

namespace LoopNest

/-!
# What a lowering pass evaluates

A pass resolves the deferred extents first, dimension by dimension.  When all of
them are resolved it writes the extents, records the arguments and enters its
space, which evaluates nothing.  After that it evaluates what the commands
capture.  It stops where it fails for the first time, whatever the reason is, and
it remembers nothing: a value is resolved as often as it is come to.

All of this holds on any backend and for rules that change the store and fail as
they like.
-/

/-! ## The state of the client -/

/-- Steps that leave the state of the client alone leave it alone together. -/
theorem Store.client_foldl {σ α : Type} {step : Store σ -> α -> Store σ}
    (keeps : forall store value, (step store value).client = store.client) (values : List α)
    (store : Store σ) : (values.foldl step store).client = store.client := by
  induction values generalizing store with
  | nil => rfl
  | cons value rest inductionHypothesis =>
      exact (inductionHypothesis (step store value)).trans (keeps store value)

namespace Bindings

variable {σ : Type} (bindings : Bindings σ)

theorem client_release (store : Store σ) : (bindings.release store).client = store.client := by
  refine Store.client_foldl (fun store entry => ?_) bindings.entries store
  unfold Deferred.release
  cases entry.1.source <;> rfl

theorem client_applied (store : Store σ) : (bindings.applied store).client = store.client := by
  refine Store.client_foldl (fun store entry => ?_) bindings.entries store
  cases entry.1.slot? <;> rfl

theorem client_apply (store : Store σ) :
    (Outcome.state (bindings.apply store)).client = store.client := by
  cases application : bindings.apply store with
  | error error applied => exact congrArg Store.client (bindings.eq_of_apply_error application)
  | ok done applied =>
      have written := ((bindings.apply_eq_ok_iff _ _ _).mp application).2
      exact (congrArg Store.client written).trans (bindings.client_applied store)

/-- A binding for a derived integer cannot be applied. -/
theorem exists_apply_error {store : Store σ}
    (derived : ∃ entry, entry ∈ bindings.entries ∧ entry.1.isParameter = false) :
    ∃ error after, bindings.apply store = .error error after := by
  rcases derived with ⟨entry, member, derived⟩
  cases application : bindings.apply store with
  | error error after => exact ⟨error, after, rfl⟩
  | ok done after =>
      have parameter := ((bindings.apply_eq_ok_iff _ _ _).mp application).1 entry member
      rw [derived] at parameter
      cases parameter

end Bindings

/-- The resolutions that the declared extents ask for, dimension by dimension. -/
def Nest.resolutions {σ : Type} (nest : Nest σ) : List (Evaluation σ) :=
  nest.declaredShape.filterMap Extent.evaluation?

namespace Lowering

variable {β σ : Type} [Backend σ β]

/-- The captured values that a pass comes to.  If it does not get into its space
it comes to none. -/
def visits (arguments : Arguments σ) (bindings : Bindings σ) (lowering : Lowering β σ) :
    List (Pass.Visit β σ) :=
  match lowering.opened? arguments bindings with
  | none => []
  | some opened => Nest.visits lowering.plan.nest.attachments opened

/-- What a pass evaluates, in order.  If the bindings cannot be applied it
evaluates nothing. -/
def evaluations (arguments : Arguments σ) (bindings : Bindings σ) (lowering : Lowering β σ) :
    List (Evaluation σ) :=
  match bindings.apply lowering.store with
  | .error _ _ => []
  | .ok _ applied =>
      Evaluation.executed applied lowering.plan.nest.resolutions ++
        Pass.evaluationsAt (lowering.visits arguments bindings)

/-- The steps over the prepared nest evaluate what the commands ask for, once the
space is built. -/
theorem evaluates_steps (nest : Nest σ) (target : Target) (pass : Pass β σ) :
    Outcome.Evaluates Pass.store (steps nest target) pass
      (Outcome.afterwards
        (fun _ opened => Pass.evaluationsAt (Nest.visits nest.attachments opened))
        (nest.buildSpace pass)) := by
  have building : Outcome.Evaluates Pass.store nest.buildSpace pass [] :=
    .of_keeps nest.keepsStore_buildSpace
  refine building.bind fun _ opened _ => ?_
  refine (Nest.evaluates_addAttachments nest.attachments opened).followed fun _ => ?_
  refine Outcome.Keeps.get.bind fun final => ?_
  cases final.space with
  | none => exact .throw _
  | some space => exact .pure _

section Stages

variable {arguments : Arguments σ} {bindings : Bindings σ} {lowering : Lowering β σ}
  {applied resolved : Store σ} {numbers : List Int}

theorem visits_of_unopened
    (closed : forall applied resolved numbers pass,
      ¬Opens arguments bindings lowering applied resolved numbers pass) :
    lowering.visits arguments bindings = [] := by
  have unopened : lowering.opened? arguments bindings = none := by
    rw [Option.eq_none_iff_forall_ne_some]
    intro pass opened
    rcases (opened?_eq_some_iff pass).mp opened with ⟨_, _, _, opens⟩
    exact closed _ _ _ _ opens
  unfold visits
  rw [unopened]

theorem visits_of_unapplied {error : DeferredError}
    (unapplied : bindings.apply lowering.store = .error error applied) :
    lowering.visits arguments bindings = [] := by
  apply visits_of_unopened
  intro _ _ _ _ opens
  rw [opens.application] at unapplied
  cases unapplied

theorem visits_of_unresolved {error : DeferredError}
    (application : bindings.apply lowering.store = .ok () applied)
    (unresolved :
      lowering.plan.nest.declaredShape.mapM Extent.resolve applied = .error error resolved) :
    lowering.visits arguments bindings = [] := by
  apply visits_of_unopened
  intro _ _ _ _ opens
  have same := opens.application
  rw [application] at same
  cases same
  rw [opens.resolution] at unresolved
  cases unresolved

variable (arguments)

theorem visits_of_resolved (application : bindings.apply lowering.store = .ok () applied)
    (resolution :
      lowering.plan.nest.declaredShape.mapM Extent.resolve applied = .ok numbers resolved) :
    lowering.visits arguments bindings =
      Outcome.afterwards (fun _ opened => Nest.visits lowering.plan.nest.attachments opened)
        ((lowering.plan.nest.withExtents numbers).buildSpace
          (Pass.start lowering.backend resolved arguments lowering.plan.options)) := by
  cases building : (lowering.plan.nest.withExtents numbers).buildSpace
      (Pass.start lowering.backend resolved arguments lowering.plan.options) with
  | ok done opened =>
      have opens : Opens arguments bindings lowering applied resolved numbers opened :=
        ⟨application, resolution, building⟩
      unfold visits
      rw [opens.opened?_eq]
      rfl
  | error error stopped =>
      apply visits_of_unopened
      intro _ _ _ _ opens
      have same := opens.application
      rw [application] at same
      cases same
      have numbered := opens.resolution
      rw [resolution] at numbered
      cases numbered
      rw [opens.building] at building
      cases building

theorem evaluations_of_unapplied {error : DeferredError}
    (unapplied : bindings.apply lowering.store = .error error applied) :
    lowering.evaluations arguments bindings = [] := by
  unfold evaluations
  rw [unapplied]

theorem evaluations_of_applied (application : bindings.apply lowering.store = .ok () applied) :
    lowering.evaluations arguments bindings =
      Evaluation.executed applied lowering.plan.nest.resolutions ++
        Pass.evaluationsAt (lowering.visits arguments bindings) := by
  unfold evaluations
  rw [application]

/-- If the extents resolve, each deferred one was resolved once, and the steps
over the prepared nest evaluate the rest. -/
theorem makes_of_resolved (application : bindings.apply lowering.store = .ok () applied)
    (resolution :
      lowering.plan.nest.declaredShape.mapM Extent.resolve applied = .ok numbers resolved) :
    lowering.evaluations arguments bindings =
        lowering.plan.nest.resolutions ++
          Pass.evaluationsAt (lowering.visits arguments bindings) ∧
      ∃ complete,
        Evaluation.Makes applied (lowering.evaluations arguments bindings)
          (Outcome.state (steps (lowering.plan.nest.withExtents numbers) lowering.plan.target
            (Pass.start lowering.backend resolved arguments lowering.plan.options))).store
          complete ∧
        (Outcome.Succeeds (steps (lowering.plan.nest.withExtents numbers) lowering.plan.target)
          (Pass.start lowering.backend resolved arguments lowering.plan.options) ->
            complete = true) := by
  rcases Extent.makes_of_mapM_resolve resolution with ⟨all, extents⟩
  have split := evaluations_of_applied arguments application
  have resolutions : Evaluation.executed applied lowering.plan.nest.resolutions =
      lowering.plan.nest.resolutions := all
  rw [resolutions] at split
  refine ⟨split, ?_⟩
  rcases evaluates_steps (lowering.plan.nest.withExtents numbers) lowering.plan.target
    (Pass.start lowering.backend resolved arguments lowering.plan.options) with
    ⟨complete, makes, completes⟩
  have told := visits_of_resolved arguments application resolution
  refine ⟨complete, ?_, completes⟩
  rw [split, told, Pass.evaluationsAt, Outcome.filterMap_afterwards]
  exact extents.append makes

end Stages

section Whole

variable (arguments : Arguments σ) (bindings : Bindings σ) (lowering : Lowering β σ)

/-- From the applied bindings to their release the store changes by the
evaluations of the pass only, and a failing one makes the pass fail. -/
theorem exists_makes :
    ∃ last complete,
      Evaluation.Makes (Outcome.state (bindings.apply lowering.store))
        (lowering.evaluations arguments bindings) last complete ∧
      (Outcome.state (lower arguments bindings lowering)).store = bindings.release last ∧
      (Outcome.Succeeds (lower arguments bindings) lowering -> complete = true) := by
  have ends := ends_lower arguments bindings lowering
  unfold Outcome.Succeeds
  generalize lower arguments bindings lowering = outcome at ends ⊢
  cases ends with
  | @unapplied store error unapplied =>
      rw [evaluations_of_unapplied arguments unapplied, unapplied]
      exact ⟨store, true, .nil, rfl, fun _ => rfl⟩
  | @unresolved applied resolved error application unresolved =>
      rcases Extent.evaluates_mapM_resolve lowering.plan.nest.declaredShape applied with
        ⟨complete, makes, _⟩
      rw [unresolved] at makes
      rw [evaluations_of_applied arguments application, visits_of_unresolved application unresolved,
        application]
      refine ⟨resolved, complete, ?_, rfl, nofun⟩
      exact (List.append_nil _).symm ▸ makes
  | @failed applied resolved numbers stopped error application resolution failed =>
      rcases (makes_of_resolved arguments application resolution).2 with ⟨complete, makes, _⟩
      rw [failed] at makes
      rw [application]
      exact ⟨stopped.store, complete, makes, rfl, nofun⟩
  | @done applied resolved numbers final lowered application resolution done =>
      rcases (makes_of_resolved arguments application resolution).2
        with ⟨complete, makes, completes⟩
      rw [done] at makes
      rw [application]
      exact ⟨final.store, complete, makes, rfl, fun _ => completes ⟨lowered, final, done⟩⟩

/-- The extents are written only when all of them are resolved, and captured
values are come to only after that. -/
theorem extents_first :
    (lowering.evaluations arguments bindings <+: lowering.plan.nest.resolutions ∧
        lowering.visits arguments bindings = [] ∧
        (Outcome.state (lower arguments bindings lowering)).plan.nest = lowering.plan.nest ∧
        ¬Outcome.Succeeds (lower arguments bindings) lowering) ∨
      ∃ numbers resolved,
        lowering.plan.nest.declaredShape.mapM Extent.resolve
            (Outcome.state (bindings.apply lowering.store)) = .ok numbers resolved ∧
          lowering.evaluations arguments bindings =
            lowering.plan.nest.resolutions ++
              Pass.evaluationsAt (lowering.visits arguments bindings) ∧
          (Outcome.state (lower arguments bindings lowering)).plan.nest =
            lowering.plan.nest.withExtents numbers := by
  have ends := ends_lower arguments bindings lowering
  unfold Outcome.Succeeds
  generalize lower arguments bindings lowering = outcome at ends ⊢
  cases ends with
  | unapplied unapplied =>
      rw [evaluations_of_unapplied arguments unapplied, visits_of_unapplied unapplied]
      exact .inl ⟨List.nil_prefix, rfl, rfl, nofun⟩
  | unresolved application unresolved =>
      rw [evaluations_of_applied arguments application, visits_of_unresolved application unresolved]
      refine .inl ⟨?_, rfl, rfl, nofun⟩
      rw [Pass.evaluationsAt, List.filterMap_nil, List.append_nil]
      exact Evaluation.executed_prefix _ _
  | @failed _ resolved numbers _ _ application resolution _ =>
      have split := (makes_of_resolved arguments application resolution).1
      rw [application]
      exact .inr ⟨numbers, resolved, resolution, split, rfl⟩
  | @done _ resolved numbers _ _ application resolution _ =>
      have split := (makes_of_resolved arguments application resolution).1
      rw [application]
      exact .inr ⟨numbers, resolved, resolution, split, rfl⟩

theorem visits_prefix :
    (lowering.visits arguments bindings).map Pass.Visit.capture <+:
      lowering.plan.nest.captured := by
  unfold visits
  cases lowering.opened? arguments bindings with
  | none => exact List.nil_prefix
  | some opened => exact Nest.visits_prefix _ opened

/-- A pass that gives a result came to all captured values. -/
theorem visits_of_succeeds (succeeds : Outcome.Succeeds (lower arguments bindings) lowering) :
    (lowering.visits arguments bindings).map Pass.Visit.capture = lowering.plan.nest.captured := by
  rcases succeeds with ⟨lowered, after, result⟩
  have ends := ends_lower arguments bindings lowering
  rw [result] at ends
  cases ends with
  | done application resolution done =>
      rw [visits_of_resolved arguments application resolution]
      unfold steps Nest.addKernels at done
      simp only [Outcome.bind_eq_ok_iff] at done
      rcases done with ⟨_, opened, building, _, final, replayed, _⟩
      rw [building]
      exact Nest.visits_of_ok replayed

/-- A pass comes to a captured value when everything before it succeeds, and then
it is as this left it. -/
theorem getElem?_visits {before rest : List (Attachment σ)} {attachment : Attachment σ}
    {earlier later : List (String × Capture σ)} {entry : String × Capture σ}
    (attached : lowering.plan.nest.attachments = before ++ attachment :: rest)
    (captured : attachment.logic.captures = earlier ++ entry :: later) (pass : Pass β σ) :
    (lowering.visits arguments bindings)[(before.flatMap Attachment.captured).length +
        earlier.length]? = some ⟨pass, entry.2⟩ <->
      ∃ opened middle space replacements, lowering.opened? arguments bindings = some opened ∧
        Nest.addAttachments before opened = .ok () middle ∧ middle.space = some space ∧
        Pass.resolveAll attachment.logic.name earlier middle = .ok replacements pass := by
  unfold visits
  cases lowering.opened? arguments bindings with
  | none =>
      constructor
      · intro impossible
        cases impossible
      · rintro ⟨_, _, _, _, impossible, _⟩
        cases impossible
  | some opened =>
      dsimp only
      rw [attached, Nest.getElem?_visits captured]
      constructor
      · rintro ⟨middle, space, replacements, replayed, inside, resolved⟩
        exact ⟨opened, middle, space, replacements, rfl, replayed, inside, resolved⟩
      · rintro ⟨_, middle, space, replacements, same, replayed, inside, resolved⟩
        cases same
        exact ⟨middle, space, replacements, replayed, inside, resolved⟩

/-- A pass makes the evaluations that are listed for it, in their order, and
nothing else runs code of the client: the store changes by them only, so a
journal of the client tells them.  The first failing one is the last, and the
pass fails.

None is made if a derived integer is bound.  Otherwise the deferred extents come
first, one resolution for each such dimension.  They are written when all are
resolved, and only then captured values are come to: command by command, in the
order of capture, as long as everything before succeeds.

A kernel that the backend gets holds nothing that could be evaluated, so running
it runs the body and no rule. -/
theorem evaluations_in_order :
    let after := Outcome.state (lower arguments bindings lowering)
    let applied := Outcome.state (bindings.apply lowering.store)
    let evaluations := lowering.evaluations arguments bindings
    let visits := lowering.visits arguments bindings
    let nest := lowering.plan.nest
    (∃ last complete, Evaluation.Makes applied evaluations last complete ∧
      after.store = bindings.release last ∧
      (Outcome.Succeeds (lower arguments bindings) lowering -> complete = true)) ∧
    (forall (ν : Type) (journal : σ -> List ν) (notes : Evaluation σ -> List ν),
      (forall evaluation, evaluation ∈ evaluations -> forall store : Store σ,
        journal (evaluation.after store).client = journal store.client ++ notes evaluation) ->
      journal after.store.client =
        journal lowering.store.client ++ evaluations.flatMap notes) ∧
    ((∃ entry, entry ∈ bindings.entries ∧ entry.1.isParameter = false) -> evaluations = []) ∧
    ((evaluations <+: nest.resolutions ∧ visits = [] ∧ after.plan.nest = nest ∧
        ¬Outcome.Succeeds (lower arguments bindings) lowering) ∨
      ∃ numbers resolved, nest.declaredShape.mapM Extent.resolve applied = .ok numbers resolved ∧
        evaluations = nest.resolutions ++ Pass.evaluationsAt visits ∧
        after.plan.nest = nest.withExtents numbers) ∧
    visits.map Pass.Visit.capture <+: nest.captured ∧
    (Outcome.Succeeds (lower arguments bindings) lowering ->
      visits.map Pass.Visit.capture = nest.captured) ∧
    (forall before attachment rest earlier entry later,
      nest.attachments = before ++ attachment :: rest ->
      attachment.logic.captures = earlier ++ entry :: later ->
      forall pass : Pass β σ,
        visits[(before.flatMap Attachment.captured).length + earlier.length]? =
            some ⟨pass, entry.2⟩ <->
          ∃ opened middle space replacements, lowering.opened? arguments bindings = some opened ∧
            Nest.addAttachments before opened = .ok () middle ∧ middle.space = some space ∧
            Pass.resolveAll attachment.logic.name earlier middle = .ok replacements pass) ∧
    forall (attachment : Attachment σ) (pass stored : Pass β σ),
      Pass.addLogic attachment.logic attachment.scheduling pass = .ok () stored ->
        ∃ (space : NativeSpace) (kernel : Kernel σ) (backend : β) (scope : Scope σ),
          Backend.addKernel space kernel attachment.scheduling.predicate
              attachment.scheduling.placement backend = .ok () stored.backend ∧
            kernel.scope? = some scope ∧ scope.PassesThrough ∧
            forall store, kernel.invoke store = attachment.logic.body scope store := by
  intro after applied evaluations visits nest
  have made := exists_makes arguments bindings lowering
  refine ⟨made, ?_, ?_, extents_first arguments bindings lowering,
    visits_prefix arguments bindings lowering, visits_of_succeeds arguments bindings lowering,
    ?_, fun _ _ _ => Pass.exists_kernel_of_addLogic⟩
  · intro ν journal notes noted
    rcases made with ⟨last, complete, makes, left, _⟩
    have told := makes.journal noted
    rw [bindings.client_apply] at told
    change journal (Outcome.state (lower arguments bindings lowering)).store.client = _
    rw [left, bindings.client_release]
    exact told
  · intro derived
    rcases bindings.exists_apply_error derived with ⟨error, store, unapplied⟩
    exact evaluations_of_unapplied arguments unapplied
  · intro before attachment rest earlier entry later attached captured pass
    exact getElem?_visits arguments bindings lowering attached captured pass

end Whole

end Lowering

/-! ## A pass that is taken down -/

namespace Sample

/-- Two columns, noted whenever they are resolved. -/
def columns : Deferred (List String) :=
  ⟨⟨0⟩, "columns", .derived fun store =>
    .ok 2 { store with client := store.client ++ ["columns"] }⟩

/-- An integer that cannot be resolved, which is noted too. -/
def broken : Deferred (List String) :=
  ⟨⟨1⟩, "broken", .derived fun store =>
    .error "broken" { store with client := store.client ++ ["broken"] }⟩

/-- No elements, noted whenever they are produced. -/
def nothing : Capture (List String) :=
  .lazy fun store => .ok [] { store with client := store.client ++ ["nothing"] }

def noting : LogicFunction (List String) where
  name := "noting"
  captures :=
    [("first", nothing), ("size", .deferred columns), ("broken", .deferred broken),
      ("last", nothing)]
  body := fun _ store => store
  names_distinct := by decide

/-- A square nest with logic. -/
def square : Nest (List String) :=
  let corner : Dimension (List String) := ⟨⟨⟨2⟩, ⟨0⟩, 0⟩, .deferred columns, .deferred columns⟩
  let other : Dimension (List String) := ⟨⟨⟨3⟩, ⟨0⟩, 1⟩, .deferred columns, .deferred columns⟩
  Nest.attach ⟨⟨0⟩, [corner, other], [], []⟩ noting .plain

/-- The columns are resolved for either dimension and again for the capture, and
nothing is produced after the failure. -/
example :
    let lowering : Lowering (Recorder (List String)) (List String) :=
      ⟨(Schedule.ofNest square).plan .host, Recorder.empty, Store.initial []⟩
    (Outcome.state (Lowering.lower ⟨[], []⟩ .empty lowering)).store.client =
      ["columns", "columns", "nothing", "columns", "broken"] := by
  decide +kernel

end Sample

end LoopNest
