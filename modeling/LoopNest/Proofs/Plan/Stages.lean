import LoopNest.Native.Recorder
import LoopNest.Plan.Lowering
import LoopNest.Proofs.Nest.Extents

namespace LoopNest

/-!
# The stages of a lowering pass

A pass applies its bindings, resolves the declared extents, and then builds the
nest in a pass state of its own.  It ends early when one of the first two
stages fails; from the third stage on the plan holds the resolved extents,
whatever the outcome is.
-/

namespace Plan

variable {σ : Type}

/-- The nest that the plan lowers. -/
def nest (plan : Plan σ) : Nest σ :=
  plan.schedule.nest

/-- The plan after a pass was prepared with these extents. -/
def prepared (plan : Plan σ) (numbers : List Int) : Plan σ :=
  { plan with schedule := plan.schedule.prepared numbers }

/-- The plan after the extents of a pass did not resolve. -/
def unprepared (plan : Plan σ) : Plan σ :=
  { plan with schedule := Schedule.ofNest plan.schedule.nest }

end Plan

namespace Lowering

variable {β σ : Type}

theorem prepare_of_ok (lowering : Lowering β σ) {after : Store σ} {numbers : List Int}
    (resolved : lowering.plan.nest.declaredShape.mapM Extent.resolve lowering.store =
      .ok numbers after) :
    prepare lowering =
      .ok () { lowering with plan := lowering.plan.prepared numbers, store := after } := by
  unfold prepare
  simp only [Schedule.preparePass_of_ok lowering.plan.schedule resolved]
  rfl

theorem prepare_of_error (lowering : Lowering β σ) {after : Store σ} {error : DeferredError}
    (failed : lowering.plan.nest.declaredShape.mapM Extent.resolve lowering.store =
      .error error after) :
    prepare lowering =
      .error (.unresolvableDeferred error)
        { lowering with plan := lowering.plan.unprepared, store := after } := by
  unfold prepare
  simp only [Schedule.preparePass_of_error lowering.plan.schedule failed]
  rfl

variable [Backend σ β] (arguments : Arguments σ) (bindings : Bindings σ)

/-- Bindings that cannot be applied end the pass before anything is prepared. -/
theorem lower_of_unapplied {lowering : Lowering β σ} {store : Store σ} {error : DeferredError}
    (failed : bindings.apply lowering.store = .error error store) :
    lower arguments bindings lowering =
      .error (.unresolvableDeferred error) { lowering with store := bindings.release store } := by
  unfold lower
  simp only [failed]

/-- Extents that do not resolve end the pass before anything is built. -/
theorem lower_of_unresolved {lowering : Lowering β σ} {store after : Store σ} {done : Unit}
    {error : DeferredError} (applied : bindings.apply lowering.store = .ok done store)
    (failed : lowering.plan.nest.declaredShape.mapM Extent.resolve store = .error error after) :
    lower arguments bindings lowering =
      .error (.unresolvableDeferred error)
        { lowering with plan := lowering.plan.unprepared, store := bindings.release after } := by
  have stopped := prepare_of_error { lowering with store } failed
  unfold lower
  simp only [applied, lowerBound]
  rw [Outcome.bind_of_error stopped]

/-- Once the extents are resolved, the outcome is that of the steps over the
prepared nest in a new pass. -/
theorem lower_of_resolved {lowering : Lowering β σ} {store after : Store σ} {done : Unit}
    {numbers : List Int} (applied : bindings.apply lowering.store = .ok done store)
    (resolved : lowering.plan.nest.declaredShape.mapM Extent.resolve store = .ok numbers after) :
    lower arguments bindings lowering =
      match steps (lowering.plan.nest.withExtents numbers) lowering.plan.target
          (Pass.start lowering.backend after arguments lowering.plan.options) with
      | .ok lowered pass =>
          .ok lowered
            { plan := lowering.plan.prepared numbers
              backend := pass.backend
              store := bindings.release pass.store }
      | .error error pass =>
          .error error
            { plan := lowering.plan.prepared numbers
              backend := pass.backend
              store := bindings.release pass.store } := by
  have prepared := prepare_of_ok { lowering with store } resolved
  unfold lower
  simp only [applied, lowerBound]
  rw [Outcome.bind_of_ok prepared]
  unfold build
  have nest_eq : (lowering.plan.schedule.prepared numbers).nest =
      lowering.plan.nest.withExtents numbers := rfl
  simp only [Plan.prepared, nest_eq]
  cases steps (lowering.plan.nest.withExtents numbers) lowering.plan.target
      (Pass.start lowering.backend after arguments lowering.plan.options) <;> rfl

/-- How a pass ends: its bindings cannot be applied, its extents do not resolve,
or the steps over the prepared nest fail or give a result. -/
inductive Ends (lowering : Lowering β σ) :
    EStateM.Result NestError (Lowering β σ) LoweredNest -> Prop
  | unapplied {store : Store σ} {error : DeferredError}
      (unapplied : bindings.apply lowering.store = .error error store) :
      Ends lowering
        (.error (.unresolvableDeferred error) { lowering with store := bindings.release store })
  | unresolved {applied resolved : Store σ} {error : DeferredError}
      (application : bindings.apply lowering.store = .ok () applied)
      (unresolved :
        lowering.plan.nest.declaredShape.mapM Extent.resolve applied = .error error resolved) :
      Ends lowering
        (.error (.unresolvableDeferred error)
          { lowering with
            plan := lowering.plan.unprepared
            store := bindings.release resolved })
  | failed {applied resolved : Store σ} {numbers : List Int} {stopped : Pass β σ}
      {error : NestError} (application : bindings.apply lowering.store = .ok () applied)
      (resolution :
        lowering.plan.nest.declaredShape.mapM Extent.resolve applied = .ok numbers resolved)
      (failed :
        steps (lowering.plan.nest.withExtents numbers) lowering.plan.target
          (Pass.start lowering.backend resolved arguments lowering.plan.options) =
            .error error stopped) :
      Ends lowering
        (.error error
          { plan := lowering.plan.prepared numbers
            backend := stopped.backend
            store := bindings.release stopped.store })
  | done {applied resolved : Store σ} {numbers : List Int} {final : Pass β σ}
      {lowered : LoweredNest} (application : bindings.apply lowering.store = .ok () applied)
      (resolution :
        lowering.plan.nest.declaredShape.mapM Extent.resolve applied = .ok numbers resolved)
      (done :
        steps (lowering.plan.nest.withExtents numbers) lowering.plan.target
          (Pass.start lowering.backend resolved arguments lowering.plan.options) =
            .ok lowered final) :
      Ends lowering
        (.ok lowered
          { plan := lowering.plan.prepared numbers
            backend := final.backend
            store := bindings.release final.store })

theorem ends_lower (lowering : Lowering β σ) :
    Ends arguments bindings lowering (lower arguments bindings lowering) := by
  cases application : bindings.apply lowering.store with
  | error error store =>
      rw [lower_of_unapplied arguments bindings application]
      exact .unapplied application
  | ok done applied =>
      cases resolution : lowering.plan.nest.declaredShape.mapM Extent.resolve applied with
      | error error resolved =>
          rw [lower_of_unresolved arguments bindings application resolution]
          exact .unresolved application resolution
      | ok numbers resolved =>
          rw [lower_of_resolved arguments bindings application resolution]
          cases outcome : steps (lowering.plan.nest.withExtents numbers) lowering.plan.target
              (Pass.start lowering.backend resolved arguments lowering.plan.options) with
          | error error stopped => exact .failed application resolution outcome
          | ok lowered final => exact .done application resolution outcome

end Lowering

/-! ## A small plan

One parameter, one loop index and three arrays of one arena, a nest over the
parameter, and a logic function that captures all of them. -/

namespace Sample

def rows : Deferred Unit :=
  ⟨⟨0⟩, "rows", .parameter 0⟩

def loop : LoopIndex :=
  ⟨⟨1⟩, ⟨0⟩, 0⟩

def scratch : ArrayHandle :=
  ⟨⟨⟨2⟩, .temporary, .float64, ⟨[4], .first⟩, none⟩, by decide⟩

def table : ArrayHandle :=
  ⟨⟨⟨3⟩, .constant, .int32, ⟨[2], .first⟩, some (.ints [1, 2])⟩, by decide⟩

def input : ArrayHandle :=
  ⟨⟨⟨4⟩, .input, .float32, ⟨[4], .first⟩, none⟩, by decide⟩

/-- A nest over the rows, without logic. -/
def nest : Nest Unit :=
  ⟨⟨0⟩, [⟨loop, .deferred rows, .deferred rows⟩], [], []⟩

def logic : LogicFunction Unit where
  name := "kernel"
  captures :=
    [("rows", .deferred rows), ("loop", .index loop), ("scratch", .array scratch),
      ("table", .array table), ("all", .sequence [.array input, .array scratch, .index loop])]
  body := fun _ store => store
  names_distinct := by decide

/-- The nest with the logic attached twice. -/
def busyNest : Nest Unit :=
  (nest.attach logic .plain).attach logic .plain

/-- A plan for a nest, with nothing recorded and nothing bound. -/
def lowering (nest : Nest Unit) : Lowering (Recorder Unit) Unit :=
  ⟨(Schedule.ofNest nest).plan .host, Recorder.empty, Store.initial ()⟩

/-- The input array and the loop index as arguments. -/
def arguments : Arguments Unit :=
  ⟨[.array input, .index loop], [.buffer 0, .scalar (.int 7)]⟩

/-- Four rows. -/
def bindings : Bindings Unit :=
  Bindings.empty.put rows 4

/-- With four rows the pass succeeds. -/
theorem succeeds : Outcome.Succeeds (Lowering.lower arguments bindings) (lowering busyNest) := by
  decide +kernel

end Sample

end LoopNest
