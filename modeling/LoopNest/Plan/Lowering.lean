import LoopNest.Declaration.Bindings
import LoopNest.Plan.Schedule

namespace LoopNest

/-!
# Plans and lowering passes

A plan pairs a schedule with a target, where its kernels will run, and lowers it
any number of times.  A lowering pass binds parameters, resolves the deferred
extents, and builds the nest in a pass of its own.  The bindings last for that
pass only: they are released when it ends, whether it succeeds or not, and also
when they could not be applied.
-/

/-- Broad class of a target. -/
inductive TargetCategory where
  | cpu
  | gpu
deriving DecidableEq

def TargetCategory.name : TargetCategory -> String
  | .cpu => "Cpu"
  | .gpu => "Gpu"

/-- A target and the width of its widest vector register in bytes. -/
structure Target where
  name : String
  category : TargetCategory
  vectorBytes : UInt32
deriving DecidableEq

/-- The machine that does the compiling. -/
def Target.host : Target :=
  ⟨"host", .cpu, 32⟩

instance : Inhabited Target :=
  ⟨Target.host⟩

/-- A schedule for a target, with the options of its passes. -/
structure Plan (σ : Type) where
  schedule : Schedule σ
  target : Target
  options : PassOptions

/-- A plan with the options that passes have unless told otherwise. -/
def Schedule.plan {σ : Type} (schedule : Schedule σ) (target : Target) : Plan σ :=
  ⟨schedule, target, .lenient⟩

/-- What one pass produced. -/
structure LoweredNest where
  target : String
  space : NativeSpace
  identities : IdentityMap
  kernels : Nat

/-- What a pass acts on: the plan, the backend and the store. -/
structure Lowering (β σ : Type) where
  plan : Plan σ
  backend : β
  store : Store σ

namespace Lowering

variable {β σ : Type}

/-- Prepare the schedule of the plan for a pass. -/
def prepare : EStateM NestError (Lowering β σ) Unit := fun lowering =>
  match Schedule.preparePass (lowering.plan.schedule, lowering.store) with
  | .ok _ (schedule, store) =>
      .ok () { lowering with plan := { lowering.plan with schedule }, store }
  | .error error (schedule, store) =>
      .error error { lowering with plan := { lowering.plan with schedule }, store }

variable [Backend σ β]

/-- The steps of a pass over a nest whose extents are resolved. -/
def steps (nest : Nest σ) (target : Target) : PassM β σ LoweredNest := do
  nest.buildSpace
  nest.addKernels
  let pass <- get
  match pass.space with
  | none => throw .missingSpace
  | some space =>
      pure
        { target := target.name
          space
          identities := pass.identities
          kernels := nest.kernelCount }

/-- Build the prepared nest in a new pass. -/
def build (arguments : Arguments σ) : EStateM NestError (Lowering β σ) LoweredNest :=
  fun lowering =>
    let plan := lowering.plan
    let pass := Pass.start lowering.backend lowering.store arguments plan.options
    match steps plan.schedule.nest plan.target pass with
    | .ok lowered pass =>
        .ok lowered { lowering with backend := pass.backend, store := pass.store }
    | .error error pass =>
        .error error { lowering with backend := pass.backend, store := pass.store }

/-- Lower with the parameters as they are bound now. -/
def lowerBound (arguments : Arguments σ) : EStateM NestError (Lowering β σ) LoweredNest := do
  prepare
  build arguments

/-- Run one lowering pass. -/
def lower (arguments : Arguments σ) (bindings : Bindings σ) :
    EStateM NestError (Lowering β σ) LoweredNest := fun lowering =>
  match bindings.apply lowering.store with
  | .error error store =>
      .error (.unresolvableDeferred error) { lowering with store := bindings.release store }
  | .ok _ store =>
      match lowerBound arguments { lowering with store } with
      | .ok lowered lowering =>
          .ok lowered { lowering with store := bindings.release lowering.store }
      | .error error lowering =>
          .error error { lowering with store := bindings.release lowering.store }

end Lowering

end LoopNest
