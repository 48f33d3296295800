import LoopNest.Proofs.Nest.Indices
import LoopNest.Proofs.Plan.Identities
import LoopNest.Proofs.Plan.Opening

namespace LoopNest

/-!
# The native indices that a pass reports

A lowering pass registers its kernels in the space that it entered, and with each
of them it reports native indices.  Which ones these are depends on the kernel
alone, and all of them belong to that space.  This is so for every backend with a
log of kernels, and also for the kernels that were added by a pass that failed
later.
-/

namespace Lowering

variable {β σ : Type} [Backend σ β]

/-- The space that the pass enters, if it gets as far. -/
def space? (arguments : Arguments σ) (bindings : Bindings σ) (lowering : Lowering β σ) :
    Option NativeSpace :=
  (lowering.opened? arguments bindings).bind Pass.space

/-- Once the space is built, the replay of the commands decides. -/
theorem steps_of_built {nest : Nest σ} {pass opened : Pass β σ} {space : NativeSpace}
    (building : nest.buildSpace pass = .ok () opened)
    (still : forall {done after}, Nest.addAttachments nest.attachments opened = .ok done after ->
      after.space = some space) (target : Target) :
    steps nest target pass =
      match Nest.addAttachments nest.attachments opened with
      | .ok _ final =>
          .ok
            { target := target.name
              space
              identities := final.identities
              kernels := nest.kernelCount }
            final
      | .error error stopped => .error error stopped := by
  unfold steps Nest.addKernels
  rw [Outcome.bind_of_ok building]
  cases adding : Nest.addAttachments nest.attachments opened with
  | error error stopped => rw [Outcome.bind_of_error adding]
  | ok done final =>
      rw [Outcome.bind_of_ok adding, Outcome.bind_of_ok (Pass.get_apply final), still adding]
      rfl

variable {log : β -> List (RecordedKernel σ)} {arguments : Arguments σ} {bindings : Bindings σ}
  {lowering : Lowering β σ}

/-- However the steps over a nest end once its space is built, each kernel that
they add is registered for a command in that space. -/
theorem steps_add (logs : Backend.KernelLog log) {nest : Nest σ} {start opened : Pass β σ}
    {kernels : List (RecordedKernel σ)} {space : NativeSpace} {supplied : List Token}
    (building : nest.buildSpace start = .ok () opened)
    (inside : opened.Within log kernels (some space)
      (Nest.EntryOf nest.ownIndices supplied nest.captured space)) (target : Target) :
    ∃ added, log (Outcome.state (steps nest target start)).backend = kernels ++ added ∧
      (forall lowered final, steps nest target start = .ok lowered final ->
        lowered.space = space) ∧
      forall entry, entry ∈ added -> ∃ attachment, attachment ∈ nest.attachments ∧
        Nest.RegisteredAt log (Nest.EntryOf nest.ownIndices supplied nest.captured space) space
          attachment entry := by
  rcases Nest.addAttachments_adds logs (fun handle made array => .made made array) inside with
    ⟨added, grown, registered, still⟩
  rw [steps_of_built building (still _ _)]
  refine ⟨added, ?_, ?_, registered⟩
  · rw [← grown]
    cases Nest.addAttachments nest.attachments opened <;> rfl
  · intro lowered final done
    cases adding : Nest.addAttachments nest.attachments opened with
    | error error stopped =>
        rw [adding] at done
        cases done
    | ok _ last =>
        rw [adding] at done
        cases done
        rfl

/-- The kernels that were logged since the pass began are registered for commands,
in the space that it entered. -/
def LogsCommands (log : β -> List (RecordedKernel σ)) (arguments : Arguments σ)
    (bindings : Bindings σ) (lowering : Lowering β σ) (kernels : List (RecordedKernel σ)) : Prop :=
  ∃ added, kernels = log lowering.backend ++ added ∧
    forall entry, entry ∈ added -> ∃ space attachment,
      lowering.space? arguments bindings = some space ∧
        space = .ofExtents space.id space.extents ∧
        attachment ∈ lowering.plan.nest.attachments ∧
        Nest.RegisteredAt log
          (Nest.EntryOf lowering.plan.nest.ownIndices arguments.tokens lowering.plan.nest.captured
            space) space attachment entry

theorem logsCommands_of_eq {kernels : List (RecordedKernel σ)}
    (kept : kernels = log lowering.backend) :
    LogsCommands log arguments bindings lowering kernels :=
  ⟨[], kept.trans (List.append_nil _).symm, fun _ member => absurd member List.not_mem_nil⟩

section Resolved

variable {applied resolved : Store σ} {numbers : List Int}
  (application : bindings.apply lowering.store = .ok () applied)
  (resolution : lowering.plan.nest.declaredShape.mapM Extent.resolve applied = .ok numbers resolved)
include application resolution

theorem space?_of_built {opened : Pass β σ}
    (building : (lowering.plan.nest.withExtents numbers).buildSpace
      (Pass.start lowering.backend resolved arguments lowering.plan.options) = .ok () opened) :
    lowering.space? arguments bindings = opened.space := by
  have opens : lowering.opened? arguments bindings = some opened :=
    Opens.opened?_eq ⟨application, resolution, building⟩
  rw [space?, opens]
  rfl

theorem logsCommands_of_resolved (logs : Backend.KernelLog log) (arguments : Arguments σ) :
    LogsCommands log arguments bindings lowering
      (log (Outcome.state (steps (lowering.plan.nest.withExtents numbers) lowering.plan.target
        (Pass.start lowering.backend resolved arguments lowering.plan.options))).backend) := by
  rcases Nest.buildSpace_opens logs (lowering.plan.nest.withExtents numbers) lowering.backend
      resolved arguments lowering.plan.options lowering.plan.nest.captured with
    ⟨error, stopped, building, kept⟩ | ⟨opened, space, building, spaced, inside⟩
  · rw [steps, Outcome.bind_of_error building]
    exact logsCommands_of_eq kept
  · rcases steps_add logs building inside lowering.plan.target with ⟨added, grown, _, registered⟩
    have known := (space?_of_built application resolution building).trans inside.space
    rw [Nest.ownIndices_withExtents _ (Nest.complete_of_mapM_resolve resolution)] at registered
    refine ⟨added, grown, fun entry member => ?_⟩
    rcases registered entry member with ⟨attachment, attached, told⟩
    exact ⟨space, attachment, known, spaced, attached, told⟩

end Resolved

/-- However a pass ends, each kernel that it adds is registered for a command, in
the space that it entered. -/
theorem logsCommands_lower (logs : Backend.KernelLog log) (arguments : Arguments σ)
    (bindings : Bindings σ) (lowering : Lowering β σ) :
    LogsCommands log arguments bindings lowering
      (log (Outcome.state (lower arguments bindings lowering)).backend) := by
  have ends := ends_lower arguments bindings lowering
  generalize lower arguments bindings lowering = outcome at ends
  cases ends with
  | unapplied _ => exact logsCommands_of_eq rfl
  | unresolved _ _ => exact logsCommands_of_eq rfl
  | failed application resolution failed =>
      have logged := logsCommands_of_resolved application resolution logs arguments
      rw [failed] at logged
      exact logged
  | done application resolution done =>
      have logged := logsCommands_of_resolved application resolution logs arguments
      rw [done] at logged
      exact logged

/-- A pass that gives a result gives the space that it entered. -/
theorem space?_of_lower (logs : Backend.KernelLog log) {lowered : LoweredNest}
    {after : Lowering β σ} (lowers : lower arguments bindings lowering = .ok lowered after) :
    lowering.space? arguments bindings = some lowered.space := by
  have ends := ends_lower arguments bindings lowering
  rw [lowers] at ends
  cases ends with
  | @done _ resolved numbers final _ application resolution done =>
      rcases Nest.buildSpace_opens logs (lowering.plan.nest.withExtents numbers) lowering.backend
          resolved arguments lowering.plan.options lowering.plan.nest.captured with
        ⟨error, stopped, building, _⟩ | ⟨opened, space, building, _, inside⟩
      · rw [steps, Outcome.bind_of_error building] at done
        cases done
      · rcases steps_add logs building inside lowering.plan.target with ⟨_, _, result, _⟩
        rw [space?_of_built application resolution building, inside.space, result _ _ done]

/-- However a pass ends, on any backend with a log of kernels: with each kernel
that it added the native indices are reported to which the replacements refer,
each once, in the order in which they come up, and all of them belong to the
space of the pass. -/
theorem kernels_report_indices (logs : Backend.KernelLog log) (arguments : Arguments σ)
    (bindings : Bindings σ) {lowering : Lowering β σ}
    (issued : FromOneArena
      (lowering.plan.nest.ownIndices.map .index ++ lowering.plan.nest.captured)) :
    let after := Outcome.state (lower arguments bindings lowering)
    ∃ added, log after.backend = log lowering.backend ++ added ∧
      (forall lowered final, lower arguments bindings lowering = .ok lowered final ->
        lowering.space? arguments bindings = some lowered.space) ∧
      forall entry, entry ∈ added -> ∃ attachment space scope,
        attachment ∈ lowering.plan.nest.attachments ∧
          lowering.space? arguments bindings = some space ∧ entry.space = space.id ∧
          entry.kernel.scope? = some scope ∧ scope.captures = attachment.logic.captures ∧
          lowering.plan.nest.Reports arguments.tokens space scope entry.kernel.indices := by
  intro after
  rcases logsCommands_lower logs arguments bindings lowering with ⟨added, grown, registered⟩
  refine ⟨added, grown, fun _ _ lowers => space?_of_lower logs lowers, fun entry member => ?_⟩
  rcases registered entry member with ⟨space, attachment, known, spaced, attached, told⟩
  rcases Nest.reports_of_registeredAt logs spaced issued attached told with
    ⟨scope, seen, captures, reports⟩
  rcases told with ⟨_, _, _, _, _, _, rfl⟩
  exact ⟨attachment, space, scope, attached, known, rfl, seen, captures, reports⟩

end Lowering

/-! ## A board -/

namespace Sample

def rank : LoopIndex :=
  ⟨⟨0⟩, ⟨0⟩, 0⟩

def file : LoopIndex :=
  ⟨⟨1⟩, ⟨0⟩, 1⟩

/-- A loop index of another nest. -/
def stranger : LoopIndex :=
  ⟨⟨2⟩, ⟨1⟩, 0⟩

/-- Captures both loop indices of the board, on their own and in a sequence, and
one of another nest. -/
def boardLogic : LogicFunction Unit where
  name := "square"
  captures :=
    [("other", .index stranger), ("all", .sequence [.index file, .index stranger, .index rank]),
      ("rank", .index rank), ("file", .index file)]
  body := fun _ store => store
  names_distinct := by decide

def board : Nest Unit :=
  Nest.attach ⟨⟨0⟩, [⟨rank, .fixed 2, .fixed 2⟩, ⟨file, .fixed 3, .fixed 3⟩], [], []⟩ boardLogic
    .plain

theorem board_issued : FromOneArena (board.ownIndices.map .index ++ board.captured) := by
  refine ⟨[.nest, .index ⟨0⟩ 0, .index ⟨0⟩ 1, .nest, .index ⟨1⟩ 0], by decide, ?_⟩
  have values : board.ownIndices.map .index ++ board.captured =
      [.index rank, .index file, .index stranger,
        .sequence [.index file, .index stranger, .index rank], .index rank, .index file] := rfl
  have served : forall value : Capture Unit,
      value ∈ board.ownIndices.map .index ++ board.captured -> value.identity?.isSome = true ->
        value ∈ [.index rank, .index file, .index stranger] := by
    rw [values]
    simp [Capture.identity?]
  exact served

end Sample

namespace Lowering

/-- On the board the second dimension is reported first, since the sequence comes
before the captured values on their own, and nothing is reported twice. -/
theorem board_reports_files_first :
    ∃ lowered after entry scope,
      lower ⟨[], []⟩ .empty (Sample.lowering Sample.board) = .ok lowered after ∧
        after.backend.kernels = [entry] ∧ entry.kernel.scope? = some scope ∧
        entry.kernel.indices = [⟨lowered.space.id, 1⟩, ⟨lowered.space.id, 0⟩] ∧
        FirstOccurrences scope.nativeIndices entry.kernel.indices ∧
        scope.get? "other" = some (.captured (.index Sample.stranger)) := by
  have reported : (match lower ⟨[], []⟩ .empty (Sample.lowering Sample.board) with
      | .ok lowered after =>
          decide (after.backend.kernels.map (fun entry => entry.kernel.indices) =
            [[⟨lowered.space.id, 1⟩, ⟨lowered.space.id, 0⟩]])
      | .error _ _ => false) = true := by decide +kernel
  rcases @kernels_report_indices _ _ _ _ Recorder.kernelLog ⟨[], []⟩ .empty
    (Sample.lowering Sample.board) Sample.board_issued with ⟨added, kernels, _, reports⟩
  cases done : lower ⟨[], []⟩ .empty (Sample.lowering Sample.board) with
  | error error after =>
      rw [done] at reported
      cases reported
  | ok lowered after =>
      rw [done] at reported kernels
      have logged : after.backend.kernels = added := kernels
      have listed := of_decide_eq_true reported
      rw [logged] at listed
      rcases List.map_eq_singleton_iff.mp listed with ⟨entry, rfl, indices⟩
      rcases reports entry List.mem_cons_self with
        ⟨attachment, space, scope, attached, _, _, seen, captures, told⟩
      cases List.mem_singleton.mp attached
      have other : scope.captures.lookup "other" = some (.index Sample.stranger) := by
        rw [captures]
        rfl
      refine ⟨lowered, after, entry, scope, rfl, logged, seen, indices, told.order, ?_⟩
      exact (told.foreign "other" Sample.stranger other (by decide)).2.2 List.not_mem_nil

end Lowering

end LoopNest
