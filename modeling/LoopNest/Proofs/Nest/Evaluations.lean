import LoopNest.Proofs.Nest.Extents
import LoopNest.Proofs.Pass.Evaluations
import LoopNest.Proofs.Pass.PassingThrough

namespace LoopNest

/-!
# What replaying commands evaluates

Commands are replayed in the order in which they were attached.  Each one comes
to its captured values in order, and when all of them are resolved the backend
gets a kernel.  Nothing that the backend does evaluates anything, and the kernel
that it gets holds nothing that could still be evaluated.

Building the space before that evaluates nothing at all.
-/

section Command

variable {β σ : Type} [Backend σ β]

/-- The captured values that a pass comes to when it replays the command.  Outside
of a space it comes to none. -/
def Attachment.visits (attachment : Attachment σ) (pass : Pass β σ) : List (Pass.Visit β σ) :=
  match pass.space with
  | none => []
  | some _ => Pass.visits attachment.logic.name attachment.logic.captures pass

/-- What the pass evaluates at captured values that it comes to. -/
def Pass.evaluationsAt (visits : List (Pass.Visit β σ)) : List (Evaluation σ) :=
  visits.filterMap Pass.Visit.evaluation?

omit [Backend σ β] in
/-- What is evaluated for values that bind nothing binds nothing. -/
theorem Pass.keepsSlots_evaluationsAt {visits : List (Pass.Visit β σ)}
    {captures : List (Capture σ)} (come : visits.map Pass.Visit.capture <+: captures)
    (keep : forall capture, capture ∈ captures -> capture.KeepsSlots) :
    forall evaluation, evaluation ∈ evaluationsAt visits -> evaluation.KeepsSlots := by
  intro evaluation member
  rcases List.mem_filterMap.mp member with ⟨visit, visited, made⟩
  have captured := come.subset (List.mem_map_of_mem visited)
  exact Visit.keepsSlots (keep _ captured) evaluation (Option.mem_toList.mpr made)

theorem Attachment.visits_of_outside {attachment : Attachment σ} {pass : Pass β σ}
    (outside : pass.space = none) : attachment.visits pass = [] := by
  unfold visits
  rw [outside]

theorem Attachment.visits_of_entered {attachment : Attachment σ} {pass : Pass β σ}
    {space : NativeSpace} (entered : pass.space = some space) :
    attachment.visits pass = Pass.visits attachment.logic.name attachment.logic.captures pass := by
  unfold visits
  rw [entered]

theorem Attachment.visits_prefix (attachment : Attachment σ) (pass : Pass β σ) :
    (attachment.visits pass).map Pass.Visit.capture <+: attachment.captured := by
  cases entered : pass.space with
  | none =>
      rw [visits_of_outside entered]
      exact List.nil_prefix
  | some space =>
      rw [visits_of_entered entered]
      exact Pass.visits_prefix _ _ pass

namespace Pass

variable {attachment : Attachment σ} {pass after : Pass β σ}

theorem addLogic_of_outside (outside : pass.space = none) :
    addLogic attachment.logic attachment.scheduling pass = .error .missingSpace pass := by
  have started : (get : PassM β σ (Pass β σ)) pass = .ok pass pass := rfl
  unfold addLogic
  rw [Outcome.bind_of_ok started, outside]
  rfl

theorem evaluates_addLogic (attachment : Attachment σ) (pass : Pass β σ) :
    Outcome.Evaluates store (addLogic attachment.logic attachment.scheduling) pass
      (evaluationsAt (attachment.visits pass)) := by
  cases entered : pass.space with
  | none =>
      rw [Attachment.visits_of_outside entered]
      have idle : Outcome.Evaluates store (MonadExcept.throw .missingSpace : PassM β σ Unit) pass
          [] := .of_keeps (.throw _)
      exact idle.congr (addLogic_of_outside entered)
  | some space =>
      rw [Attachment.visits_of_entered entered]
      have resolving := evaluates_resolveAll attachment.logic.name attachment.logic.captures pass
      refine (resolving.followed fun entries => ?_).congr (addLogic_of_entered entered _ _)
      have composed : Composed (β := β) (σ := σ) (fun _ => True)
          (fun _ _ rule => Store.Untouched rule)
          (onBackend (Backend.addKernel space (Kernel.ofLogic attachment.logic ⟨entries⟩)
            attachment.scheduling.predicate attachment.scheduling.placement)) :=
        .onBackend (fun _ => trivial) _
      exact composed.keepsStore

/-- When a command is replayed, its captured values are resolved in a space and
the backend gets the kernel of the logic function with the replacements. -/
theorem addLogic_of_ok
    (added : addLogic attachment.logic attachment.scheduling pass = .ok () after) :
    ∃ space entries middle, pass.space = some space ∧
      resolveAll attachment.logic.name attachment.logic.captures pass = .ok entries middle ∧
      Backend.addKernel space (Kernel.ofLogic attachment.logic ⟨entries⟩)
        attachment.scheduling.predicate attachment.scheduling.placement middle.backend =
          .ok () after.backend := by
  cases entered : pass.space with
  | none =>
      rw [addLogic_of_outside entered] at added
      cases added
  | some space =>
      rw [addLogic_of_entered entered] at added
      rcases (Outcome.bind_eq_ok_iff _ _ _ _ _).mp added with ⟨entries, middle, resolved, last⟩
      rcases (onBackend_eq_ok_iff _ _ _ _).mp last with ⟨backend, given, rfl⟩
      exact ⟨space, entries, middle, rfl, resolved, given⟩

/-- The kernel that the backend gets runs the body in a scope where all that is
not replaced goes through. -/
theorem exists_kernel_of_addLogic
    (added : addLogic attachment.logic attachment.scheduling pass = .ok () after) :
    ∃ (space : NativeSpace) (kernel : Kernel σ) (backend : β) (scope : Scope σ),
      Backend.addKernel space kernel attachment.scheduling.predicate
          attachment.scheduling.placement backend = .ok () after.backend ∧
        kernel.scope? = some scope ∧ scope.PassesThrough ∧
        forall store, kernel.invoke store = attachment.logic.body scope store := by
  rcases addLogic_of_ok added with ⟨space, entries, middle, _, resolved, given⟩
  exact ⟨space, _, middle.backend, attachment.logic.scope ⟨entries⟩, given, rfl,
    passesThrough_scope resolved, fun _ => rfl⟩

end Pass

/-- When a command is replayed, the pass came to all of its captured values. -/
theorem Attachment.visits_of_ok {attachment : Attachment σ} {pass after : Pass β σ}
    (added : Pass.addLogic attachment.logic attachment.scheduling pass = .ok () after) :
    (attachment.visits pass).map Pass.Visit.capture = attachment.captured := by
  rcases Pass.addLogic_of_ok added with ⟨space, entries, middle, entered, resolved, _⟩
  rw [visits_of_entered entered]
  exact Pass.visits_of_ok resolved

end Command

namespace Nest

variable {β σ : Type} [Backend σ β]

open Pass (evaluationsAt)

/-- Building the space leaves the store as it is. -/
theorem keepsStore_buildSpace (nest : Nest σ) : Pass.KeepsStore (β := β) nest.buildSpace := by
  have composed : Pass.Composed (β := β) (σ := σ) (fun _ => True)
      (fun _ _ rule => Store.Untouched rule) nest.buildSpace :=
    composed_buildSpace (fun _ => trivial) nest
  exact composed.keepsStore

/-- The captured values that a pass comes to when it replays commands. -/
def visits : List (Attachment σ) -> Pass β σ -> List (Pass.Visit β σ)
  | [], _ => []
  | attachment :: rest, pass =>
      attachment.visits pass ++
        Outcome.afterwards (fun _ => visits rest)
          (Pass.addLogic attachment.logic attachment.scheduling pass)

theorem addAttachments_cons_eq_ok_iff {attachment : Attachment σ} {rest : List (Attachment σ)}
    {pass after : Pass β σ} :
    addAttachments (attachment :: rest) pass = .ok () after <->
      ∃ middle, Pass.addLogic attachment.logic attachment.scheduling pass = .ok () middle ∧
        addAttachments rest middle = .ok () after := by
  rw [addAttachments, Outcome.bind_eq_ok_iff]
  constructor
  · rintro ⟨_, middle, first, later⟩
    exact ⟨middle, first, later⟩
  · rintro ⟨middle, first, later⟩
    exact ⟨(), middle, first, later⟩

theorem evaluates_addAttachments (attachments : List (Attachment σ)) (pass : Pass β σ) :
    Outcome.Evaluates Pass.store (addAttachments attachments) pass
      (evaluationsAt (visits attachments pass)) := by
  induction attachments generalizing pass with
  | nil => exact .of_keeps (.pure ())
  | cons attachment rest inductionHypothesis =>
      have both := (Pass.evaluates_addLogic attachment pass).bind fun _ middle _ =>
        inductionHypothesis middle
      unfold evaluationsAt at both ⊢
      rw [visits, List.filterMap_append, Outcome.filterMap_afterwards]
      exact both

theorem visits_prefix (attachments : List (Attachment σ)) (pass : Pass β σ) :
    (visits attachments pass).map Pass.Visit.capture <+:
      attachments.flatMap Attachment.captured := by
  induction attachments generalizing pass with
  | nil => exact List.prefix_refl []
  | cons attachment rest inductionHypothesis =>
      rw [visits, List.map_append, List.flatMap_cons]
      cases outcome : Pass.addLogic attachment.logic attachment.scheduling pass with
      | ok done middle =>
          rw [Attachment.visits_of_ok outcome, List.prefix_append_right_inj]
          exact inductionHypothesis middle
      | error error middle =>
          rw [Outcome.afterwards, List.map_nil, List.append_nil]
          exact (Attachment.visits_prefix attachment pass).trans (List.prefix_append _ _)

/-- A command whose captured values bind nothing leaves the slots as they are. -/
theorem bound_addLogic {attachment : Attachment σ} (pass : Pass β σ)
    (keep : forall capture, capture ∈ attachment.captured -> capture.KeepsSlots) :
    (Outcome.state (Pass.addLogic attachment.logic attachment.scheduling pass)).store.bound =
      pass.store.bound :=
  (Pass.evaluates_addLogic attachment pass).bound
    (Pass.keepsSlots_evaluationsAt (attachment.visits_prefix pass) keep)

/-- If no captured value binds anything, a pass comes to each with the slots as
they were at first. -/
theorem bound_of_mem_visits {attachments : List (Attachment σ)} {pass : Pass β σ}
    {visit : Pass.Visit β σ}
    (keep : forall attachment, attachment ∈ attachments ->
      forall capture, capture ∈ attachment.captured -> capture.KeepsSlots)
    (member : visit ∈ visits attachments pass) : visit.pass.store.bound = pass.store.bound := by
  induction attachments generalizing pass with
  | nil => exact absurd member List.not_mem_nil
  | cons attachment rest inductionHypothesis =>
      rw [List.forall_mem_cons] at keep
      rcases List.mem_append.mp member with here | later
      · cases entered : pass.space with
        | none =>
            rw [Attachment.visits_of_outside entered] at here
            exact absurd here List.not_mem_nil
        | some space =>
            rw [Attachment.visits_of_entered entered] at here
            refine Pass.bound_of_mem_visits (fun entry captured => ?_) here
            exact keep.1 entry.2 (List.mem_map_of_mem captured)
      · rcases Outcome.mem_afterwards_iff.mp later with ⟨done, middle, added, come⟩
        have kept := bound_addLogic pass keep.1
        rw [added] at kept
        exact (inductionHypothesis keep.2 come).trans kept

/-- If all commands are replayed, the pass came to all captured values. -/
theorem visits_of_ok {attachments : List (Attachment σ)} {pass after : Pass β σ}
    (replayed : addAttachments attachments pass = .ok () after) :
    (visits attachments pass).map Pass.Visit.capture = attachments.flatMap Attachment.captured := by
  induction attachments generalizing pass with
  | nil => rfl
  | cons attachment rest inductionHypothesis =>
      rcases addAttachments_cons_eq_ok_iff.mp replayed with ⟨middle, first, later⟩
      rw [visits, List.map_append, Attachment.visits_of_ok first, first, Outcome.afterwards,
        inductionHypothesis later, List.flatMap_cons]

section Positions

variable {attachment : Attachment σ} {rest : List (Attachment σ)} {position : Nat}

/-- The first captured values that a pass comes to are those of the first
command. -/
theorem getElem?_visits_of_lt (within : position < attachment.captured.length)
    (pass : Pass β σ) :
    (visits (attachment :: rest) pass)[position]? = (attachment.visits pass)[position]? := by
  rw [visits]
  cases outcome : Pass.addLogic attachment.logic attachment.scheduling pass with
  | ok done middle =>
      have counted := congrArg List.length (Attachment.visits_of_ok outcome)
      rw [List.length_map] at counted
      exact List.getElem?_append_left (counted ▸ within)
  | error error middle => rw [Outcome.afterwards, List.append_nil]

/-- The others are those of the commands that follow it. -/
theorem getElem?_visits_add (pass : Pass β σ) :
    (visits (attachment :: rest) pass)[attachment.captured.length + position]? =
      (Outcome.afterwards (fun _ => visits rest)
        (Pass.addLogic attachment.logic attachment.scheduling pass))[position]? := by
  rw [visits]
  cases outcome : Pass.addLogic attachment.logic attachment.scheduling pass with
  | ok done middle =>
      have counted := congrArg List.length (Attachment.visits_of_ok outcome)
      rw [List.length_map] at counted
      rw [← counted, List.getElem?_append_right (Nat.le_add_right _ _), Nat.add_sub_cancel_left]
  | error error middle =>
      have bounded := (Attachment.visits_prefix attachment pass).length_le
      rw [List.length_map] at bounded
      rw [Outcome.afterwards, List.append_nil, List.getElem?_nil, List.getElem?_eq_none]
      exact Nat.le_trans bounded (Nat.le_add_right _ _)

end Positions

/-- A pass comes to a captured value when all commands before it are replayed and
all values before it in its command resolve. -/
theorem getElem?_visits {before rest : List (Attachment σ)} {attachment : Attachment σ}
    {earlier later : List (String × Capture σ)} {entry : String × Capture σ}
    (captured : attachment.logic.captures = earlier ++ entry :: later) (pass visited : Pass β σ) :
    (visits (before ++ attachment :: rest) pass)[(before.flatMap Attachment.captured).length +
        earlier.length]? = some ⟨visited, entry.2⟩ <->
      ∃ middle space replacements, addAttachments before pass = .ok () middle ∧
        middle.space = some space ∧
        Pass.resolveAll attachment.logic.name earlier middle = .ok replacements visited := by
  induction before generalizing pass with
  | nil =>
      have within : earlier.length < attachment.captured.length := by
        rw [Attachment.captured, captured]
        simp
      rw [List.nil_append, List.flatMap_nil, List.length_nil, Nat.zero_add,
        getElem?_visits_of_lt within]
      cases entered : pass.space with
      | none =>
          rw [Attachment.visits_of_outside entered]
          constructor
          · intro impossible
            cases impossible
          · rintro ⟨middle, space, replacements, replayed, inside, _⟩
            cases replayed
            rw [entered] at inside
            cases inside
      | some space =>
          rw [Attachment.visits_of_entered entered, captured, Pass.getElem?_visits]
          constructor
          · rintro ⟨replacements, resolved⟩
            exact ⟨pass, space, replacements, rfl, entered, resolved⟩
          · rintro ⟨middle, _, replacements, replayed, _, resolved⟩
            cases replayed
            exact ⟨replacements, resolved⟩
  | cons first others inductionHypothesis =>
      rw [List.cons_append, List.flatMap_cons, List.length_append, Nat.add_assoc,
        getElem?_visits_add]
      simp only [addAttachments_cons_eq_ok_iff]
      cases outcome : Pass.addLogic first.logic first.scheduling pass with
      | ok done next =>
          refine (inductionHypothesis next).trans ?_
          constructor
          · rintro ⟨middle, space, replacements, replayed, inside, resolved⟩
            exact ⟨middle, space, replacements, ⟨next, rfl, replayed⟩, inside, resolved⟩
          · rintro ⟨middle, space, replacements, ⟨_, same, replayed⟩, inside, resolved⟩
            cases same
            exact ⟨middle, space, replacements, replayed, inside, resolved⟩
      | error error next =>
          constructor
          · intro impossible
            cases impossible
          · rintro ⟨middle, space, replacements, ⟨_, impossible, _⟩, _⟩
            cases impossible

end Nest

end LoopNest
