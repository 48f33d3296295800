import LoopNest.Proofs.Declaration.Parameters
import LoopNest.Proofs.Plan.Evaluations
import LoopNest.Proofs.Plan.Success

namespace LoopNest

/-!
# The slots of parameters in a pass

A pass applies its bindings, consults the store whenever it resolves an extent or
a captured value, and releases the bindings in the end.  Its own parts bind
nothing.  If the rules of the client bind nothing either, then all that the pass
evaluates is evaluated with the slots bound as the bindings left them, and when
the pass is over the slots of the bindings are empty and all others are what they
were.
-/

namespace Plan

variable {σ : Type}

/-- No rule that a pass over the plan runs binds or releases anything. -/
structure KeepsSlots (plan : Plan σ) : Prop where
  extents : forall extent, extent ∈ plan.nest.declaredShape -> extent.KeepsSlots
  captures : forall capture, capture ∈ plan.nest.captured -> capture.KeepsSlots

theorem KeepsSlots.attachment {plan : Plan σ} (keeps : plan.KeepsSlots) {attachment : Attachment σ}
    (attached : attachment ∈ plan.nest.attachments) :
    forall capture, capture ∈ attachment.captured -> capture.KeepsSlots := by
  intro capture captured
  exact keeps.captures capture (List.mem_flatMap.mpr ⟨attachment, attached, captured⟩)

end Plan

/-- What the slots read while the puts are bound over a store: each parameter the
number that was put last for it, and all other slots what the store has. -/
structure Bindings.InForce {σ : Type} (puts : List (Deferred σ × Int)) (store : Store σ)
    (reads : Slot -> Option Int) : Prop where
  parameters : forall parameter slot, parameter ∈ (ofPuts puts).handles ->
    parameter.slot? = some slot ->
      ∃ number, lastPut? puts parameter.id = some number ∧ reads slot = some number
  others : forall slot, slot ∉ (ofPuts puts).slots -> reads slot = store.read? slot

/-- Bindings are in force once they are applied. -/
theorem Bindings.inForce_applied {σ : Type} {puts : List (Deferred σ × Int)}
    (slotsTold : Deferred.SlotsTold (puts.map Prod.fst)) (store : Store σ) :
    InForce puts store ((ofPuts puts).applied store).read? where
  parameters _ _ held located := read?_applied_ofPuts slotsTold store held located
  others _ free := (ofPuts puts).read?_applied_of_notMem store free

namespace Lowering

variable {β σ : Type} [Backend σ β]

section Slots

variable {arguments : Arguments σ} {bindings : Bindings σ} {lowering : Lowering β σ}

/-- A pass that evaluates anything has its bindings applied. -/
theorem apply_of_mem_evaluations {evaluation : Evaluation σ}
    (member : evaluation ∈ lowering.evaluations arguments bindings) :
    bindings.apply lowering.store = .ok () (bindings.applied lowering.store) := by
  cases application : bindings.apply lowering.store with
  | error error applied =>
      rw [evaluations_of_unapplied arguments application] at member
      exact absurd member List.not_mem_nil
  | ok done applied => rw [((bindings.apply_eq_ok_iff _ _ _).mp application).2]

/-- Nothing that the pass evaluates binds anything. -/
theorem keepsSlots_evaluations (keeps : lowering.plan.KeepsSlots) :
    forall evaluation, evaluation ∈ lowering.evaluations arguments bindings ->
      evaluation.KeepsSlots := by
  intro evaluation member
  have application := apply_of_mem_evaluations member
  rw [evaluations_of_applied arguments application] at member
  rcases List.mem_append.mp member with extent | captured
  · have listed := (Evaluation.executed_prefix _ _).subset extent
    rcases List.mem_filterMap.mp listed with ⟨declared, shaped, made⟩
    cases declared with
    | fixed number => cases made
    | deferred value =>
        cases made
        exact keeps.extents _ shaped
  · have come := visits_prefix arguments bindings lowering
    exact Pass.keepsSlots_evaluationsAt come keeps.captures evaluation captured

/-- The pass comes to every captured value with the slots bound as the bindings
left them. -/
theorem bound_of_mem_visits (keeps : lowering.plan.KeepsSlots) {visit : Pass.Visit β σ}
    (member : visit ∈ lowering.visits arguments bindings) :
    visit.pass.store.bound = (bindings.applied lowering.store).bound := by
  unfold visits at member
  cases opened : lowering.opened? arguments bindings with
  | none =>
      rw [opened] at member
      exact absurd member List.not_mem_nil
  | some pass =>
      rw [opened] at member
      rcases (opened?_eq_some_iff pass).mp opened with ⟨applied, resolved, numbers, opens⟩
      have commands : forall attachment, attachment ∈ lowering.plan.nest.attachments ->
          forall capture, capture ∈ attachment.captured -> capture.KeepsSlots :=
        fun attachment attached => keeps.attachment attached
      calc visit.pass.store.bound
          = pass.store.bound := Nest.bound_of_mem_visits commands member
        _ = resolved.bound :=
              congrArg Store.bound ((Nest.keepsStore_buildSpace _).of_ok opens.building)
        _ = applied.bound :=
              (Extent.keepsSlots_mapM_resolve keeps.extents).of_ok opens.resolution
        _ = (bindings.applied lowering.store).bound := by
              rw [((bindings.apply_eq_ok_iff _ _ _).mp opens.application).2]

/-- When a pass ends, the bindings are released from a store that is bound as it
was at the start or as the bindings left it. -/
theorem bound_of_makes (keeps : lowering.plan.KeepsSlots) {last : Store σ} {complete : Bool}
    (makes : Evaluation.Makes (Outcome.state (bindings.apply lowering.store))
      (lowering.evaluations arguments bindings) last complete) :
    last.bound = lowering.store.bound ∨
      last.bound = (bindings.applied lowering.store).bound := by
  have kept := makes.bound (keepsSlots_evaluations keeps)
  cases application : bindings.apply lowering.store with
  | error error applied =>
      rw [application] at kept
      exact .inl (kept.trans (congrArg Store.bound (bindings.eq_of_apply_error application)))
  | ok done applied =>
      rw [application] at kept
      have written := ((bindings.apply_eq_ok_iff _ _ _).mp application).2
      exact .inr (kept.trans (congrArg Store.bound written))

/-- Every evaluation is made while the slots are bound as the bindings left them. -/
theorem exists_before_of_makes (keeps : lowering.plan.KeepsSlots) {last : Store σ}
    {complete : Bool}
    (makes : Evaluation.Makes (Outcome.state (bindings.apply lowering.store))
      (lowering.evaluations arguments bindings) last complete)
    {earlier later : List (Evaluation σ)} {evaluation : Evaluation σ}
    (split : lowering.evaluations arguments bindings = earlier ++ evaluation :: later) :
    ∃ store, Evaluation.Makes (Outcome.state (bindings.apply lowering.store)) earlier store true ∧
      store.read? = (bindings.applied lowering.store).read? := by
  have keep : forall other, other ∈ lowering.evaluations arguments bindings -> other.KeepsSlots :=
    keepsSlots_evaluations keeps
  have here : evaluation ∈ lowering.evaluations arguments bindings := by
    rw [split]
    exact List.mem_append_right _ List.mem_cons_self
  rw [split] at makes keep
  rcases makes.exists_before with ⟨store, before⟩
  have bound := before.bound fun other member => keep other (List.mem_append_left _ member)
  rw [apply_of_mem_evaluations here] at bound
  exact ⟨store, before, Store.read?_of_bound bound⟩

/-- The client is told what the slots read by the rules that the pass runs, and by
nothing else.  All of them read what the bindings left. -/
theorem journal_of_makes (keeps : lowering.plan.KeepsSlots) {last : Store σ} {complete : Bool}
    (makes : Evaluation.Makes (Outcome.state (bindings.apply lowering.store))
      (lowering.evaluations arguments bindings) last complete)
    {ν : Type} {journal : σ -> List ν} {notes : Evaluation σ -> (Slot -> Option Int) -> List ν}
    (noted : forall evaluation, evaluation ∈ lowering.evaluations arguments bindings ->
      forall store : Store σ, journal (evaluation.after store).client =
        journal store.client ++ notes evaluation store.read?) :
    journal last.client = journal lowering.store.client ++
      (lowering.evaluations arguments bindings).flatMap fun evaluation =>
        notes evaluation (bindings.applied lowering.store).read? := by
  have told := makes.journal_bound (keepsSlots_evaluations keeps) noted
  rw [bindings.client_apply] at told
  rw [told]
  congr 1
  refine List.flatMap_congr fun evaluation member => ?_
  rw [apply_of_mem_evaluations member, Outcome.state]

end Slots

/-- However a pass ends, the slots of the parameters in its bindings are empty
afterwards, and all other slots are what they were.

As long as the pass lasts the slots read alike: each parameter in the bindings the
number that was put last for it, and all other slots what they were.  From the
applied bindings to their release the store changes by the evaluations of the pass
only, which are those of the extents and then those of the captured values that it
comes to.  Each of them is made while the slots read so, and a journal in which
the rules of the client note what they read tells the same.

The rules bind nothing, and a slot belongs to one parameter. -/
theorem slots_in_pass (puts : List (Deferred σ × Int)) (arguments : Arguments σ)
    {lowering : Lowering β σ} (keeps : lowering.plan.KeepsSlots)
    (slotsTold : Deferred.SlotsTold (puts.map Prod.fst)) :
    let bindings := Bindings.ofPuts puts
    let applied := Outcome.state (bindings.apply lowering.store)
    let after := Outcome.state (lower arguments bindings lowering)
    let evaluations := lowering.evaluations arguments bindings
    let visits := lowering.visits arguments bindings
    (forall slot, slot ∈ bindings.slots -> after.store.read? slot = none) ∧
    (forall slot, slot ∉ bindings.slots ->
      after.store.read? slot = lowering.store.read? slot) ∧
    (∃ last complete, Evaluation.Makes applied evaluations last complete ∧
      after.store = bindings.release last ∧
      (Outcome.Succeeds (lower arguments bindings) lowering -> complete = true)) ∧
    (evaluations <+: lowering.plan.nest.resolutions ∧ visits = [] ∨
      evaluations = lowering.plan.nest.resolutions ++ Pass.evaluationsAt visits) ∧
    ∃ reads : Slot -> Option Int, Bindings.InForce puts lowering.store reads ∧
      (forall earlier evaluation later, evaluations = earlier ++ evaluation :: later ->
        ∃ store, Evaluation.Makes applied earlier store true ∧ store.read? = reads) ∧
      (forall visit, visit ∈ visits -> visit.pass.store.read? = reads) ∧
      forall (ν : Type) (journal : σ -> List ν)
        (notes : Evaluation σ -> (Slot -> Option Int) -> List ν),
        (forall evaluation, evaluation ∈ evaluations -> forall store : Store σ,
          journal (evaluation.after store).client =
            journal store.client ++ notes evaluation store.read?) ->
        journal after.store.client = journal lowering.store.client ++
          evaluations.flatMap fun evaluation => notes evaluation reads := by
  intro bindings applied after evaluations visits
  have made := exists_makes arguments bindings lowering
  rcases id made with ⟨last, complete, makes, released, _⟩
  refine ⟨?released, ?kept, made, ?split, (bindings.applied lowering.store).read?,
    Bindings.inForce_applied slotsTold lowering.store, ?evaluations, ?visits, ?journal⟩
  case released =>
    intro slot held
    change (Outcome.state (lower arguments bindings lowering)).store.read? slot = none
    rw [released, Bindings.read?_release, if_pos held]
  case kept =>
    intro slot free
    change (Outcome.state (lower arguments bindings lowering)).store.read? slot = _
    rw [released, Bindings.read?_release, if_neg free]
    rcases bound_of_makes keeps makes with untouched | applied
    · exact congrFun (Store.read?_of_bound untouched) slot
    · exact (congrFun (Store.read?_of_bound applied) slot).trans
        (bindings.read?_applied_of_notMem lowering.store free)
  case split =>
    rcases extents_first arguments bindings lowering with
      ⟨begun, none, _⟩ | ⟨_, _, _, split, _⟩
    · exact .inl ⟨begun, none⟩
    · exact .inr split
  case evaluations =>
    intro earlier evaluation later split
    exact exists_before_of_makes keeps makes split
  case visits =>
    intro visit member
    exact Store.read?_of_bound (bound_of_mem_visits keeps member)
  case journal =>
    intro ν journal notes noted
    change journal (Outcome.state (lower arguments bindings lowering)).store.client = _
    rw [released, bindings.client_release]
    exact journal_of_makes keeps makes noted

end Lowering

/-! ## A pass in which the rows are watched -/

namespace Sample

/-- The first parameter of a client that keeps what it finds bound. -/
def watchedRows : Deferred (List (Option Int)) :=
  ⟨⟨0⟩, "rows", .parameter 0⟩

/-- Two columns.  The rule notes how many rows are bound when it is run. -/
def watching : Deferred (List (Option Int)) :=
  ⟨⟨1⟩, "columns", .derived fun store =>
    .ok 2 { store with client := store.client ++ [store.read? 0] }⟩

/-- A nest over these columns, without logic. -/
def watchingNest : Nest (List (Option Int)) :=
  ⟨⟨0⟩, [⟨⟨⟨2⟩, ⟨0⟩, 0⟩, .deferred watching, .deferred watching⟩], [], []⟩

/-- Seven is bound in the slot after that of the rows. -/
def watchingLowering : Lowering (Recorder (List (Option Int))) (List (Option Int)) :=
  ⟨(Schedule.ofNest watchingNest).plan .host, Recorder.empty, (Store.initial []).write 1 7⟩

/-- Three rows, and then four. -/
def watchedPuts : List (Deferred (List (Option Int)) × Int) :=
  [(watchedRows, 3), (watchedRows, 4)]

/-- Only the columns are resolved in the pass. -/
theorem evaluations_watchingLowering :
    watchingLowering.evaluations ⟨[], []⟩ (Bindings.ofPuts watchedPuts) = [.resolve watching] := by
  have come := Lowering.visits_prefix ⟨[], []⟩ (Bindings.ofPuts watchedPuts) watchingLowering
  have none : watchingLowering.visits ⟨[], []⟩ (Bindings.ofPuts watchedPuts) = [] :=
    List.map_eq_nil_iff.mp (List.prefix_nil.mp come)
  have application : (Bindings.ofPuts watchedPuts).apply watchingLowering.store = .ok () _ := rfl
  have split := Lowering.evaluations_of_applied ⟨[], []⟩ application
  rw [none] at split
  exact split

end Sample

namespace Lowering

/-- Four rows are bound after three.  The rule that is run in the pass notes four,
afterwards there are none, and a value bound in another slot stays. -/
theorem rows_are_released :
    let after := Outcome.state
      (lower ⟨[], []⟩ (Bindings.ofPuts Sample.watchedPuts) Sample.watchingLowering)
    after.store.read? 0 = none ∧ after.store.read? 1 = some 7 ∧
      after.store.client = [some 4] := by
  intro after
  have declared : Deferred.Declared _ [Sample.watchedRows] :=
    .parameter (.nothing []) "rows" Arena.empty
  have slotsTold : Deferred.SlotsTold (Sample.watchedPuts.map Prod.fst) := by
    refine declared.slotsTold ?_
    simp [Sample.watchedPuts]
  have keeps : Sample.watchingLowering.plan.KeepsSlots := by
    refine ⟨fun extent member => ?_, fun capture member => absurd member List.not_mem_nil⟩
    cases List.mem_singleton.mp member
    exact fun store => rfl
  rcases slots_in_pass Sample.watchedPuts ⟨[], []⟩ keeps slotsTold with
    ⟨emptied, unchanged, _, _, reads, inForce, _, _, journal⟩
  have noted := journal (Option Int) id (fun _ reads => [reads 0]) (by
    rw [Sample.evaluations_watchingLowering, List.forall_mem_singleton]
    exact fun store => rfl)
  rcases inForce.parameters Sample.watchedRows 0 List.mem_cons_self rfl with ⟨number, last, read⟩
  cases last
  refine ⟨emptied 0 (by decide), (unchanged 1 (by decide)).trans (Store.read?_write _ 1 1 7), ?_⟩
  rw [Sample.evaluations_watchingLowering, List.flatMap_singleton, read] at noted
  exact noted

end Lowering

end LoopNest
