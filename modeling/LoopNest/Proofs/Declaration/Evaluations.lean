import LoopNest.Proofs.Declaration.Slots

namespace LoopNest

/-!
# Evaluations

Code of the client runs in a pass when a deferred integer is resolved and when
the elements of a sequence are produced.  Both may change the store and both may
fail, so it matters which evaluations are made and in what order.

What a step evaluates is told by a list.  The list is right when the store
changes by these evaluations, in their order, and by nothing else, and when a
failing evaluation is the last one and makes the step fail.  Since this is said
of all rules, it leaves no room for another list.
-/

/-- What runs code of the client. -/
inductive Evaluation (σ : Type) where
  /-- Resolve a deferred integer. -/
  | resolve (value : Deferred σ)
  /-- Produce the elements of a sequence. -/
  | produce (rule : EStateM String (Store σ) (List (Capture σ)))

namespace Evaluation

variable {σ : Type}

/-- The store after the evaluation, whether it gave a result or failed. -/
def after (store : Store σ) : Evaluation σ -> Store σ
  | .resolve value => Outcome.state (value.resolve store)
  | .produce rule => Outcome.state (rule store)

/-- The evaluation gives a result in this store. -/
def Succeeds (store : Store σ) : Evaluation σ -> Prop
  | .resolve value => Outcome.Succeeds value.resolve store
  | .produce rule => Outcome.Succeeds rule store

instance (store : Store σ) (evaluation : Evaluation σ) : Decidable (evaluation.Succeeds store) :=
  match evaluation with
  | .resolve value => inferInstanceAs (Decidable (Outcome.Succeeds value.resolve store))
  | .produce rule => inferInstanceAs (Decidable (Outcome.Succeeds rule store))

/-- The evaluations are made in order, which leads from the first store to the
last.  If they are complete all of them succeed, and otherwise the last one
fails, which no other does. -/
inductive Makes : Store σ -> List (Evaluation σ) -> Store σ -> (complete : Bool) -> Prop
  | nil {store : Store σ} : Makes store [] store true
  | cons {store last : Store σ} {evaluation : Evaluation σ} {rest : List (Evaluation σ)}
      {complete : Bool} (succeeds : evaluation.Succeeds store)
      (later : Makes (evaluation.after store) rest last complete) :
      Makes store (evaluation :: rest) last complete
  | fail {store : Store σ} {evaluation : Evaluation σ} (fails : ¬evaluation.Succeeds store) :
      Makes store [evaluation] (evaluation.after store) false

theorem Makes.append {store middle last : Store σ} {first second : List (Evaluation σ)}
    {complete : Bool} (begun : Makes store first middle true)
    (later : Makes middle second last complete) : Makes store (first ++ second) last complete := by
  induction first generalizing store with
  | nil =>
      cases begun
      exact later
  | cons evaluation rest inductionHypothesis =>
      cases begun with
      | cons succeeds others => exact .cons succeeds (inductionHypothesis others)

/-- Of complete evaluations the first succeeds, and the others are complete. -/
theorem Makes.of_cons {store last : Store σ} {evaluation : Evaluation σ}
    {rest : List (Evaluation σ)} (makes : Makes store (evaluation :: rest) last true) :
    evaluation.Succeeds store ∧ Makes (evaluation.after store) rest last true := by
  cases makes with
  | cons succeeds later => exact ⟨succeeds, later⟩

/-- Let the evaluations keep to stores of one kind, and let each leave its notes in
a journal of the client when it is made in such a store.  Then the journal tells
which evaluations were made. -/
theorem Makes.journal_while {ν : Type} (held : Store σ -> Prop) {journal : σ -> List ν}
    {notes : Evaluation σ -> List ν} {store last : Store σ} {evaluations : List (Evaluation σ)}
    {complete : Bool} (makes : Makes store evaluations last complete) (begun : held store)
    (keeps : forall evaluation, evaluation ∈ evaluations -> forall store : Store σ,
      held store -> held (evaluation.after store))
    (noted : forall evaluation, evaluation ∈ evaluations -> forall store : Store σ,
      held store -> journal (evaluation.after store).client =
        journal store.client ++ notes evaluation) :
    journal last.client = journal store.client ++ evaluations.flatMap notes := by
  induction makes with
  | nil => exact (List.append_nil _).symm
  | cons succeeds later inductionHypothesis =>
      rw [List.forall_mem_cons] at keeps noted
      rw [inductionHypothesis (keeps.1 _ begun) keeps.2 noted.2, noted.1 _ begun,
        List.flatMap_cons, List.append_assoc]
  | fail fails =>
      rw [noted _ List.mem_cons_self _ begun, List.flatMap_singleton]

/-- If every evaluation leaves its notes in a journal of the client, the journal
tells which evaluations were made. -/
theorem Makes.journal {ν : Type} {journal : σ -> List ν} {notes : Evaluation σ -> List ν}
    {store last : Store σ} {evaluations : List (Evaluation σ)} {complete : Bool}
    (makes : Makes store evaluations last complete)
    (noted : forall evaluation, evaluation ∈ evaluations -> forall store : Store σ,
      journal (evaluation.after store).client = journal store.client ++ notes evaluation) :
    journal last.client = journal store.client ++ evaluations.flatMap notes :=
  makes.journal_while (fun _ => True) trivial (fun _ _ _ _ => trivial)
    fun evaluation member store _ => noted evaluation member store

/-- An evaluation is made in the store that those before it left, which all
succeeded. -/
theorem Makes.exists_before {store last : Store σ} {earlier later : List (Evaluation σ)}
    {evaluation : Evaluation σ} {complete : Bool}
    (makes : Makes store (earlier ++ evaluation :: later) last complete) :
    ∃ middle, Makes store earlier middle true := by
  induction earlier generalizing store with
  | nil => exact ⟨store, .nil⟩
  | cons first rest inductionHypothesis =>
      rw [List.cons_append] at makes
      generalize others : rest ++ evaluation :: later = behind at makes
      cases makes with
      | cons succeeds made =>
          rcases inductionHypothesis (others ▸ made) with ⟨middle, before⟩
          exact ⟨middle, .cons succeeds before⟩
      | fail fails =>
          exact absurd others (List.append_ne_nil_of_right_ne_nil _ (List.cons_ne_nil _ _))

/-! ## Evaluations that bind nothing -/

/-- The evaluation binds and releases nothing. -/
def KeepsSlots : Evaluation σ -> Prop
  | .resolve value => value.KeepsSlots
  | .produce rule => Store.KeepsSlots rule

theorem KeepsSlots.bound_after {evaluation : Evaluation σ} (keeps : evaluation.KeepsSlots)
    (store : Store σ) : (evaluation.after store).bound = store.bound := by
  cases evaluation with
  | resolve value => exact Deferred.KeepsSlots.resolve keeps store
  | produce rule => exact keeps store

section KeepSlots

variable {store last : Store σ} {evaluations : List (Evaluation σ)} {complete : Bool}
  (makes : Makes store evaluations last complete)
  (keep : forall evaluation, evaluation ∈ evaluations -> evaluation.KeepsSlots)
include makes keep

theorem Makes.bound : last.bound = store.bound := by
  induction makes with
  | nil => rfl
  | cons succeeds later inductionHypothesis =>
      rw [List.forall_mem_cons] at keep
      exact (inductionHypothesis keep.2).trans (keep.1.bound_after _)
  | fail fails => exact (keep _ List.mem_cons_self).bound_after _

/-- What such evaluations note of the slots, they all note of the slots as they
were at first. -/
theorem Makes.journal_bound {ν : Type} {journal : σ -> List ν}
    {notes : Evaluation σ -> (Slot -> Option Int) -> List ν}
    (noted : forall evaluation, evaluation ∈ evaluations -> forall store : Store σ,
      journal (evaluation.after store).client =
        journal store.client ++ notes evaluation store.read?) :
    journal last.client =
      journal store.client ++
        evaluations.flatMap fun evaluation => notes evaluation store.read? := by
  refine makes.journal_while (fun current => current.bound = store.bound) rfl ?_ ?_
  · intro evaluation member current same
    exact ((keep evaluation member).bound_after current).trans same
  · intro evaluation member current same
    rw [noted evaluation member, Store.read?_of_bound same]

end KeepSlots

/-- The evaluations up to the first one that fails. -/
def executed (store : Store σ) : List (Evaluation σ) -> List (Evaluation σ)
  | [] => []
  | evaluation :: rest =>
      evaluation :: if evaluation.Succeeds store then executed (evaluation.after store) rest else []

theorem executed_prefix (store : Store σ) (evaluations : List (Evaluation σ)) :
    executed store evaluations <+: evaluations := by
  induction evaluations generalizing store with
  | nil => exact List.prefix_refl []
  | cons evaluation rest inductionHypothesis =>
      rw [executed, List.prefix_cons_inj]
      split
      · exact inductionHypothesis _
      · exact List.nil_prefix

/-- If none of them fails, all are executed. -/
theorem executed_eq_of_makes {store last : Store σ} {evaluations : List (Evaluation σ)}
    (makes : Makes store (executed store evaluations) last true) :
    executed store evaluations = evaluations := by
  induction evaluations generalizing store with
  | nil => rfl
  | cons evaluation rest inductionHypothesis =>
      rw [executed] at makes
      rcases makes.of_cons with ⟨succeeds, later⟩
      rw [if_pos succeeds] at later
      rw [executed, if_pos succeeds, inductionHypothesis later]

end Evaluation

namespace Outcome

variable {ε τ σ α β : Type} {view : τ -> Store σ}

/-- In the state before, the step makes these evaluations on the store that is in
view, and does nothing else to it.  It gives a result only if none of them
fails. -/
def Evaluates (view : τ -> Store σ) (step : EStateM ε τ α) (before : τ)
    (evaluations : List (Evaluation σ)) : Prop :=
  ∃ complete, Evaluation.Makes (view before) evaluations (view (state (step before))) complete ∧
    (Succeeds step before -> complete = true)

namespace Evaluates

variable {before : τ} {evaluations : List (Evaluation σ)}

/-- A step that leaves the store as it is evaluates nothing. -/
theorem of_keeps {step : EStateM ε τ α} (keeps : Keeps view step) :
    Evaluates view step before [] := by
  refine ⟨true, ?_, fun _ => rfl⟩
  rw [keeps before]
  exact .nil

/-- What a step evaluates is followed by what the next one evaluates, if there is
a result to go on with. -/
theorem bind {first : EStateM ε τ α} {next : α -> EStateM ε τ β}
    {others : α -> τ -> List (Evaluation σ)} (begun : Evaluates view first before evaluations)
    (continued : forall value middle, first before = .ok value middle ->
      Evaluates view (next value) middle (others value middle)) :
    Evaluates view (first >>= next) before (evaluations ++ afterwards others (first before)) := by
  rcases begun with ⟨complete, makes, completes⟩
  unfold Evaluates
  cases outcome : first before with
  | ok value middle =>
      rcases continued value middle outcome with ⟨last, later, ended⟩
      cases completes ⟨value, middle, outcome⟩
      rw [outcome] at makes
      refine ⟨last, ?_, ?_⟩
      · rw [bind_of_ok outcome]
        exact makes.append later
      · rintro ⟨result, after, done⟩
        rw [bind_of_ok outcome] at done
        exact ended ⟨result, after, done⟩
  | error error middle =>
      rw [outcome] at makes
      refine ⟨complete, ?_, ?_⟩
      · rw [bind_of_error outcome, afterwards, List.append_nil]
        exact makes
      · rintro ⟨result, after, done⟩
        rw [bind_of_error outcome] at done
        cases done

/-- A step is followed by others that leave the store as it is. -/
theorem followed {first : EStateM ε τ α} {next : α -> EStateM ε τ β}
    (begun : Evaluates view first before evaluations)
    (keeps : forall value, Keeps view (next value)) :
    Evaluates view (first >>= next) before evaluations := by
  have both := begun.bind fun value middle _ => of_keeps (keeps value)
  have nothing : afterwards (fun _ _ => []) (first before) = ([] : List (Evaluation σ)) := by
    cases first before <;> rfl
  rw [nothing, List.append_nil] at both
  exact both

theorem bound {step : EStateM ε τ α} (evaluates : Evaluates view step before evaluations)
    (keep : forall evaluation, evaluation ∈ evaluations -> evaluation.KeepsSlots) :
    (view (state (step before))).bound = (view before).bound := by
  rcases evaluates with ⟨_, makes, _⟩
  exact makes.bound keep

/-- Only the outcome from this state matters. -/
theorem congr {step other : EStateM ε τ α} (same : step before = other before)
    (evaluates : Evaluates view other before evaluations) :
    Evaluates view step before evaluations := by
  unfold Evaluates Succeeds at evaluates ⊢
  rw [same]
  exact evaluates

theorem get_bind {next : τ -> EStateM ε τ β}
    (continued : Evaluates view (next before) before evaluations) :
    Evaluates view (MonadState.get >>= next) before evaluations :=
  continued.congr (bind_of_ok rfl next)

end Evaluates

end Outcome

namespace Extent

variable {σ : Type}

/-- What resolving the extent evaluates. -/
def evaluation? : Extent σ -> Option (Evaluation σ)
  | .fixed _ => none
  | .deferred value => some (.resolve value)

theorem evaluates_resolve (value : Deferred σ) (store : Store σ) :
    Outcome.Evaluates id value.resolve store [.resolve value] := by
  by_cases succeeds : Outcome.Succeeds value.resolve store
  · exact ⟨true, .cons succeeds .nil, fun _ => rfl⟩
  · exact ⟨false, .fail succeeds, fun done => absurd done succeeds⟩

/-- Resolving extents resolves the deferred ones in order, up to the first that
fails. -/
theorem evaluates_mapM_resolve (extents : List (Extent σ)) (store : Store σ) :
    Outcome.Evaluates id (extents.mapM resolve) store
      (Evaluation.executed store (extents.filterMap evaluation?)) := by
  induction extents generalizing store with
  | nil =>
      rw [List.mapM_nil]
      exact .of_keeps (.pure [])
  | cons extent rest inductionHypothesis =>
      have later (number : Int) (store : Store σ) :=
        (inductionHypothesis store).followed fun numbers => .pure (number :: numbers)
      rw [List.mapM_cons]
      cases extent with
      | fixed value =>
          rw [List.filterMap_cons_none rfl]
          exact (later value store).congr (Outcome.bind_of_ok rfl _)
      | deferred value =>
          have both := (evaluates_resolve value store).bind fun number middle _ =>
            later number middle
          have listed : (deferred value :: rest).filterMap evaluation? =
              .resolve value :: rest.filterMap evaluation? := List.filterMap_cons_some rfl
          rw [listed, Evaluation.executed]
          cases outcome : value.resolve store with
          | ok number middle =>
              have succeeds : (Evaluation.resolve value).Succeeds store := ⟨number, middle, outcome⟩
              have next : (Evaluation.resolve value).after store = middle :=
                congrArg Outcome.state outcome
              rw [outcome] at both
              rw [if_pos succeeds, next]
              exact both
          | error error middle =>
              have fails : ¬(Evaluation.resolve value).Succeeds store := by
                rintro ⟨number, after, done⟩
                rw [outcome] at done
                cases done
              rw [outcome] at both
              rw [if_neg fails]
              exact both

/-- If the extents resolve, every deferred one was resolved once. -/
theorem makes_of_mapM_resolve {extents : List (Extent σ)} {store after : Store σ}
    {numbers : List Int} (resolved : extents.mapM resolve store = .ok numbers after) :
    Evaluation.executed store (extents.filterMap evaluation?) = extents.filterMap evaluation? ∧
      Evaluation.Makes store (extents.filterMap evaluation?) after true := by
  rcases evaluates_mapM_resolve extents store with ⟨complete, makes, completes⟩
  cases completes ⟨numbers, after, resolved⟩
  have all := Evaluation.executed_eq_of_makes makes
  unfold id at all makes
  rw [resolved, all] at makes
  exact ⟨all, makes⟩

end Extent

end LoopNest
