import LoopNest.Declaration.Bindings
import LoopNest.Declaration.Capture
import LoopNest.Declaration.Extent
import LoopNest.Proofs.Outcome

namespace LoopNest

/-!
# Answers of rules

A rule of the client may change the store whenever it is run.  A rule that only
reads the slots answers by what is bound, leaves the store as it is, and so
gives the same answer whenever it is run in one pass.

The bindings of a pass are applied to the slots all at once.  They can be
applied when each of them is for a parameter.
-/

namespace Store

variable {ε σ α β : Type}

/-- The answer that a rule gives now, if it does not fail. -/
def answer? (store : Store σ) (rule : EStateM ε (Store σ) α) : Option α :=
  match rule store with
  | .ok value _ => some value
  | .error _ _ => none

/-- The rule only reads the slots: its answer is a function of what is bound,
and the store stays as it is. -/
def ReadOnly (rule : EStateM ε (Store σ) α) : Prop :=
  ∃ read : Std.ExtTreeMap Slot Int -> Except ε α, forall store,
    rule store =
      match read store.bound with
      | .ok value => .ok value store
      | .error error => .error error store

theorem ReadOnly.eq_ok_iff {rule : EStateM ε (Store σ) α} (reads : ReadOnly rule)
    (store after : Store σ) (value : α) :
    rule store = .ok value after <-> store.answer? rule = some value ∧ after = store := by
  rcases reads with ⟨read, rule_eq⟩
  unfold answer?
  rw [rule_eq store]
  cases read store.bound with
  | ok answer =>
      simp only [EStateM.Result.ok.injEq, Option.some.injEq]
      exact and_congr_right fun _ => eq_comm
  | error error => simp

/-- Stores with the same slots bound give the same answer. -/
theorem ReadOnly.agree {rule : EStateM ε (Store σ) α} (reads : ReadOnly rule)
    {left right : Store σ} (same : left.bound = right.bound) :
    Outcome.Agree Eq (fun left right => left.bound = right.bound) (rule left) (rule right) := by
  rcases reads with ⟨read, rule_eq⟩
  rw [rule_eq left, rule_eq right, same]
  cases read right.bound with
  | ok answer => exact .ok rfl same
  | error error => exact .error error same

theorem readOnly_pure (value : α) : ReadOnly (pure value : EStateM ε (Store σ) α) :=
  ⟨fun _ => .ok value, fun _ => rfl⟩

/-- Rules that only read the slots do so one after the other as well. -/
theorem ReadOnly.bind {first : EStateM ε (Store σ) α} {next : α -> EStateM ε (Store σ) β}
    (reads : ReadOnly first) (readsNext : forall value, ReadOnly (next value)) :
    ReadOnly (first >>= next) := by
  rcases reads with ⟨read, first_eq⟩
  refine ⟨fun bound => (read bound).bind fun value => (readsNext value).choose bound,
    fun store => ?_⟩
  dsimp only
  cases answer : read store.bound with
  | ok value =>
      have done : first store = .ok value store := by rw [first_eq, answer]
      rw [Outcome.bind_of_ok done]
      exact (readsNext value).choose_spec store
  | error error =>
      have failed : first store = .error error store := by rw [first_eq, answer]
      exact Outcome.bind_of_error failed next

theorem ReadOnly.mapM {step : α -> EStateM ε (Store σ) β} {items : List α}
    (reads : forall item, item ∈ items -> ReadOnly (step item)) : ReadOnly (items.mapM step) := by
  induction items with
  | nil => exact readOnly_pure []
  | cons item rest inductionHypothesis =>
      rw [List.forall_mem_cons] at reads
      rw [List.mapM_cons]
      exact reads.1.bind fun _ => (inductionHypothesis reads.2).bind fun _ => readOnly_pure _

/-- What the rule gives, it gives again as long as the slots are bound as they
are. -/
theorem ReadOnly.again_of_ok {rule : EStateM ε (Store σ) α} (reads : ReadOnly rule)
    {store after again : Store σ} {value : α} (done : rule store = .ok value after)
    (same : again.bound = store.bound) : rule again = .ok value again := by
  rcases reads with ⟨read, rule_eq⟩
  rw [rule_eq] at done ⊢
  rw [same]
  cases answer : read store.bound with
  | ok number =>
      rw [answer] at done
      cases done
      rfl
  | error error =>
      rw [answer] at done
      cases done

/-- The rule fails again as long as the slots are bound as they are. -/
theorem ReadOnly.again_of_error {rule : EStateM ε (Store σ) α} (reads : ReadOnly rule)
    {store after again : Store σ} {error : ε} (failed : rule store = .error error after)
    (same : again.bound = store.bound) : rule again = .error error again := by
  rcases reads with ⟨read, rule_eq⟩
  rw [rule_eq] at failed ⊢
  rw [same]
  cases answer : read store.bound with
  | ok number =>
      rw [answer] at failed
      cases failed
  | error error =>
      rw [answer] at failed
      cases failed
      rfl

end Store

namespace Deferred

variable {σ : Type}

/-- A derived integer whose rule only reads the slots, or a parameter. -/
def ReadOnly (value : Deferred σ) : Prop :=
  match value.source with
  | .parameter _ => True
  | .derived rule => Store.ReadOnly rule

theorem ReadOnly.resolve {value : Deferred σ} (reads : value.ReadOnly) :
    Store.ReadOnly value.resolve := by
  unfold ReadOnly at reads
  cases source : value.source with
  | parameter slot =>
      refine ⟨fun bound => bound[slot]?.elim (.error ⟨value.name, .unbound⟩) .ok,
        fun store => ?_⟩
      unfold Deferred.resolve
      simp only [source, Store.read?]
      cases store.bound[slot]? <;> rfl
  | derived rule =>
      rw [source] at reads
      rcases reads with ⟨read, rule_eq⟩
      refine ⟨fun bound => (read bound).mapError fun reason => ⟨value.name, .rule reason⟩,
        fun store => ?_⟩
      unfold Deferred.resolve
      simp only [source, rule_eq store]
      cases read store.bound <;> rfl

end Deferred

namespace Extent

variable {σ : Type}

/-- The extent is a number, or deferred and only reads the slots. -/
def ReadOnly : Extent σ -> Prop
  | .fixed _ => True
  | .deferred value => value.ReadOnly

theorem ReadOnly.resolve {extent : Extent σ} (reads : extent.ReadOnly) :
    Store.ReadOnly extent.resolve := by
  cases extent with
  | fixed value => exact Store.readOnly_pure value
  | deferred value => exact Deferred.ReadOnly.resolve reads

/-- Every extent of the list only reads the slots, so resolving them in order
leaves the store as it is and gives the answers of all. -/
theorem mapM_resolve_eq_ok_iff (extents : List (Extent σ))
    (reads : forall extent, extent ∈ extents -> extent.ReadOnly) (store after : Store σ)
    (numbers : List Int) :
    extents.mapM resolve store = .ok numbers after <->
      (extents.map fun extent => store.answer? extent.resolve) = numbers.map some ∧
        after = store := by
  induction extents generalizing numbers with
  | nil =>
      rw [List.mapM_nil, Outcome.pure_apply, EStateM.Result.ok.injEq]
      cases numbers with
      | nil => simp [eq_comm]
      | cons number rest => simp
  | cons extent rest inductionHypothesis =>
      have extentReads := (reads extent List.mem_cons_self).resolve
      have restReads := inductionHypothesis fun other member =>
        reads other (List.mem_cons_of_mem extent member)
      rw [List.mapM_cons]
      simp only [Outcome.bind_eq_ok_iff, extentReads.eq_ok_iff, Outcome.pure_apply,
        EStateM.Result.ok.injEq]
      constructor
      · rintro ⟨number, middle, ⟨answered, unchanged⟩, others, last, resolved, same, ended⟩
        subst unchanged same ended
        have tail := (restReads others).mp resolved
        exact ⟨by simp [answered, tail.1], tail.2⟩
      · rintro ⟨answers, unchanged⟩
        subst unchanged
        cases numbers with
        | nil => cases answers
        | cons number others =>
            rw [List.map_cons, List.map_cons, List.cons.injEq] at answers
            exact ⟨number, after, ⟨answers.1, rfl⟩, others, after,
              (restReads others).mpr ⟨answers.2, rfl⟩, rfl, rfl⟩

/-- Extents that all give numbers of a kind give a list of them. -/
theorem exists_answers_iff (holds : Int -> Prop) (extents : List (Extent σ)) (store : Store σ) :
    (∃ numbers : List Int,
      (extents.map fun extent => store.answer? extent.resolve) = numbers.map some ∧
        forall number, number ∈ numbers -> holds number) <->
      forall extent, extent ∈ extents ->
        ∃ number, store.answer? extent.resolve = some number ∧ holds number := by
  induction extents with
  | nil =>
      refine iff_of_true ⟨[], rfl, ?_⟩ ?_
      · intro number member
        exact absurd member List.not_mem_nil
      · intro extent member
        exact absurd member List.not_mem_nil
  | cons extent rest inductionHypothesis =>
      rw [List.forall_mem_cons, ← inductionHypothesis]
      constructor
      · rintro ⟨numbers, answers, all⟩
        cases numbers with
        | nil => cases answers
        | cons number others =>
            rw [List.map_cons, List.map_cons, List.cons.injEq] at answers
            rw [List.forall_mem_cons] at all
            exact ⟨⟨number, answers.1, all.1⟩, others, answers.2, all.2⟩
      · rintro ⟨⟨number, answered, first⟩, others, answers, all⟩
        refine ⟨number :: others, ?_, List.forall_mem_cons.mpr ⟨first, all⟩⟩
        rw [List.map_cons, List.map_cons, answered, answers]

end Extent

namespace Capture

variable {σ : Type}

/-- Resolving the value runs no rule that does more than read the slots. -/
def ReadOnly : Capture σ -> Prop
  | .deferred value => value.ReadOnly
  | .lazy produce => Store.ReadOnly produce
  | .index _ => True
  | .array _ => True
  | .scalar _ => True
  | .sequence _ => True

end Capture

namespace Bindings

variable {σ : Type}

/-- The store with the slots of all bound parameters written. -/
def applied (bindings : Bindings σ) (store : Store σ) : Store σ :=
  bindings.entries.foldl
    (fun store entry =>
      match entry.1.slot? with
      | some slot => store.write slot entry.2
      | none => store)
    store

theorem firstDerived?_eq_none_iff (bindings : Bindings σ) :
    bindings.firstDerived? = none <->
      forall entry, entry ∈ bindings.entries -> entry.1.isParameter = true := by
  simp [firstDerived?]

private theorem forM_bind_eq (entries : List (Deferred σ × Int))
    (positions : Std.ExtTreeMap Token Nat)
    (parameters : forall entry, entry ∈ entries -> entry.1.isParameter = true)
    (store : Store σ) :
    (entries.forM fun entry => entry.1.bind entry.2) store =
      .ok () (applied ⟨entries, positions⟩ store) := by
  induction entries generalizing store with
  | nil => rfl
  | cons entry rest inductionHypothesis =>
      rcases entry with ⟨value, number⟩
      have bindable := parameters (value, number) List.mem_cons_self
      unfold List.forM
      unfold Deferred.isParameter at bindable
      cases source : value.source with
      | derived rule =>
          rw [source] at bindable
          cases bindable
      | parameter slot =>
          have bound : value.bind number store = .ok () (store.write slot number) := by
            unfold Deferred.bind
            rw [source]
          rw [Outcome.bind_of_ok bound, inductionHypothesis fun other member =>
            parameters other (List.mem_cons_of_mem _ member)]
          simp only [applied, List.foldl_cons, Deferred.slot?, source]

/-- Bindings are applied when all of them are for parameters. -/
theorem apply_eq_ok_iff (bindings : Bindings σ) (store after : Store σ) (done : Unit) :
    bindings.apply store = .ok done after <->
      (forall entry, entry ∈ bindings.entries -> entry.1.isParameter = true) ∧
        after = bindings.applied store := by
  rw [← firstDerived?_eq_none_iff]
  unfold apply
  cases first : bindings.firstDerived? with
  | some derived =>
      constructor
      · intro impossible
        cases impossible
      · intro impossible
        cases impossible.1
  | none =>
      have parameters := (firstDerived?_eq_none_iff bindings).mp first
      have ran := forM_bind_eq bindings.entries bindings.positions parameters store
      simp only [ran, EStateM.Result.ok.injEq, eq_comm (b := after), true_and]

end Bindings

end LoopNest
