namespace LoopNest

/-!
# Outcomes of steps

A step acts on a state and gives a result or an error, and in both cases there
is a state afterwards.  A sequence of steps gives a result exactly when each
of them does, one from the state that the one before it left.
-/

namespace Outcome

variable {ε τ α β : Type}

theorem bind_eq_ok_iff (first : EStateM ε τ α) (next : α -> EStateM ε τ β) (state after : τ)
    (result : β) :
    (first >>= next) state = .ok result after <->
      ∃ value middle, first state = .ok value middle ∧ next value middle = .ok result after := by
  change EStateM.bind first next state = _ <-> _
  unfold EStateM.bind
  cases first state with
  | ok value middle =>
      constructor
      · intro rest
        exact ⟨value, middle, rfl, rest⟩
      · rintro ⟨_, _, same, rest⟩
        cases same
        exact rest
  | error error middle => simp

theorem bind_of_ok {first : EStateM ε τ α} {state middle : τ} {value : α}
    (done : first state = .ok value middle) (next : α -> EStateM ε τ β) :
    (first >>= next) state = next value middle := by
  change EStateM.bind first next state = _
  unfold EStateM.bind
  rw [done]

theorem bind_of_error {first : EStateM ε τ α} {state middle : τ} {error : ε}
    (failed : first state = .error error middle) (next : α -> EStateM ε τ β) :
    (first >>= next) state = .error error middle := by
  change EStateM.bind first next state = _
  unfold EStateM.bind
  rw [failed]

theorem bind_eq_error_iff (first : EStateM ε τ α) (next : α -> EStateM ε τ β) (state after : τ)
    (error : ε) :
    (first >>= next) state = .error error after <->
      first state = .error error after ∨
        ∃ value middle, first state = .ok value middle ∧
          next value middle = .error error after := by
  change EStateM.bind first next state = _ <-> _
  unfold EStateM.bind
  cases first state with
  | ok value middle =>
      constructor
      · intro rest
        exact .inr ⟨value, middle, rfl, rest⟩
      · rintro (impossible | ⟨_, _, same, rest⟩)
        · cases impossible
        · cases same
          exact rest
  | error error middle => simp

/-- The state after a step, whether it gave a result or failed. -/
def state : EStateM.Result ε τ α -> τ
  | .ok _ after => after
  | .error _ after => after

/-- What there is to tell after a step, and nothing if the step failed. -/
def afterwards {γ : Type} (tell : α -> τ -> List γ) : EStateM.Result ε τ α -> List γ
  | .ok value after => tell value after
  | .error _ _ => []

theorem filterMap_afterwards {γ δ : Type} (tell : α -> τ -> List γ) (pick : γ -> Option δ)
    (outcome : EStateM.Result ε τ α) :
    (afterwards tell outcome).filterMap pick =
      afterwards (fun value after => (tell value after).filterMap pick) outcome := by
  cases outcome <;> rfl

theorem mem_afterwards_iff {γ : Type} {tell : α -> τ -> List γ} {outcome : EStateM.Result ε τ α}
    {told : γ} :
    told ∈ afterwards tell outcome <->
      ∃ value after, outcome = .ok value after ∧ told ∈ tell value after := by
  cases outcome with
  | ok value after =>
      constructor
      · intro member
        exact ⟨value, after, rfl, member⟩
      · rintro ⟨_, _, same, member⟩
        cases same
        exact member
  | error error after =>
      constructor
      · intro member
        exact absurd member List.not_mem_nil
      · rintro ⟨_, _, impossible, _⟩
        cases impossible

/-- The step gives a result from this state. -/
def Succeeds (step : EStateM ε τ α) (state : τ) : Prop :=
  ∃ result after, step state = .ok result after

instance (step : EStateM ε τ α) (state : τ) : Decidable (Succeeds step state) :=
  match outcome : step state with
  | .ok result after => .isTrue ⟨result, after, outcome⟩
  | .error error after => .isFalse fun ⟨_, _, done⟩ => by
      rw [outcome] at done
      cases done

theorem pure_apply (value : α) (state : τ) :
    (pure value : EStateM ε τ α) state = .ok value state :=
  rfl

/-- A step that leaves no trace gives the same any number of times. -/
theorem mapM_replicate_of_ok {step : α -> EStateM ε τ β} {item : α} {state : τ} {result : β}
    (done : step item state = .ok result state) (count : Nat) :
    (List.replicate count item).mapM step state = .ok (List.replicate count result) state := by
  induction count with
  | zero => rfl
  | succ count inductionHypothesis =>
      rw [List.replicate_succ, List.mapM_cons, bind_of_ok done, bind_of_ok inductionHypothesis]
      rfl

/-! ## Two outcomes -/

/-- Two outcomes agree: either both are results, which are related, or both are
the same error.  The states that they leave are related in both cases. -/
inductive Agree (results : α -> α -> Prop) (states : τ -> τ -> Prop) :
    EStateM.Result ε τ α -> EStateM.Result ε τ α -> Prop
  | ok {left right : α} {leftAfter rightAfter : τ} (result : results left right)
      (after : states leftAfter rightAfter) :
      Agree results states (.ok left leftAfter) (.ok right rightAfter)
  | error (error : ε) {leftAfter rightAfter : τ} (after : states leftAfter rightAfter) :
      Agree results states (.error error leftAfter) (.error error rightAfter)

/-- Steps that agree are followed by steps that agree. -/
theorem Agree.bind {results : α -> α -> Prop} {others : β -> β -> Prop} {states : τ -> τ -> Prop}
    {first second : EStateM ε τ α} {next following : α -> EStateM ε τ β} {left right : τ}
    (begun : Agree results states (first left) (second right))
    (continued : forall leftValue rightValue leftMiddle rightMiddle,
      first left = .ok leftValue leftMiddle -> second right = .ok rightValue rightMiddle ->
        results leftValue rightValue -> states leftMiddle rightMiddle ->
          Agree others states (next leftValue leftMiddle) (following rightValue rightMiddle)) :
    Agree others states ((first >>= next) left) ((second >>= following) right) := by
  cases leftOutcome : first left with
  | ok leftValue leftMiddle =>
      rw [bind_of_ok leftOutcome]
      cases rightOutcome : second right with
      | ok rightValue rightMiddle =>
          rw [bind_of_ok rightOutcome]
          rw [leftOutcome, rightOutcome] at begun
          cases begun with
          | ok result after => exact continued _ _ _ _ leftOutcome rightOutcome result after
      | error error rightMiddle =>
          rw [leftOutcome, rightOutcome] at begun
          cases begun
  | error error leftMiddle =>
      rw [bind_of_error leftOutcome]
      cases rightOutcome : second right with
      | ok rightValue rightMiddle =>
          rw [leftOutcome, rightOutcome] at begun
          cases begun
      | error other rightMiddle =>
          rw [bind_of_error rightOutcome]
          rw [leftOutcome, rightOutcome] at begun
          cases begun with
          | error _ after => exact .error _ after

end Outcome

end LoopNest
