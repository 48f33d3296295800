import LoopNest.Proofs.Declaration.Evaluations
import LoopNest.Proofs.Pass.Composition

namespace LoopNest

/-!
# What a pass evaluates

In its space a pass comes to one captured value after the other: command by
command, and in each command in the order of capture.  Whether it evaluates
something there depends on the value, and for a deferred integer also on whether
it has an entry by then.  The pass goes on to the next value as long as nothing
fails.

Beside this no part of a pass touches the store, on any backend.
-/

/-- The rule leaves the store as it is. -/
abbrev Store.Untouched {ε σ α : Type} (rule : EStateM ε (Store σ) α) : Prop :=
  Outcome.Keeps id rule

namespace Pass

variable {β σ : Type}

/-- A captured value that a pass comes to, and the pass by then. -/
structure Visit (β σ : Type) where
  pass : Pass β σ
  capture : Capture σ

/-- What the pass evaluates when it comes to the value.  A deferred integer with
an entry is not resolved, and elements that are known are not produced. -/
def Visit.evaluation? (visit : Visit β σ) : Option (Evaluation σ) :=
  match visit.capture with
  | .deferred value =>
      match visit.pass.identities[value.id]? with
      | some _ => none
      | none => some (.resolve value)
  | .lazy produce => some (.produce produce)
  | .index _ => none
  | .array _ => none
  | .scalar _ => none
  | .sequence _ => none

theorem Visit.evaluation?_deferred (pass : Pass β σ) (value : Deferred σ) :
    Visit.evaluation? ⟨pass, .deferred value⟩ =
      match pass.identities[value.id]? with
      | some _ => none
      | none => some (.resolve value) :=
  rfl

/-- What is evaluated for a value that binds nothing binds nothing. -/
theorem Visit.keepsSlots {visit : Visit β σ} (keeps : visit.capture.KeepsSlots) :
    forall evaluation, evaluation ∈ visit.evaluation?.toList -> evaluation.KeepsSlots := by
  rcases visit with ⟨pass, capture⟩
  intro evaluation member
  rw [Option.mem_toList] at member
  cases capture with
  | deferred value =>
      rw [evaluation?_deferred] at member
      cases entry : pass.identities[value.id]? with
      | some native =>
          rw [entry] at member
          cases member
      | none =>
          rw [entry] at member
          cases member
          exact keeps
  | lazy produce =>
      cases member
      exact keeps
  | index loop => cases member
  | array handle => cases member
  | scalar value => cases member
  | sequence elements => cases member

/-- The program leaves the store as it is. -/
abbrev KeepsStore {α : Type} (program : PassM β σ α) : Prop :=
  Outcome.Keeps store program

theorem Composed.keepsStore {α : Type} {causes : NestError -> Prop} {program : PassM β σ α}
    (composed : Composed causes (fun _ _ rule => Store.Untouched rule) program) :
    KeepsStore program :=
  composed.keeps

theorem evaluates_onStore {ε α : Type} {rule : EStateM ε (Store σ) α} {evaluation : Evaluation σ}
    (failure : ε -> NestError) (pass : Pass β σ)
    (leaves : evaluation.after pass.store = Outcome.state (rule pass.store))
    (succeeds : evaluation.Succeeds pass.store <-> Outcome.Succeeds rule pass.store) :
    Outcome.Evaluates store (onStore failure rule) pass [evaluation] := by
  unfold Outcome.Evaluates onStore
  cases outcome : rule pass.store with
  | ok value middle =>
      rw [outcome] at leaves
      refine ⟨true, ?_, fun _ => rfl⟩
      have done := Evaluation.Makes.cons (succeeds.mpr ⟨value, middle, outcome⟩) .nil
      rw [leaves] at done
      exact done
  | error error middle =>
      rw [outcome] at leaves
      have fails : ¬evaluation.Succeeds pass.store := by
        intro impossible
        rcases succeeds.mp impossible with ⟨value, after, done⟩
        rw [outcome] at done
        cases done
      refine ⟨false, ?_, ?_⟩
      · have stopped := Evaluation.Makes.fail fails
        rw [leaves] at stopped
        exact stopped
      · rintro ⟨value, after, done⟩
        simp only [outcome] at done
        cases done

theorem keepsStore_resolveElements (failure : CaptureFault -> NestError)
    (elements : List (Capture σ)) :
    KeepsStore (β := β) (resolveElements failure elements) := by
  have composed : Composed (β := β) (fun _ => True) (fun _ _ rule => Store.Untouched rule)
      (resolveElements failure elements) := composed_resolveElements (fun _ _ => trivial) elements
  exact composed.keepsStore

variable [Backend σ β]

/-! ## One captured value -/

theorem keepsStore_materialize (failure : CaptureFault -> NestError) (array : ArrayRecord) :
    KeepsStore (β := β) (σ := σ) (materialize failure array) := by
  have composed : Composed (β := β) (σ := σ) (fun _ => True)
      (fun _ _ rule => Store.Untouched rule) (materialize failure array) :=
    composed_materialize (fun _ => trivial) fun _ _ => trivial
  exact composed.keepsStore

/-- Coming to a captured value evaluates what the visit tells, and nothing
else. -/
theorem evaluates_resolveCapture (failure : CaptureFault -> NestError) (capture : Capture σ)
    (pass : Pass β σ) :
    Outcome.Evaluates store (resolveCapture failure capture) pass
      (Visit.evaluation? ⟨pass, capture⟩).toList := by
  apply Outcome.Evaluates.get_bind
  cases capture with
  | index loop =>
      cases pass.lookup? (.index loop) with
      | some native => exact .of_keeps (.pure _)
      | none => exact .of_keeps (.pure _)
  | scalar value =>
      cases pass.lookup? (.scalar value) with
      | some native => exact .of_keeps (.pure _)
      | none => exact .of_keeps (.pure _)
  | array handle =>
      cases pass.lookup? (.array handle) with
      | some native => exact .of_keeps (.pure _)
      | none =>
          exact .of_keeps ((keepsStore_materialize failure handle.record).bind fun value? =>
            .pure _)
  | deferred value =>
      have looked : pass.lookup? (.deferred value) = pass.identities[value.id]? := rfl
      rw [looked, Visit.evaluation?_deferred]
      cases pass.identities[value.id]? with
      | some native => exact .of_keeps (.pure _)
      | none =>
          have resolves : Outcome.Evaluates store (onStore .unresolvableDeferred value.resolve)
              pass [.resolve value] := evaluates_onStore _ pass rfl Iff.rfl
          exact resolves.followed fun number => .pure _
  | sequence elements =>
      exact .of_keeps ((keepsStore_resolveElements failure elements).bind fun replacement =>
        .pure _)
  | lazy produce =>
      refine (evaluates_onStore _ pass rfl Iff.rfl).followed fun elements => ?_
      exact (keepsStore_resolveElements failure elements).bind fun replacement => .pure _

/-! ## The captured values of a logic function -/

/-- The captured values that the pass comes to when it resolves them in order. -/
def visits (logic : String) : List (String × Capture σ) -> Pass β σ -> List (Visit β σ)
  | [], _ => []
  | (name, capture) :: rest, pass =>
      ⟨pass, capture⟩ ::
        Outcome.afterwards (fun _ => visits logic rest)
          (resolveCapture (.captureResolution logic name) capture pass)

section ResolveAll

variable {logic : String} {entries : List (String × Capture σ)}

theorem evaluates_resolveAll (logic : String) (entries : List (String × Capture σ))
    (pass : Pass β σ) :
    Outcome.Evaluates store (resolveAll logic entries) pass
      ((visits logic entries pass).filterMap Visit.evaluation?) := by
  induction entries generalizing pass with
  | nil => exact .of_keeps (.pure [])
  | cons entry rest inductionHypothesis =>
      rcases entry with ⟨name, capture⟩
      have first := evaluates_resolveCapture (.captureResolution logic name) capture pass
      have both := first.bind fun replacement? middle _ =>
        (inductionHypothesis middle).followed fun others =>
          .pure ((replacement?.map fun replacement => (name, replacement)).toList ++ others)
      have listed : (visits logic ((name, capture) :: rest) pass).filterMap Visit.evaluation? =
          (Visit.evaluation? ⟨pass, capture⟩).toList ++
            Outcome.afterwards
              (fun _ middle => (visits logic rest middle).filterMap Visit.evaluation?)
              (resolveCapture (.captureResolution logic name) capture pass) := by
        rw [visits, ← Outcome.filterMap_afterwards, List.filterMap_cons]
        cases Visit.evaluation? ⟨pass, capture⟩ <;> rfl
      rw [resolveAll_cons, listed]
      exact both

theorem visits_prefix (logic : String) (entries : List (String × Capture σ)) (pass : Pass β σ) :
    (visits logic entries pass).map Visit.capture <+: entries.map Prod.snd := by
  induction entries generalizing pass with
  | nil => exact List.prefix_refl []
  | cons entry rest inductionHypothesis =>
      rw [visits, List.map_cons, List.map_cons, List.prefix_cons_inj]
      cases resolveCapture (.captureResolution logic entry.1) entry.2 pass with
      | ok replacement? middle => exact inductionHypothesis middle
      | error error middle => exact List.nil_prefix

/-- If all captured values resolve, the pass came to all of them. -/
theorem visits_of_ok {pass after : Pass β σ} {replacements : List (String × Replacement)}
    (resolved : resolveAll logic entries pass = .ok replacements after) :
    (visits logic entries pass).map Visit.capture = entries.map Prod.snd := by
  induction entries generalizing pass replacements with
  | nil => rfl
  | cons entry rest inductionHypothesis =>
      rcases resolveAll_cons_eq_ok_iff.mp resolved with
        ⟨replacement?, middle, others, first, later, _⟩
      rw [visits, first, List.map_cons, List.map_cons]
      exact congrArg _ (inductionHypothesis later)

/-- Values that bind nothing are come to with the slots as they were at first. -/
theorem bound_of_mem_visits {pass : Pass β σ} {visit : Visit β σ}
    (keep : forall entry, entry ∈ entries -> entry.2.KeepsSlots)
    (member : visit ∈ visits logic entries pass) : visit.pass.store.bound = pass.store.bound := by
  induction entries generalizing pass with
  | nil => exact absurd member List.not_mem_nil
  | cons entry rest inductionHypothesis =>
      rw [List.forall_mem_cons] at keep
      rcases List.mem_cons.mp member with rfl | later
      · rfl
      · rcases Outcome.mem_afterwards_iff.mp later with ⟨replacement?, middle, resolved, come⟩
        have evaluates := evaluates_resolveCapture (.captureResolution logic entry.1) entry.2 pass
        have kept := evaluates.bound (Visit.keepsSlots keep.1)
        rw [resolved] at kept
        exact (inductionHypothesis keep.2 come).trans kept

/-- A pass comes to a captured value when all values before it resolve, and then
it is as they left it. -/
theorem getElem?_visits {earlier later : List (String × Capture σ)}
    {entry : String × Capture σ} (pass visited : Pass β σ) :
    (visits logic (earlier ++ entry :: later) pass)[earlier.length]? =
        some ⟨visited, entry.2⟩ <->
      ∃ replacements, resolveAll logic earlier pass = .ok replacements visited := by
  induction earlier generalizing pass with
  | nil =>
      constructor
      · intro here
        cases here
        exact ⟨[], rfl⟩
      · rintro ⟨replacements, done⟩
        cases done
        rfl
  | cons first rest inductionHypothesis =>
      rw [List.cons_append, visits, List.length_cons, List.getElem?_cons_succ]
      cases outcome : resolveCapture (.captureResolution logic first.1) first.2 pass with
      | ok replacement? middle =>
          refine (inductionHypothesis middle).trans ?_
          constructor
          · rintro ⟨others, done⟩
            exact ⟨_, resolveAll_cons_eq_ok_iff.mpr ⟨_, _, _, outcome, done, rfl⟩⟩
          · rintro ⟨replacements, done⟩
            rcases resolveAll_cons_eq_ok_iff.mp done with ⟨_, _, others, same, done, _⟩
            rw [outcome] at same
            cases same
            exact ⟨others, done⟩
      | error error middle =>
          constructor
          · intro impossible
            cases impossible
          · rintro ⟨replacements, done⟩
            rcases resolveAll_cons_eq_ok_iff.mp done with ⟨_, _, _, same, _⟩
            rw [outcome] at same
            cases same

end ResolveAll

end Pass

end LoopNest
