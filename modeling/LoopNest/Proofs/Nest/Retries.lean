import Mathlib.Data.Fintype.Card
import LoopNest.Proofs.Nest.Making
import LoopNest.Proofs.Nest.Registration
import LoopNest.Proofs.Nest.Steps

namespace LoopNest

/-!
# Replays that fail and are tried again

Replaying commands may fail at any captured value of any command, and what was
done until then stays.  Still there is no array that no token stands for: each
array that was logged is the value of one new entry of the identity map, and
there are no other new entries.  So when the cause of the failure is gone and
commands are replayed again in the same context, no token is given a second
array.

Nothing is asked of the context, and no bound on the arrays either.  Numbers of
arrays may begin anew once they fill their words, but the arrays of all replays
in one context are no more than there are tokens.
-/

/-- There are no more tokens than their words tell apart. -/
theorem Token.length_le_of_nodup {tokens : List Token} (distinct : tokens.Nodup) :
    tokens.length <= UInt32.size := by
  have injective : Function.Injective fun token : Token => token.raw.toFin := by
    rintro ⟨first⟩ ⟨second⟩ same
    exact congrArg Token.mk (UInt32.toFin_inj.mp same)
  have counted := (distinct.map injective).length_le_card
  rwa [List.length_map, Fintype.card_fin] at counted

namespace Pass

variable {σ : Type} {before middle after : Pass (Recorder σ) σ}

/-- Between the two states arrays were made, each for a token of its own that
had no entry, and the identity map changed in no other way. -/
structure MakesOnce (before after : Pass (Recorder σ) σ) : Prop where
  kept : forall (token : Token) (value : NativeValue), before.identities[token]? = some value ->
    after.identities[token]? = some value
  made : ∃ made, after.backend.arrays = before.backend.arrays ++ made ∧
    after.identities.size = before.identities.size + made.length ∧
    forall entry, entry ∈ made ->
      ∃! token : Token, before.identities[token]? = none ∧
        after.identities[token]? = some (.array entry.1)

namespace Materializes

variable {handles : List ArrayHandle}

/-- The map grows by one entry for each handle. -/
theorem size_eq (materializes : Materializes before handles after) :
    after.identities.size = before.identities.size + handles.length := by
  have apart : (before.identities.keys ++ handles.map ArrayHandle.id).Nodup := by
    refine List.nodup_append.mpr ⟨Std.ExtTreeMap.nodup_keys, materializes.distinct, ?_⟩
    rintro token known _ carried rfl
    rcases List.mem_map.mp carried with ⟨handle, member, rfl⟩
    have found := Std.ExtTreeMap.mem_iff_isSome_getElem?.mp (Std.ExtTreeMap.mem_keys.mp known)
    rw [materializes.missing handle member] at found
    cases found
  have tokens : after.identities.keys.Perm
      (before.identities.keys ++ handles.map ArrayHandle.id) := by
    refine (List.perm_ext_iff_of_nodup Std.ExtTreeMap.nodup_keys apart).mpr fun token => ?_
    have entries := materializes.getElem?_eq_none_iff token
    simp only [List.mem_append, Std.ExtTreeMap.mem_keys, Std.ExtTreeMap.mem_iff_isSome_getElem?,
      ← Option.ne_none_iff_isSome, ne_eq, entries, not_and_or, not_not]
  have counted := tokens.length_eq
  rwa [List.length_append, List.length_map, Std.ExtTreeMap.length_keys,
    Std.ExtTreeMap.length_keys] at counted

/-- A new entry belongs to one of the handles. -/
theorem mem_of_new (materializes : Materializes before handles after) {token : Token}
    {value : NativeValue} (missing : before.identities[token]? = none)
    (found : after.identities[token]? = some value) : token ∈ handles.map ArrayHandle.id := by
  by_contra absent
  rw [materializes.others token absent, missing] at found
  cases found

/-- Each array that was logged is the value of one new entry. -/
theorem makesOnce (materializes : Materializes before handles after)
    (changes : Recorder.Changes before.backend after.backend) : MakesOnce before after where
  kept _ _ found := materializes.kept found
  made := by
    rcases materializes.logged with ⟨made, arrays, paired⟩
    have counted := paired.length_eq
    refine ⟨made, arrays, counted ▸ materializes.size_eq, ?_⟩
    have room : handles.length <= UInt32.size := by
      have tokens := Token.length_le_of_nodup materializes.distinct
      rwa [List.length_map] at tokens
    have number (position : Nat) (within : position < made.length) :
        made[position].1.id = UInt32.ofNat (before.backend.arrays.length + position) := by
      refine changes.array_numbered (Nat.le_add_right _ _) ?_
      rw [arrays, List.getElem?_append_right (Nat.le_add_right _ _), Nat.add_sub_cancel_left,
        List.getElem?_eq_getElem within]
    intro entry member
    rcases List.mem_iff_getElem.mp member with ⟨position, within, rfl⟩
    have inside : position < handles.length := counted ▸ within
    have counterpart := paired.get inside within
    refine ⟨handles[position].id, ⟨?_, counterpart.found⟩, ?_⟩
    · exact materializes.missing _ (List.getElem_mem inside)
    · rintro token ⟨missing, found⟩
      rcases List.mem_map.mp (materializes.mem_of_new missing found) with ⟨handle, carries, rfl⟩
      rcases List.mem_iff_getElem.mp carries with ⟨other, otherInside, rfl⟩
      have otherWithin : other < made.length := counted ▸ otherInside
      -- Two of the arrays with one number stand at one place: they are too few
      -- for their numbers to begin anew.
      have otherCounterpart := paired.get otherInside otherWithin
      have same : made[other].1 = made[position].1 := by
        have entries := otherCounterpart.found.symm.trans found
        exact NativeValue.array.inj (Option.some.inj entries)
      have numbers := congrArg (fun array : NativeArray => array.id.toNat) same
      simp only [number, UInt32.toNat_ofNat', UInt32.size] at numbers room
      have places : other = position := by omega
      subst places
      rfl

end Materializes

/-- Between the two states arrays were made for handles, and the backend changed
in its own ways. -/
def Making (before after : Pass (Recorder σ) σ) : Prop :=
  (∃ handles, Materializes before handles after) ∧
    Recorder.Changes before.backend after.backend

theorem Making.makesOnce (making : Making before after) : MakesOnce before after := by
  rcases making with ⟨⟨handles, materializes⟩, changes⟩
  exact materializes.makesOnce changes

theorem Making.refl (pass : Pass (Recorder σ) σ) : Making pass pass :=
  ⟨⟨[], materializes_nil rfl rfl⟩, .refl⟩

theorem Making.trans (begun : Making before middle) (ended : Making middle after) :
    Making before after := by
  rcases begun with ⟨⟨first, materializesFirst⟩, changes⟩
  rcases ended with ⟨⟨second, materializesSecond⟩, changesLater⟩
  exact ⟨⟨first ++ second, materializesFirst.append materializesSecond⟩,
    changes.trans changesLater⟩

/-- Registering a logic function makes arrays, also if it fails. -/
theorem making_addLogic (logic : LogicFunction σ) (scheduling : Scheduling)
    (pass : Pass (Recorder σ) σ) :
    Making pass (Outcome.state (addLogic logic scheduling pass)) := by
  refine ⟨?_, (runs_addLogic logic scheduling pass).steps.changes⟩
  cases outcome : addLogic logic scheduling pass with
  | ok done after =>
      rcases (Nest.addLogic_eq_ok_iff ⟨logic, scheduling⟩ _ _ _).mp outcome with ⟨entry, adds⟩
      exact ⟨_, adds.materializes⟩
  | error error after =>
      rcases exists_resolved_of_addLogic_error outcome with
        ⟨_, _, middle, store, _, resolves, rfl⟩
      exact ⟨_, resolves.materializes.append (materializes_nil rfl rfl)⟩

end Pass

namespace Nest

variable {σ : Type}

/-- Replaying commands makes arrays, also if it fails. -/
theorem making_addAttachments (attachments : List (Attachment σ)) (pass : Pass (Recorder σ) σ) :
    Pass.Making pass (Outcome.state (addAttachments attachments pass)) := by
  induction attachments generalizing pass with
  | nil => exact .refl pass
  | cons attachment rest inductionHypothesis =>
      have first := Pass.making_addLogic attachment.logic attachment.scheduling pass
      rw [addAttachments]
      cases outcome : Pass.addLogic attachment.logic attachment.scheduling pass with
      | error error stopped =>
          rw [outcome] at first
          rw [Outcome.bind_of_error outcome]
          exact first
      | ok done middle =>
          rw [outcome] at first
          rw [Outcome.bind_of_ok outcome]
          exact first.trans (inductionHypothesis middle)

/-- One more replay in a context, with what the store and the backend have
become until then. -/
structure Retry (σ : Type) where
  nest : Nest σ
  store : Store σ
  rejected : List BackendOperation

/-- The context after one more replay, whether it gave a result or failed. -/
def afterRetry (pass : Pass (Recorder σ) σ) (retry : Retry σ) : Pass (Recorder σ) σ :=
  Outcome.state (retry.nest.addKernels
    { pass with
      store := retry.store
      backend := { pass.backend with rejected := retry.rejected } })

theorem making_afterRetry (pass : Pass (Recorder σ) σ) (retry : Retry σ) :
    Pass.Making pass (afterRetry pass retry) := by
  refine Pass.Making.trans ?_ (making_addAttachments retry.nest.attachments _)
  exact ⟨⟨[], Pass.materializes_nil rfl rfl⟩, .single (.rejected retry.rejected)⟩

theorem making_afterRetries (retries : List (Retry σ)) (pass : Pass (Recorder σ) σ) :
    Pass.Making pass (retries.foldl afterRetry pass) := by
  induction retries generalizing pass with
  | nil => exact .refl pass
  | cons retry rest inductionHypothesis =>
      exact (making_afterRetry pass retry).trans (inductionHypothesis _)

/-- However a replay of commands ends, it made each of its arrays for one token
that had no entry.  The same holds of all that is replayed in the context later
on, alone and together with the first replay, so no token gets a second array. -/
theorem replays_make_once (nest : Nest σ) (pass : Pass (Recorder σ) σ) :
    pass.MakesOnce (Outcome.state (nest.addKernels pass)) ∧
      forall retries : List (Retry σ),
        (Outcome.state (nest.addKernels pass)).MakesOnce
          (retries.foldl afterRetry (Outcome.state (nest.addKernels pass))) ∧
        pass.MakesOnce (retries.foldl afterRetry (Outcome.state (nest.addKernels pass))) := by
  have first := making_addAttachments nest.attachments pass
  refine ⟨first.makesOnce, fun retries => ?_⟩
  have later := making_afterRetries retries (Outcome.state (nest.addKernels pass))
  exact ⟨later.makesOnce, (first.trans later).makesOnce⟩

end Nest

end LoopNest
