import LoopNest.Pass.Basic
import LoopNest.Proofs.Native.Recorder

namespace LoopNest

/-!
# Steps of a pass

A step that lets the backend or the store do something changes that part of
the state and no other.  On a recorder most steps change even less: the space
of the pass, its options, the logged spaces and the rejected operations stay
as they are.  What this leaves to change is the identity map, the store and
the logs of arrays and kernels.
-/

namespace IdentityMap

/-- Recording a value under one token leaves the entries of all others alone. -/
theorem getElem?_insert_of_ne {written token : Token} (different : written ≠ token)
    (identities : IdentityMap) (value : NativeValue) :
    (identities.insert written value)[token]? = identities[token]? := by
  rw [Std.ExtTreeMap.getElem?_insert, if_neg]
  intro equal
  exact different (Std.LawfulEqOrd.eq_of_compare equal)

/-- Entries of other tokens leave the entry of a token alone. -/
theorem getElem?_insertMany_of_notMem {token : Token} {entries : List (Token × NativeValue)}
    (absent : token ∉ entries.map Prod.fst) (identities : IdentityMap) :
    (identities.insertMany entries)[token]? = identities[token]? := by
  refine Std.ExtTreeMap.getElem?_insertMany_list_of_contains_eq_false ?_
  simpa using absent

/-- Of several entries of one token the last one counts. -/
theorem getElem?_insertMany_of_last {token : Token} {later : List (Token × NativeValue)}
    (isLast : token ∉ later.map Prod.fst) (earlier : List (Token × NativeValue))
    (value : NativeValue) (identities : IdentityMap) :
    (identities.insertMany (earlier ++ (token, value) :: later))[token]? = some value := by
  rw [Std.ExtTreeMap.insertMany_append, Std.ExtTreeMap.insertMany_cons,
    getElem?_insertMany_of_notMem isLast, Std.ExtTreeMap.getElem?_insert_self]

/-- Entries that agree on a token give it their value. -/
theorem getElem?_insertMany_of_agree {token : Token} {value : NativeValue}
    {entries : List (Token × NativeValue)} (member : (token, value) ∈ entries)
    (agree : forall other, (token, other) ∈ entries -> other = value) (identities : IdentityMap) :
    (identities.insertMany entries)[token]? = some value := by
  induction entries generalizing identities with
  | nil => exact absurd member List.not_mem_nil
  | cons entry rest inductionHypothesis =>
      rcases entry with ⟨written, native⟩
      have agreeRest : forall other, (token, other) ∈ rest -> other = value :=
        fun other later => agree other (List.mem_cons_of_mem _ later)
      rw [Std.ExtTreeMap.insertMany_cons]
      by_cases again : token ∈ rest.map Prod.fst
      · rcases List.mem_map.mp again with ⟨⟨_, other⟩, later, rfl⟩
        cases agreeRest other later
        exact inductionHypothesis later agreeRest _
      · rcases List.mem_cons.mp member with same | later
        · cases same
          rw [getElem?_insertMany_of_notMem again, Std.ExtTreeMap.getElem?_insert_self]
        · exact absurd (List.mem_map_of_mem later) again

end IdentityMap

namespace Pass

variable {β σ α : Type}

theorem onBackend_eq_ok_iff (operation : EStateM BackendError β α) (pass after : Pass β σ)
    (result : α) :
    onBackend operation pass = .ok result after <->
      ∃ backend, operation pass.backend = .ok result backend ∧ after = { pass with backend } := by
  unfold onBackend
  cases operation pass.backend with
  | ok value backend =>
      simp only [EStateM.Result.ok.injEq]
      constructor
      · rintro ⟨same, ended⟩
        exact ⟨backend, ⟨same, rfl⟩, ended.symm⟩
      · rintro ⟨_, ⟨same, rfl⟩, ended⟩
        exact ⟨same, ended.symm⟩
  | error error backend => simp

theorem onBackend_eq_error_iff (operation : EStateM BackendError β α) (pass after : Pass β σ)
    (error : NestError) :
    onBackend operation pass = .error error after <->
      ∃ fault backend, operation pass.backend = .error fault backend ∧
        error = .backend fault ∧ after = { pass with backend } := by
  unfold onBackend
  cases operation pass.backend with
  | ok value backend => simp
  | error fault backend =>
      simp only [EStateM.Result.error.injEq]
      constructor
      · rintro ⟨same, ended⟩
        exact ⟨fault, backend, ⟨rfl, rfl⟩, same.symm, ended.symm⟩
      · rintro ⟨_, _, ⟨rfl, rfl⟩, same, ended⟩
        exact ⟨same.symm, ended.symm⟩

theorem onStore_eq_ok_iff {ε : Type} (failure : ε -> NestError)
    (operation : EStateM ε (Store σ) α) (pass after : Pass β σ) (result : α) :
    onStore failure operation pass = .ok result after <->
      ∃ store, operation pass.store = .ok result store ∧ after = { pass with store } := by
  unfold onStore
  cases operation pass.store with
  | ok value store =>
      simp only [EStateM.Result.ok.injEq]
      constructor
      · rintro ⟨same, ended⟩
        exact ⟨store, ⟨same, rfl⟩, ended.symm⟩
      · rintro ⟨_, ⟨same, rfl⟩, ended⟩
        exact ⟨same, ended.symm⟩
  | error error store => simp

theorem onStore_eq_error_iff {ε : Type} (failure : ε -> NestError)
    (operation : EStateM ε (Store σ) α) (pass after : Pass β σ) (error : NestError) :
    onStore failure operation pass = .error error after <->
      ∃ fault store, operation pass.store = .error fault store ∧ error = failure fault ∧
        after = { pass with store } := by
  unfold onStore
  cases operation pass.store with
  | ok value store => simp
  | error fault store =>
      simp only [EStateM.Result.error.injEq]
      constructor
      · rintro ⟨same, ended⟩
        exact ⟨fault, store, ⟨rfl, rfl⟩, same.symm, ended.symm⟩
      · rintro ⟨_, _, ⟨rfl, rfl⟩, same, ended⟩
        exact ⟨same.symm, ended.symm⟩

/-- The pass after it recorded a new array of the backend for a handle. -/
def withArray (pass : Pass (Recorder σ) σ) (handle : ArrayHandle) (origin : ArrayOrigin) :
    Pass (Recorder σ) σ :=
  { pass with
    identities :=
      pass.identities.insert handle.id (.array (pass.backend.nextArray handle.elementType origin))
    backend := pass.backend.withArray handle.elementType handle.layout origin }

/-- The steps from one state to the other left the space, the options, the
logged spaces and the rejected operations alone. -/
structure Continues (before after : Pass (Recorder σ) σ) : Prop where
  space : after.space = before.space
  options : after.options = before.options
  spaces : after.backend.spaces = before.backend.spaces
  rejected : after.backend.rejected = before.backend.rejected

theorem Continues.refl (pass : Pass (Recorder σ) σ) : Continues pass pass :=
  ⟨rfl, rfl, rfl, rfl⟩

theorem Continues.trans {first second third : Pass (Recorder σ) σ}
    (begun : Continues first second) (continued : Continues second third) :
    Continues first third :=
  ⟨continued.space.trans begun.space, continued.options.trans begun.options,
    continued.spaces.trans begun.spaces, continued.rejected.trans begun.rejected⟩

theorem continues_withArray (pass : Pass (Recorder σ) σ) (handle : ArrayHandle)
    (origin : ArrayOrigin) : Continues pass (pass.withArray handle origin) :=
  ⟨rfl, rfl, rfl, rfl⟩

end Pass

end LoopNest
