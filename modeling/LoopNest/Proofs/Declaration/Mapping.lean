import LoopNest.Proofs.Declaration.Parameters

namespace LoopNest

/-!
# Chains of mapped integers

An integer may be mapped from another one, which may be mapped from a third, and
so on down to a base.  No number is kept on the way: the whole chain is resolved
anew each time, from what the base gives then.  Whatever was bound and unbound
before, the last integer of the chain is the base with all functions applied.

A failure goes up the chain likewise.  Every integer wraps the error of the one
below it in a text and gives that as its own reason.
-/

namespace Deferred

variable {σ : Type}

/-- A name and a function by which an integer is mapped, and the arena that
issues its token. -/
structure Link where
  name : String
  f : Int -> Int
  arena : Arena

/-- The integer that a link maps from another one. -/
def mapped (value : Deferred σ) (link : Link) : Deferred σ :=
  ((value.map link.name link.f).run link.arena).1

/-- The last integer of a chain that is mapped from this one, link by link. -/
def chain (base : Deferred σ) (links : List Link) : Deferred σ :=
  links.foldl mapped base

/-- All functions of a chain, the first one applied first. -/
def composed (links : List Link) (number : Int) : Int :=
  links.foldl (fun number link => link.f number) number

/-- The error of an integer whose rule hands on the text of another error. -/
def wrapped (name : String) (error : DeferredError) : DeferredError :=
  ⟨name, .rule error.message⟩

/-- An error of the base, wrapped once by each link of a chain. -/
def nested (links : List Link) (error : DeferredError) : DeferredError :=
  links.foldl (fun error link => wrapped link.name error) error

theorem chain_concat (base : Deferred σ) (links : List Link) (last : Link) :
    base.chain (links ++ [last]) = (base.chain links).mapped last :=
  List.foldl_concat ..

/-! ## Resolving -/

theorem resolve_mapped (value : Deferred σ) (link : Link) (store : Store σ) :
    (value.mapped link).resolve store =
      match value.resolve store with
      | .ok number after => .ok (link.f number) after
      | .error error after => .error (wrapped link.name error) after := by
  have source : (value.mapped link).source = .derived (value.mapRule link.f) := rfl
  rw [resolve, source]
  dsimp only [mapRule]
  cases value.resolve store with
  | ok number after => rfl
  | error error after => rfl

/-- A chain is resolved by the base alone: its functions are applied to the
number of the base, or its names are put around the error of the base. -/
theorem resolve_chain (base : Deferred σ) (links : List Link) (store : Store σ) :
    (base.chain links).resolve store =
      match base.resolve store with
      | .ok number after => .ok (composed links number) after
      | .error error after => .error (nested links error) after := by
  -- The first link makes a new base, from which the rest of the chain is mapped.
  induction links generalizing base with
  | nil =>
      change base.resolve store = _
      cases base.resolve store with
      | ok number after => rfl
      | error error after => rfl
  | cons link rest inductionHypothesis =>
      have rested := inductionHypothesis (base.mapped link)
      rw [resolve_mapped] at rested
      change ((base.mapped link).chain rest).resolve store = _
      rw [rested]
      cases base.resolve store with
      | ok number after => rfl
      | error error after => rfl

/-! ## Binding and unbinding -/

/-- What is done to a handle from outside. -/
inductive Use (σ : Type) where
  | bind (value : Deferred σ) (number : Int)
  | release (value : Deferred σ)

/-- The store after a handle is bound, if it can be, or released. -/
def Use.apply (store : Store σ) : Use σ -> Store σ
  | .bind value number => Outcome.state (value.bind number store)
  | .release value => value.release store

/-- What is bound in a slot after a use of it, or of another one. -/
def Use.boundIn (slot : Slot) (bound : Option Int) : Use σ -> Option Int
  | .bind value number => if value.slot? = some slot then some number else bound
  | .release value => if value.slot? = some slot then none else bound

theorem read?_bind (value : Deferred σ) (number : Int) (store : Store σ) (slot : Slot) :
    (Outcome.state (value.bind number store)).read? slot =
      if value.slot? = some slot then some number else store.read? slot := by
  unfold Deferred.bind slot?
  cases value.source with
  | parameter own => simp only [Outcome.state, Store.read?_write, Option.some.injEq]
  | derived rule => rfl

theorem Use.read?_apply (use : Use σ) (store : Store σ) (slot : Slot) :
    (use.apply store).read? slot = use.boundIn slot (store.read? slot) := by
  cases use with
  | release value => exact read?_release value store slot
  | bind value number => exact read?_bind value number store slot

/-- A slot has what the last use of it left there, and what it had before if it
was not used. -/
theorem read?_uses (uses : List (Use σ)) (store : Store σ) (slot : Slot) :
    (uses.foldl Use.apply store).read? slot =
      uses.foldl (Use.boundIn slot) (store.read? slot) := by
  induction uses generalizing store with
  | nil => rfl
  | cons use rest inductionHypothesis =>
      rw [List.foldl_cons, List.foldl_cons, inductionHypothesis, use.read?_apply]

/-- After any uses of handles, the last integer of a chain gives a number exactly
if the base does, which is that of the base with all functions applied.  It fails
exactly if the integer before it does, under its own name and with the text of
that error, and so on down to the error of the base.  Over a parameter, the last
use of its slot decides.  The integer cannot be bound, and neither an attempt nor
a release changes the store, so every handle resolves as before. -/
theorem chain_follows_base (base : Deferred σ) (links : List Link) (last : Link)
    (start : Store σ) (uses : List (Use σ)) :
    let store := uses.foldl Use.apply start
    let previous := base.chain links
    let value := base.chain (links ++ [last])
    (forall number after, value.resolve store = .ok number after <->
        ∃ given, base.resolve store = .ok given after ∧
          number = composed (links ++ [last]) given) ∧
      (forall error after, value.resolve store = .error error after <->
        ∃ reason, previous.resolve store = .error reason after ∧
          error = wrapped last.name reason) ∧
      (forall error after, value.resolve store = .error error after <->
        ∃ reason, base.resolve store = .error reason after ∧
          error = nested (links ++ [last]) reason) ∧
      (forall slot, base.source = .parameter slot ->
        value.resolve store =
          match uses.foldl (Use.boundIn slot) (start.read? slot) with
          | some given => .ok (composed (links ++ [last]) given) store
          | none => .error (nested (links ++ [last]) ⟨base.name, .unbound⟩) store) ∧
      (forall number, value.bind number store = .error ⟨last.name, .notBindable⟩ store) ∧
      value.release store = store ∧
      forall (other : Deferred σ) number,
        other.resolve (Outcome.state (value.bind number store)) = other.resolve store ∧
          other.resolve (value.release store) = other.resolve store := by
  intro store previous value
  have fromBase : value.resolve store = _ := resolve_chain base (links ++ [last]) store
  have fromPrevious : value.resolve store = _ :=
    (congrArg (·.resolve store) (chain_concat base links last)).trans
      (resolve_mapped previous last store)
  have refuses (number : Int) : value.bind number store = .error ⟨last.name, .notBindable⟩ store :=
    congrArg (·.bind number store) (chain_concat base links last)
  have stays : value.release store = store :=
    congrArg (·.release store) (chain_concat base links last)
  refine ⟨?_, ?_, ?_, ?_, refuses, stays, ?_⟩
  · intro number after
    rw [fromBase]
    cases base.resolve store <;> simp [eq_comm, and_comm]
  · intro error after
    rw [fromPrevious]
    cases previous.resolve store <;> simp [eq_comm, and_comm]
  · intro error after
    rw [fromBase]
    cases base.resolve store <;> simp [eq_comm, and_comm]
  · intro slot source
    have given : store.read? slot = _ := read?_uses uses start slot
    rw [fromBase, ← given]
    unfold resolve
    rw [source]
    dsimp only
    cases store.read? slot with
    | some number => rfl
    | none => rfl
  · intro other number
    rw [refuses, stays]
    exact ⟨rfl, rfl⟩

end Deferred

end LoopNest
