import LoopNest.Declaration.Deferred

namespace LoopNest

/-!
# Bindings for one pass

A set of bindings gives numbers to parameters for the duration of one pass.
It is kept in the order in which the parameters were first bound.  A parameter
is recognised by its token: binding it again replaces the number and keeps the
place and the handle that were there before.  A table from tokens to places says
where that is.

Derived integers can be put into the set, but it cannot be applied then.
Applying is all or nothing: the handles are checked before any slot is
written.
-/

/-- Numbers for parameters, in the order of the first binding, and the place of
the entry for each token. -/
structure Bindings (σ : Type) where
  entries : List (Deferred σ × Int)
  positions : Std.ExtTreeMap Token Nat

namespace Bindings

variable {σ : Type}

def empty : Bindings σ :=
  ⟨[], ∅⟩

/-- The place of the entry for a token. -/
def position? (bindings : Bindings σ) (token : Token) : Option Nat :=
  bindings.positions[token]?

/-- Add a binding, or replace the number of the one that is there. -/
def put (bindings : Bindings σ) (parameter : Deferred σ) (number : Int) : Bindings σ :=
  match bindings.position? parameter.id with
  | some place =>
      { bindings with
        entries := bindings.entries.modify place fun entry => (entry.1, number) }
  | none =>
      { entries := bindings.entries ++ [(parameter, number)]
        positions := bindings.positions.insert parameter.id bindings.entries.length }

/-- The number that the set gives to a parameter. -/
def get? (bindings : Bindings σ) (parameter : Deferred σ) : Option Int :=
  (bindings.position? parameter.id).bind fun place =>
    bindings.entries[place]?.map fun entry => entry.2

/-- Number of parameters in the set. -/
def length (bindings : Bindings σ) : Nat :=
  bindings.entries.length

def isEmpty (bindings : Bindings σ) : Bool :=
  bindings.entries.isEmpty

/-- The first handle in the set that cannot be bound. -/
def firstDerived? (bindings : Bindings σ) : Option (Deferred σ) :=
  (bindings.entries.find? fun entry => !entry.1.isParameter).map fun entry => entry.1

/-- Bind every parameter of the set, or none if one cannot be bound. -/
def apply (bindings : Bindings σ) : EStateM DeferredError (Store σ) Unit :=
  match bindings.firstDerived? with
  | some derived => throw ⟨derived.name, .notBindable⟩
  | none => bindings.entries.forM fun entry => entry.1.bind entry.2

/-- Unbind every parameter of the set. -/
def release (bindings : Bindings σ) (store : Store σ) : Store σ :=
  bindings.entries.foldl (fun store entry => entry.1.release store) store

end Bindings

end LoopNest
