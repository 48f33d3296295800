import Std.Data.ExtTreeMap.Lemmas

namespace LoopNest

/-!
# What lasts between calls

Parameters are bound and released from outside while nests and kernels hold on
to them, and the rules that a caller supplies may keep a state of their own.
A `Store` is all of that: the slots of the parameters that are bound now, and
the state of the client, of which this library knows nothing.

A slot is a number.  Slots are handed out in sequence, so parameters that were
declared separately never share one, whatever their tokens are.
-/

/-- The place where the value of one parameter is kept. -/
abbrev Slot := Nat

/-- The bound slots and the state of the client. -/
structure Store (σ : Type) where
  bound : Std.ExtTreeMap Slot Int
  slots : Nat
  client : σ

namespace Store

variable {σ : Type}

/-- No slot has been handed out. -/
def initial (client : σ) : Store σ :=
  ⟨∅, 0, client⟩

/-- Hand out a slot; nothing is bound in it. -/
def newSlot : StateM (Store σ) Slot := fun store =>
  (store.slots, { store with slots := store.slots + 1 })

/-- The value bound in a slot. -/
def read? (store : Store σ) (slot : Slot) : Option Int :=
  store.bound[slot]?

/-- Bind a slot, in place of any earlier value. -/
def write (store : Store σ) (slot : Slot) (value : Int) : Store σ :=
  { store with bound := store.bound.insert slot value }

/-- Unbind a slot. -/
def erase (store : Store σ) (slot : Slot) : Store σ :=
  { store with bound := store.bound.erase slot }

theorem read?_write (store : Store σ) (slot other : Slot) (value : Int) :
    (store.write slot value).read? other =
      if slot = other then some value else store.read? other := by
  simp [read?, write, Std.ExtTreeMap.getElem?_insert]

theorem read?_erase (store : Store σ) (slot other : Slot) :
    (store.erase slot).read? other = if slot = other then none else store.read? other := by
  simp [read?, erase, Std.ExtTreeMap.getElem?_erase]

end Store

end LoopNest
