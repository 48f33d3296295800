import LoopNest.Declaration.Store
import LoopNest.Identity.Token
import LoopNest.Text.Outline

namespace LoopNest

/-!
# Deferred integers

A deferred integer stands for a number that is not known when a nest is
declared, such as an extent that each pass supplies.  It is either a
parameter, whose value is read from its slot, or derived by a rule, which runs
anew at every resolution and is never remembered.

Copies of a handle share the source.  Binding a parameter through one copy is
therefore seen through all others, whether a nest or a kernel holds them.

A rule may read and change the store, and it may fail with a text.
-/

/-- Why a deferred integer could not be resolved or bound. -/
inductive DeferredCause where
  | unbound
  | notBindable
  | rule (reason : String)
deriving DecidableEq

def DeferredCause.message : DeferredCause -> String
  | .unbound => "parameter is unbound"
  | .notBindable => "derived values cannot be bound"
  | .rule reason => reason

/-- A deferred integer that gave no number, by name. -/
structure DeferredError where
  name : String
  cause : DeferredCause
deriving DecidableEq

def DeferredError.message (error : DeferredError) : String :=
  "deferred value `" ++ error.name ++ "` could not be resolved: " ++ error.cause.message

/-- Where the number comes from. -/
inductive DeferredSource (σ : Type) where
  | parameter (slot : Slot)
  | derived (rule : EStateM String (Store σ) Int)

/-- An integer that is resolved on demand. -/
structure Deferred (σ : Type) where
  id : Token
  name : String
  source : DeferredSource σ

namespace Deferred

variable {σ : Type}

/-- Declare a deferred integer with the given source. -/
def declare (name : String) (source : DeferredSource σ) : StateM Arena (Deferred σ) :=
  fun arena =>
    let (id, arena) := Arena.issue .deferred arena
    (⟨id, name, source⟩, arena)

/-- Declare a parameter that lives in a slot just handed out. -/
def parameter (name : String) (slot : Slot) : StateM Arena (Deferred σ) :=
  declare name (.parameter slot)

/-- Declare an integer computed by a rule. -/
def derived (name : String) (rule : EStateM String (Store σ) Int) :
    StateM Arena (Deferred σ) :=
  declare name (.derived rule)

/-- Is the value read from a slot, so that it can be bound? -/
def isParameter (value : Deferred σ) : Bool :=
  match value.source with
  | .parameter _ => true
  | .derived _ => false

/-- The slot of a parameter. -/
def slot? (value : Deferred σ) : Option Slot :=
  match value.source with
  | .parameter slot => some slot
  | .derived _ => none

/-- The number, as the slots and the rules give it now. -/
def resolve (value : Deferred σ) : EStateM DeferredError (Store σ) Int := fun store =>
  match value.source with
  | .parameter slot =>
      match store.read? slot with
      | some number => .ok number store
      | none => .error ⟨value.name, .unbound⟩ store
  | .derived rule =>
      match rule store with
      | .ok number store => .ok number store
      | .error reason store => .error ⟨value.name, .rule reason⟩ store

/-- Bind a parameter.  A derived integer cannot be bound. -/
def bind (value : Deferred σ) (number : Int) : EStateM DeferredError (Store σ) Unit :=
  fun store =>
    match value.source with
    | .parameter slot => .ok () (store.write slot number)
    | .derived _ => .error ⟨value.name, .notBindable⟩ store

/-- Unbind a parameter.  Nothing happens to a derived integer. -/
def release (value : Deferred σ) (store : Store σ) : Store σ :=
  match value.source with
  | .parameter slot => store.erase slot
  | .derived _ => store

/-- The rule that applies a function to another deferred integer.  When that
one fails, its message is the reason. -/
def mapRule (base : Deferred σ) (f : Int -> Int) : EStateM String (Store σ) Int := fun store =>
  match base.resolve store with
  | .ok number store => .ok (f number) store
  | .error error store => .error error.message store

/-- Declare the integer that applies a function to this one. -/
def map (base : Deferred σ) (name : String) (f : Int -> Int) : StateM Arena (Deferred σ) :=
  derived name (base.mapRule f)

/-- The handle as diagnostics show it, with the value bound now. -/
def describe (value : Deferred σ) (store : Store σ) : String :=
  let state :=
    match value.source with
    | .parameter slot =>
        match store.read? slot with
        | some number => "= " ++ toString number
        | none => "unbound"
    | .derived _ => "derived"
  Text.tuple "DeferredValue" [value.name, value.id.describe, state]

end Deferred

end LoopNest
