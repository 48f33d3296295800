import LoopNest.Pass.Failure
import LoopNest.Text.CodePoints

namespace LoopNest

/-!
# The state of one pass

A pass turns a declared nest into native handles and kernels.  Its own state
is the identity map, which says what backend value each token has in this
pass, and the native space once there is one.  A new pass starts with an empty
map, so that nothing resolved earlier is substituted again.

A pass acts on a backend and on the store of the client.  Both are part of the
state here, as the pass has them at the moment.  A step that fails keeps what
it did to any part of the state before it failed.

The one option that a pass has concerns sequences: an element without a backend
value is dropped, or else it makes the pass fail.
-/

/-- Options of a pass. -/
structure PassOptions where
  /-- Fail on an element without a backend value instead of dropping it. -/
  strictSequences : Bool
deriving DecidableEq

namespace PassOptions

/-- Elements without a backend value are dropped. -/
def lenient : PassOptions :=
  ⟨false⟩

/-- Does the text of a setting switch it on?  Blanks around it and the case of
ASCII letters do not matter. -/
def isSwitchedOn (setting : String) : Bool :=
  let word := String.ofList ((Text.trimBlank setting.toList).map Char.toLower)
  ["1", "true", "yes", "on"].contains word

/-- The options that a setting of the environment asks for, if it is there. -/
def ofSetting (setting? : Option String) : PassOptions :=
  ⟨setting?.any isSwitchedOn⟩

end PassOptions

/-- The backend value of each token, in the order of the tokens. -/
abbrev IdentityMap := Std.ExtTreeMap Token NativeValue

/-- The arguments of the function that is built: what the front end captures,
and what the caller supplies for it. -/
structure Arguments (σ : Type) where
  captures : List (Capture σ)
  runtime : List RuntimeArgument

namespace Arguments

variable {σ : Type}

def empty : Arguments σ :=
  ⟨[], []⟩

/-- Append one argument. -/
def push (arguments : Arguments σ) (capture : Capture σ) (runtime : RuntimeArgument) :
    Arguments σ :=
  ⟨arguments.captures ++ [capture], arguments.runtime ++ [runtime]⟩

end Arguments

/-- The state of one pass. -/
structure Pass (β σ : Type) where
  backend : β
  store : Store σ
  identities : IdentityMap
  space : Option NativeSpace
  arguments : Arguments σ
  options : PassOptions

/-- A step of a pass. -/
abbrev PassM (β σ : Type) := EStateM NestError (Pass β σ)

namespace Pass

variable {β σ α : Type}

/-- A pass that has done nothing yet. -/
def start (backend : β) (store : Store σ) (arguments : Arguments σ) (options : PassOptions) :
    Pass β σ :=
  { backend, store, identities := ∅, space := none, arguments, options }

/-- The backend value of a captured value, if its token has one. -/
def lookup? (pass : Pass β σ) (capture : Capture σ) : Option NativeValue :=
  capture.identity?.bind fun token => pass.identities[token]?

/-- Let the backend do something. -/
def onBackend (operation : EStateM BackendError β α) : PassM β σ α := fun pass =>
  match operation pass.backend with
  | .ok result backend => .ok result { pass with backend }
  | .error error backend => .error (.backend error) { pass with backend }

/-- Do something with the store; `failure` tells what its failures mean. -/
def onStore {ε : Type} (failure : ε -> NestError) (operation : EStateM ε (Store σ) α) :
    PassM β σ α := fun pass =>
  match operation pass.store with
  | .ok result store => .ok result { pass with store }
  | .error error store => .error (failure error) { pass with store }

/-- Give a token a backend value, in place of any earlier one. -/
def record (token : Token) (value : NativeValue) : PassM β σ Unit := fun pass =>
  .ok () { pass with identities := pass.identities.insert token value }

/-- Use a native space from now on. -/
def enterSpace (space : NativeSpace) : PassM β σ Unit := fun pass =>
  .ok () { pass with space := some space }

end Pass

end LoopNest
