import LoopNest.Declaration.Predicate
import LoopNest.Logic.Scope
import LoopNest.Text.Identifier
import LoopNest.Text.Outline

namespace LoopNest

/-!
# Logic functions

A logic function is the body of a kernel together with the values that it
closes over, each under a name of its own.  It never changes once it is built.
What a pass substitutes for its captured values belongs to that pass and is
not kept with the function.

Names are identifiers and no name is captured twice.  The second rule is part
of the type, so that a name always means one captured value.
-/

/-- Why a logic function cannot be built. -/
inductive LogicDefect where
  | functionName
  | captureName (name : String)
  | repeatedCapture (name : String)
  | noBody
deriving DecidableEq

def LogicDefect.message : LogicDefect -> String
  | .functionName => "name is not an identifier"
  | .captureName name => "capture name `" ++ name ++ "` is not an identifier"
  | .repeatedCapture name => "capture `" ++ name ++ "` is declared twice"
  | .noBody => "no body"

/-- A logic function that cannot be built, by name. -/
structure InvalidLogic where
  name : String
  defect : LogicDefect
deriving DecidableEq

def InvalidLogic.message (error : InvalidLogic) : String :=
  "invalid logic `" ++ error.name ++ "`: " ++ error.defect.message

/-- A body reads its scope and may change the store. -/
abbrev Body (σ : Type) := Scope σ -> Store σ -> Store σ

/-- A kernel body and the values that it closes over, by name. -/
structure LogicFunction (σ : Type) where
  name : String
  captures : List (String × Capture σ)
  body : Body σ
  names_distinct : (captures.map Prod.fst).Nodup

namespace LogicFunction

variable {σ : Type}

/-- The first defect among capture names, when those in `earlier` come before
them.  A name that is no identifier is not looked at for repetition. -/
def nameDefect? (earlier : List String) : List String -> Option LogicDefect
  | [] => none
  | name :: rest =>
      if Text.isIdentifier name = false then some (.captureName name)
      else if name ∈ earlier then some (.repeatedCapture name)
      else nameDefect? (earlier ++ [name]) rest

theorem nodup_of_nameDefect?_eq_none (earlier names : List String)
    (fine : nameDefect? earlier names = none) (distinct : earlier.Nodup) :
    (earlier ++ names).Nodup := by
  induction names generalizing earlier with
  | nil => simpa using distinct
  | cons name rest ih =>
      unfold nameDefect? at fine
      split at fine
      · contradiction
      · split at fine
        · contradiction
        · next fresh =>
            have longer : (earlier ++ [name]).Nodup := by
              rw [List.nodup_append]
              refine ⟨distinct, by simp, ?_⟩
              intro other member last same
              rw [List.mem_singleton] at same
              intro equal
              exact fresh (same ▸ equal ▸ member)
            simpa using ih (earlier ++ [name]) fine longer

/-- Build a logic function.  The name of the function is checked first, then
the names of the captured values in order, and last that there is a body. -/
def build (name : String) (captures : List (String × Capture σ)) (body? : Option (Body σ)) :
    Except InvalidLogic (LogicFunction σ) :=
  if Text.isIdentifier name then
    match checked : nameDefect? [] (captures.map Prod.fst) with
    | some defect => .error ⟨name, defect⟩
    | none =>
        match body? with
        | none => .error ⟨name, .noBody⟩
        | some body =>
            .ok
              { name
                captures
                body
                names_distinct := nodup_of_nameDefect?_eq_none [] _ checked List.nodup_nil }
  else .error ⟨name, .functionName⟩

/-- The value captured under a name. -/
def capture? (logic : LogicFunction σ) (name : String) : Option (Capture σ) :=
  logic.captures.lookup name

/-- What the body sees under a substitution. -/
def scope (logic : LogicFunction σ) (substitution : Substitution) : Scope σ :=
  ⟨logic.captures, substitution⟩

/-- Run the body under a substitution. -/
def invoke (logic : LogicFunction σ) (substitution : Substitution) (store : Store σ) : Store σ :=
  logic.body (logic.scope substitution) store

/-- The function as diagnostics show it, without its body. -/
def describe (logic : LogicFunction σ) (store : Store σ) : String :=
  let captures := logic.captures.map fun entry =>
    Text.tuple "" [Text.quoted entry.1, entry.2.describe store]
  Text.openRecord "LogicFunction"
    [Text.field "name" (Text.quoted logic.name), Text.field "captures" (Text.items captures)]

end LogicFunction

/-- Scheduling of a logic function in its nest. -/
structure Scheduling where
  predicate : Option Predicate
  placement : Option Placement
deriving DecidableEq

/-- The function runs at every iteration, where the backend puts it. -/
def Scheduling.plain : Scheduling :=
  ⟨none, none⟩

end LoopNest
