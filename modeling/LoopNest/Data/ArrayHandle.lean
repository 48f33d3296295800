import LoopNest.Data.Layout
import LoopNest.Identity.Token

namespace LoopNest

/-!
# Array handles

An array handle stands for a buffer that the backend will provide.  How it
provides it is decided by the role of the handle: scratch storage is allocated
anew in every pass, a constant is resolved from data that the handle carries,
and the arguments of a function are supplied by the caller.

A record of an array keeps its role and its data in fields of their own, which
need not go together.  There are four ways to declare an array, and they all
give records of which exactly the constants have data.  A handle is such a
record; its proof field keeps all others out.

Identity is the token alone.  Two handles built from the same description are
distinct, and a copy of a handle is the same array.
-/

/-- How an array gets its backend counterpart. -/
inductive ArrayRole where
  /-- Scratch storage, allocated in every pass. -/
  | temporary
  /-- Read-only data of the front end. -/
  | constant
  /-- Read-only function argument. -/
  | input
  /-- Function argument that is also written. -/
  | inputOutput
deriving DecidableEq

namespace ArrayRole

def name : ArrayRole -> String
  | .temporary => "Temporary"
  | .constant => "Constant"
  | .input => "Input"
  | .inputOutput => "InputOutput"

/-- Is the counterpart supplied by the caller instead of made in the pass? -/
def isArgument : ArrayRole -> Bool
  | .temporary => false
  | .constant => false
  | .input => true
  | .inputOutput => true

end ArrayRole

/-- What is kept of an array.  Nothing here ties the data to the role. -/
structure ArrayRecord where
  id : Token
  role : ArrayRole
  elementType : ElementType
  layout : Layout
  data? : Option ConstantData
deriving DecidableEq

/-- The data go with the role. -/
def ArrayRecord.WellFormed (array : ArrayRecord) : Prop :=
  array.data?.isSome = true <-> array.role = .constant

instance (array : ArrayRecord) : Decidable array.WellFormed :=
  inferInstanceAs (Decidable (_ <-> _))

/-- Front-end reference to a buffer. -/
structure ArrayHandle where
  record : ArrayRecord
  wellFormed : record.WellFormed
deriving DecidableEq

/-- A way to declare an array, with the data of a constant. -/
inductive ArraySource where
  | temporary
  | constant (data : ConstantData)
  | input
  | inputOutput
deriving DecidableEq

namespace ArraySource

def role : ArraySource -> ArrayRole
  | .temporary => .temporary
  | .constant _ => .constant
  | .input => .input
  | .inputOutput => .inputOutput

def data? : ArraySource -> Option ConstantData
  | .constant data => some data
  | .temporary => none
  | .input => none
  | .inputOutput => none

end ArraySource

namespace ArrayHandle

section Declaration

variable (elementType : ElementType) (layout : Layout)

/-- A new handle with this role and these data. -/
def withRole (role : ArrayRole) (data? : Option ConstantData)
    (fits : data?.isSome = true <-> role = .constant) : StateM Arena ArrayHandle := fun arena =>
  let (id, arena) := Arena.issue .array arena
  (⟨⟨id, role, elementType, layout, data?⟩, fits⟩, arena)

/-- Declare scratch storage. -/
def temporary : StateM Arena ArrayHandle :=
  withRole elementType layout .temporary none (by decide)

/-- Declare a constant. -/
def constant (data : ConstantData) : StateM Arena ArrayHandle :=
  withRole elementType layout .constant (some data) ⟨fun _ => rfl, fun _ => rfl⟩

/-- Declare an argument that is read. -/
def input : StateM Arena ArrayHandle :=
  withRole elementType layout .input none (by decide)

/-- Declare an argument that is read and written. -/
def inputOutput : StateM Arena ArrayHandle :=
  withRole elementType layout .inputOutput none (by decide)

end Declaration

/-- Declare an array in one of the four ways. -/
def declare (source : ArraySource) (elementType : ElementType) (layout : Layout) :
    StateM Arena ArrayHandle :=
  match source with
  | .temporary => temporary elementType layout
  | .constant data => constant elementType layout data
  | .input => input elementType layout
  | .inputOutput => inputOutput elementType layout

def id (array : ArrayHandle) : Token :=
  array.record.id

def role (array : ArrayHandle) : ArrayRole :=
  array.record.role

def elementType (array : ArrayHandle) : ElementType :=
  array.record.elementType

def layout (array : ArrayHandle) : Layout :=
  array.record.layout

/-- The contents of a constant. -/
def data? (array : ArrayHandle) : Option ConstantData :=
  array.record.data?

theorem data?_isSome_iff (array : ArrayHandle) :
    array.data?.isSome = true <-> array.role = .constant :=
  array.wellFormed

theorem data?_ne_none (array : ArrayHandle) (constant : array.role = .constant) :
    array.data? ≠ none :=
  Option.isSome_iff_ne_none.mp (array.data?_isSome_iff.mpr constant)

/-- The way in which the array was declared. -/
def source (array : ArrayHandle) : ArraySource :=
  match kind : array.role with
  | .temporary => .temporary
  | .constant => .constant (array.data?.get (array.data?_isSome_iff.mpr kind))
  | .input => .input
  | .inputOutput => .inputOutput

/-- The handle as diagnostics show it: its data and the order of its
dimensions are left out. -/
def describe (array : ArrayHandle) : String :=
  Text.openRecord "ArrayHandle"
    [Text.field "id" array.id.describe, Text.field "role" array.role.name,
      Text.field "element_type" array.elementType.name,
      Text.field "shape" (Layout.describeShape array.layout.shape)]

/-- Only a constant has data. -/
theorem data?_eq_none (array : ArrayHandle) (other : array.role ≠ .constant) :
    array.data? = none := by
  rw [← Option.not_isSome_iff_eq_none, data?_isSome_iff]
  exact other

@[simp] theorem role_source (array : ArrayHandle) : array.source.role = array.role := by
  unfold source
  split <;> exact Eq.symm ‹_›

@[simp] theorem data?_source (array : ArrayHandle) : array.source.data? = array.data? := by
  have bare {role : ArrayRole} (kind : array.role = role) (other : role ≠ .constant) :
      none = array.data? := (array.data?_eq_none (kind ▸ other)).symm
  unfold source
  split
  next kind => exact bare kind nofun
  next kind => exact Option.some_get _
  next kind => exact bare kind nofun
  next kind => exact bare kind nofun

end ArrayHandle

end LoopNest
