import Std.Data.ExtTreeMap.Lemmas

namespace LoopNest

/-!
# Identity tokens

Values are looked up by identity and never by structure: two arrays with the
same element type and the same layout may still stand for different buffers.
Every handle therefore carries a `Token`, issued once by an `Arena` when the
handle is declared, and a copy of the handle keeps it.

An arena issues tokens in sequence.  What it remembers is the kind of handle
behind each token, so a token is its own position in that record.  Nests are
numbered separately: issuing a nest number never uses up a token.

Tokens are thirty-two bit words.  The order of their numbers is the order in
which tables keyed by tokens are listed.
-/

/-- Identity of one value that a kernel body may capture. -/
structure Token where
  raw : UInt32
deriving DecidableEq

namespace Token

instance : Ord Token :=
  ⟨fun left right => compare left.raw right.raw⟩

instance : Std.TransOrd Token where
  eq_swap := Std.OrientedOrd.eq_swap (α := UInt32)
  isLE_trans := Std.TransOrd.isLE_trans (α := UInt32)

instance : Std.LawfulEqOrd Token where
  compare_self := Std.ReflOrd.compare_self (α := UInt32)
  eq_of_compare equal :=
    congrArg Token.mk (Std.LawfulEqOrd.eq_of_compare (α := UInt32) equal)

/-- Position of the token in the record of the arena that issued it. -/
def position (token : Token) : Nat :=
  token.raw.toNat

/-- The token as diagnostics show it. -/
def describe (token : Token) : String :=
  s!"CaptureId({token.raw})"

end Token

/-- Identity of a nest, the owner of its loop indices. -/
structure NestId where
  raw : UInt32
deriving DecidableEq

/-- The nest number as diagnostics show it. -/
def NestId.describe (nest : NestId) : String :=
  s!"NestId({nest.raw})"

/-- What kind of handle a token was issued for. -/
inductive TokenKind where
  | index
  | array
  | deferred
  | scalar
deriving DecidableEq

/-- The kind in a word. -/
def TokenKind.name : TokenKind -> String
  | .index => "Index"
  | .array => "Array"
  | .deferred => "Deferred"
  | .scalar => "Opaque"

/-- Issues identity tokens and nest numbers, both from zero. -/
structure Arena where
  kinds : Array TokenKind
  nests : UInt32

namespace Arena

/-- Nothing has been issued yet. -/
def empty : Arena :=
  ⟨#[], 0⟩

/-- Issue the next token for a handle of the given kind. -/
def issue (kind : TokenKind) : StateM Arena Token := fun arena =>
  (⟨UInt32.ofNat arena.kinds.size⟩, { arena with kinds := arena.kinds.push kind })

/-- Issue the next nest number. -/
def issueNest : StateM Arena NestId := fun arena =>
  (⟨arena.nests⟩, { arena with nests := arena.nests + 1 })

/-- The kind a token was issued for, if this arena issued it. -/
def kind? (arena : Arena) (token : Token) : Option TokenKind :=
  arena.kinds[token.position]?

/-- Number of tokens issued so far. -/
def size (arena : Arena) : Nat :=
  arena.kinds.size

def isEmpty (arena : Arena) : Bool :=
  arena.kinds.isEmpty

@[simp] theorem size_issue (kind : TokenKind) (arena : Arena) :
    ((issue kind).run arena).2.size = arena.size + 1 :=
  Array.size_push kind

end Arena

end LoopNest
