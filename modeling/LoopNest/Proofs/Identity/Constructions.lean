import LoopNest.Proofs.Nest.Space
import Mathlib.Data.List.Nodup

namespace LoopNest

/-!
# What is made in one arena

Everything that a front end makes in one arena takes the next tokens or the next
nest number.  A handle takes one token, a nest its number and one token for each
of its dimensions, and a bare nest number takes no token.  So the token of a
handle is its place among all handles that were made, whatever else was made
between them, and the arena remembers its kind at that place from then on.

Two loop indices of one arena are therefore the same if their tokens are: the
owner and the dimension, at which the comparison looks as well, come with the
token.
-/

/-- The kind of token that a value carries.  Sequences carry none. -/
def Capture.tokenKind? {σ : Type} : Capture σ -> Option TokenKind
  | .deferred _ => some .deferred
  | .index _ => some .index
  | .array _ => some .array
  | .scalar _ => some .scalar
  | .sequence _ => none
  | .lazy _ => none

/-- One thing that a front end makes in an arena. -/
inductive Construction (σ : Type) where
  /-- The number of a nest, without the nest. -/
  | nestNumber
  | nest (shape : List (Extent σ))
  | index (owner : NestId) (dimension : UInt32)
  | array (source : ArraySource) (elementType : ElementType) (layout : Layout)
  | parameter (name : String) (slot : Slot)
  | derived (name : String) (rule : EStateM String (Store σ) Int)
  /-- An integer that applies a function to another one. -/
  | mapped (base : Deferred σ) (name : String) (f : Int -> Int)
  | scalar (value : Scalar)

/-- The handles and the nest numbers that were made, both in order. -/
structure Made (σ : Type) where
  handles : List (Capture σ)
  nests : List NestId

namespace Made

variable {σ : Type}

def nothing : Made σ :=
  ⟨[], []⟩

def handle (handle : Capture σ) : Made σ :=
  ⟨[handle], []⟩

/-- What was made later comes last. -/
def append (earlier later : Made σ) : Made σ :=
  ⟨earlier.handles ++ later.handles, earlier.nests ++ later.nests⟩

theorem append_nothing (made : Made σ) : made.append nothing = made := by
  simp [append, nothing]

theorem append_assoc (first second third : Made σ) :
    (first.append second).append third = first.append (second.append third) := by
  simp [append]

end Made

namespace Arena

variable {σ : Type}

/-- Make one thing. -/
def construct : Construction σ -> StateM Arena (Made σ)
  | .nestNumber => do
      let number <- issueNest
      pure ⟨[], [number]⟩
  | .nest shape => do
      let nest <- Nest.declare shape
      pure ⟨nest.ownIndices.map .index, [nest.id]⟩
  | .index owner dimension => do
      let loop <- LoopIndex.declare owner dimension
      pure (.handle (.index loop))
  | .array source elementType layout => do
      let array <- ArrayHandle.declare source elementType layout
      pure (.handle (.array array))
  | .parameter name slot => do
      let value <- Deferred.parameter name slot
      pure (.handle (.deferred value))
  | .derived name rule => do
      let value <- Deferred.derived name rule
      pure (.handle (.deferred value))
  | .mapped base name f => do
      let value <- base.map name f
      pure (.handle (.deferred value))
  | .scalar value => do
      let scalar <- TaggedScalar.declare value
      pure (.handle (.scalar scalar))

/-- Make one thing after the other. -/
def constructAll : List (Construction σ) -> StateM Arena (Made σ)
  | [] => pure .nothing
  | construction :: rest => do
      let first <- construct construction
      let others <- constructAll rest
      pure (first.append others)

/-- What the constructions make in a new arena. -/
def madeBy (constructions : List (Construction σ)) : Made σ :=
  ((constructAll constructions).run empty).1

/-- The arena in which the constructions were made, after them. -/
def after (constructions : List (Construction σ)) : Arena :=
  ((constructAll constructions).run empty).2

/-! ## What an arena knows of what was made in it -/

/-- The handles carry the tokens of the arena in order and the arena has their
kinds, and the nests have its numbers in order. -/
structure Holds (arena : Arena) (made : Made σ) : Prop where
  kinds : arena.kinds.toList.map some = made.handles.map Capture.tokenKind?
  tokens : made.handles.map Capture.identity? =
    (List.range arena.size).map fun position => some ⟨UInt32.ofNat position⟩
  numbers : made.nests = (List.range made.nests.length).map fun number => ⟨UInt32.ofNat number⟩
  nests : arena.nests = UInt32.ofNat made.nests.length

namespace Holds

variable {arena : Arena} {made : Made σ}

theorem nothing : Holds empty (.nothing : Made σ) :=
  ⟨rfl, rfl, rfl, rfl⟩

/-- There are as many tokens as handles. -/
theorem length_handles (holds : Holds arena made) : made.handles.length = arena.size := by
  have counted := congrArg List.length holds.tokens
  rwa [List.length_map, List.length_map, List.length_range] at counted

/-- A new handle takes the next token. -/
theorem issue (holds : Holds arena made) {kind : TokenKind} {handle : Capture σ}
    (carries : handle.identity? = some ((Arena.issue kind).run arena).1)
    (isKind : handle.tokenKind? = some kind) :
    Holds ((Arena.issue kind).run arena).2 (made.append (.handle handle)) where
  kinds := by
    have grown : ((Arena.issue kind).run arena).2.kinds.toList = arena.kinds.toList ++ [kind] :=
      Array.toList_push
    rw [grown, List.map_append, holds.kinds, Made.append, Made.handle, List.map_append,
      List.map_singleton, List.map_singleton, isKind]
  tokens := by
    rw [size_issue, List.range_succ, List.map_append, ← holds.tokens, Made.append, Made.handle,
      List.map_append, List.map_singleton, List.map_singleton, carries]
    rfl
  numbers := by
    rw [Made.append, Made.handle, List.append_nil]
    exact holds.numbers
  nests := by
    rw [Made.append, Made.handle, List.append_nil]
    exact holds.nests

/-- A new nest takes the next number and no token. -/
theorem issueNest (holds : Holds arena made) :
    Holds (Arena.issueNest.run arena).2 (made.append ⟨[], [(Arena.issueNest.run arena).1]⟩) where
  kinds := by
    rw [Made.append, List.append_nil]
    exact holds.kinds
  tokens := by
    rw [Made.append, List.append_nil]
    exact holds.tokens
  numbers := by
    have next : (Arena.issueNest.run arena).1 = ⟨UInt32.ofNat made.nests.length⟩ :=
      congrArg NestId.mk holds.nests
    rw [Made.append, List.length_append, List.length_singleton, List.range_succ, List.map_append,
      ← holds.numbers, next, List.map_singleton]
  nests := by
    have next : (Arena.issueNest.run arena).2.nests = arena.nests + 1 := rfl
    rw [next, holds.nests, Made.append, List.length_append, List.length_singleton,
      UInt32.ofNat_add]
    rfl

theorem declareMany (holds : Holds arena made) (owner : NestId) (start count : Nat) :
    Holds ((LoopIndex.declareMany owner start count).run arena).2
      (made.append
        ⟨((LoopIndex.declareMany owner start count).run arena).1.map .index, []⟩) := by
  induction count generalizing start arena made with
  | zero =>
      have same : made.append ⟨[], []⟩ = made := made.append_nothing
      exact same.symm ▸ holds
  | succ count inductionHypothesis =>
      let first := (LoopIndex.declare owner (UInt32.ofNat start)).run arena
      have one : Holds first.2 (made.append (.handle (.index first.1))) := holds.issue rfl rfl
      have rest := inductionHypothesis one (start + 1)
      rw [Made.append_assoc] at rest
      exact rest

/-- Whatever is made, the arena holds it with all that it held before. -/
theorem construct (holds : Holds arena made) (construction : Construction σ) :
    Holds ((Arena.construct construction).run arena).2
      (made.append ((Arena.construct construction).run arena).1) := by
  cases construction with
  | nestNumber => exact holds.issueNest
  | nest shape =>
      have loops := holds.issueNest.declareMany ⟨arena.nests⟩ 0 shape.length
      rw [Made.append_assoc, ← Nest.ownIndices_declare] at loops
      exact loops
  | index owner dimension => exact holds.issue rfl rfl
  | array source elementType layout => cases source <;> exact holds.issue rfl rfl
  | parameter name slot => exact holds.issue rfl rfl
  | derived name rule => exact holds.issue rfl rfl
  | mapped base name f => exact holds.issue rfl rfl
  | scalar value => exact holds.issue rfl rfl

theorem constructAll (holds : Holds arena made) (constructions : List (Construction σ)) :
    Holds ((Arena.constructAll constructions).run arena).2
      (made.append ((Arena.constructAll constructions).run arena).1) := by
  induction constructions generalizing arena made with
  | nil => exact made.append_nothing.symm ▸ holds
  | cons construction rest inductionHypothesis =>
      have all := inductionHypothesis (holds.construct construction)
      rw [Made.append_assoc] at all
      exact all

end Holds

/-- After any constructions the arena holds what they made. -/
theorem holds_after (constructions : List (Construction σ)) :
    Holds (after constructions) (madeBy constructions) :=
  Holds.nothing.constructAll constructions

/-- What is made later goes after what was made before. -/
theorem constructAll_append (constructions later : List (Construction σ)) (arena : Arena) :
    (constructAll (constructions ++ later)).run arena =
      let first := (constructAll constructions).run arena
      let others := (constructAll later).run first.2
      (first.1.append others.1, others.2) := by
  induction constructions generalizing arena with
  | nil => rfl
  | cons construction rest inductionHypothesis =>
      have behind := inductionHypothesis ((construct construction).run arena).2
      refine Prod.ext ?_ (congrArg Prod.snd behind :)
      exact (congrArg (Made.append _ ·.1) behind).trans (Made.append_assoc _ _ _).symm

namespace Holds

variable {arena : Arena} {made : Made σ}

/-! ## What follows as long as tokens and numbers fit their words -/

theorem positions (holds : Holds arena made) (room : arena.size <= UInt32.size) :
    made.handles.map (fun handle => handle.identity?.map Token.position) =
      (List.range arena.size).map some := by
  have mapped := congrArg (List.map (Option.map Token.position)) holds.tokens
  rw [List.map_map, List.map_map] at mapped
  refine mapped.trans (List.map_congr_left fun position within => ?_)
  have fits := Nat.lt_of_lt_of_le (List.mem_range.mp within) room
  exact congrArg some (UInt32.toNat_ofNat_of_lt fits)

theorem nodup_tokens (holds : Holds arena made) (room : arena.size <= UInt32.size) :
    (made.handles.map Capture.identity?).Nodup := by
  refine List.Nodup.of_map (Option.map Token.position) ?_
  rw [List.map_map]
  exact (holds.positions room) ▸ List.nodup_range.map fun _ _ => Option.some.inj

theorem nodup_nests (holds : Holds arena made) (room : made.nests.length <= UInt32.size) :
    made.nests.Nodup := by
  rw [holds.numbers]
  refine List.nodup_range.map_on fun number within other otherWithin same => ?_
  have fits := Nat.lt_of_lt_of_le (List.mem_range.mp within) room
  have otherFits := Nat.lt_of_lt_of_le (List.mem_range.mp otherWithin) room
  have words : (UInt32.ofNat number).toNat = (UInt32.ofNat other).toNat :=
    congrArg (fun nest : NestId => nest.raw.toNat) same
  rwa [UInt32.toNat_ofNat_of_lt' fits, UInt32.toNat_ofNat_of_lt' otherFits] at words

/-- The arena has the kind of a handle at the place of its token. -/
theorem kind_of_handle (holds : Holds arena made) {position : Nat} {handle : Capture σ}
    (found : made.handles[position]? = some handle) (fits : position < UInt32.size) :
    ∃ token kind, handle.identity? = some token ∧ handle.tokenKind? = some kind ∧
      arena.kind? token = some kind := by
  have within : position < arena.size := by
    rw [← holds.length_handles]
    exact (List.getElem?_eq_some_iff.mp found).1
  have token := congrArg (·[position]?) holds.tokens
  have kind := congrArg (·[position]?) holds.kinds
  simp only [List.getElem?_map, found, List.getElem?_range within, Option.map_some,
    Option.some.injEq, Array.getElem?_toList] at token kind
  rcases Option.map_eq_some_iff.mp kind with ⟨own, known, same⟩
  refine ⟨_, own, token, same.symm, ?_⟩
  have placed : Token.position ⟨UInt32.ofNat position⟩ = position :=
    UInt32.toNat_ofNat_of_lt fits
  rw [kind?, placed, known]

end Holds

theorem kind?_eq_none_iff (arena : Arena) (token : Token) :
    arena.kind? token = none <-> arena.size <= token.position :=
  Array.getElem?_eq_none_iff

/-- Handles that are made in one arena carry its tokens in order, from the first
to the last that it issued, so no two carry the same.  From then on the arena has
the kind of each at its token, and of no token that it did not issue.  A nest
number takes no token, and no nest number is given twice.  Loop indices are equal
if their tokens are. -/
theorem handles_take_tokens_in_order (constructions : List (Construction σ))
    (tokens : (after constructions).size < UInt32.size)
    (numbers : (madeBy constructions).nests.length < UInt32.size) :
    let arena := after constructions
    let handles := (madeBy constructions).handles
    (handles.map Capture.identity?).Nodup ∧
    handles.map (fun handle => handle.identity?.map Token.position) =
      (List.range arena.size).map some ∧
    (forall handle, handle ∈ handles -> forall later, ∃ token kind,
      handle.identity? = some token ∧ handle.tokenKind? = some kind ∧
        (after (constructions ++ later)).kind? token = some kind) ∧
    (forall token, arena.kind? token = none <-> arena.size <= token.position) ∧
    (after (constructions ++ [.nestNumber])).kinds = arena.kinds ∧
    (madeBy constructions).nests.Nodup ∧
    (forall first second : LoopIndex, .index first ∈ handles -> .index second ∈ handles ->
      ((first == second) = true <-> first.id = second.id)) := by
  intro arena handles
  have holds : Holds arena (madeBy constructions) := holds_after constructions
  have distinct := holds.nodup_tokens (Nat.le_of_lt tokens)
  refine ⟨distinct, holds.positions (Nat.le_of_lt tokens), fun handle member later => ?_,
    kind?_eq_none_iff arena, ?_, holds.nodup_nests (Nat.le_of_lt numbers),
    fun first second firstMember secondMember => ?_⟩
  · rcases List.mem_iff_getElem?.mp member with ⟨position, found⟩
    have within := (List.getElem?_eq_some_iff.mp found).1
    have fits : position < UInt32.size := by
      rw [holds.length_handles] at within
      exact Nat.lt_trans within tokens
    refine (holds_after (constructions ++ later)).kind_of_handle ?_ fits
    rw [madeBy, constructAll_append]
    exact (List.getElem?_append_left within).trans found
  · rw [after, constructAll_append]
    rfl
  · rw [beq_iff_eq]
    refine ⟨congrArg LoopIndex.id, fun same => ?_⟩
    have one := List.inj_on_of_nodup_map distinct firstMember secondMember (congrArg some same)
    exact Capture.index.inj one

namespace Sample

/-- The number of rows, as it is made first. -/
def rows : Deferred Unit :=
  ((Deferred.parameter "rows" 0).run empty).1

/-- A nest over a parameter, with other things made before, between and after. -/
def constructions : List (Construction Unit) :=
  [.parameter "rows" 0, .nest [.deferred rows, .fixed 5], .nestNumber, .index ⟨1⟩ 7,
    .mapped rows "doubled" (2 * ·), .array .temporary .float64 ⟨[5], .first⟩, .scalar (.int 3)]

end Sample

/-- The two loops of the nest have the tokens after that of the parameter, the
bare nest number takes none, and the kinds are known when more is made. -/
theorem seven_tokens_in_order :
    let made := madeBy Sample.constructions
    made.handles.map (fun handle => handle.identity?.map Token.position) =
        [some 0, some 1, some 2, some 3, some 4, some 5, some 6] ∧
      made.nests = [⟨0⟩, ⟨1⟩] ∧ made.nests.Nodup ∧
      (forall handle, handle ∈ made.handles -> ∃ token kind, handle.identity? = some token ∧
        handle.tokenKind? = some kind ∧
          (after (Sample.constructions ++ [.nest [.fixed 2]])).kind? token = some kind) ∧
      (after Sample.constructions).kind? ⟨7⟩ = none := by
  intro made
  have size : (after Sample.constructions).size = 7 := rfl
  have tokens : (after Sample.constructions).size < UInt32.size := by
    rw [size]
    decide
  have nests : made.nests = [⟨0⟩, ⟨1⟩] := rfl
  have numbers : made.nests.length < UInt32.size := by
    rw [nests]
    decide
  rcases handles_take_tokens_in_order Sample.constructions tokens numbers with
    ⟨_, positions, kinds, unknown, _, distinct, _⟩
  refine ⟨?_, nests, distinct, fun handle member => kinds handle member _, ?_⟩
  · exact positions.trans (by rw [size]; decide)
  · refine (unknown ⟨7⟩).mpr ?_
    rw [size]
    decide

end Arena

/-! ## Handles of one arena -/

/-- What a construction asks of an arena in this state. -/
def Construction.requests {σ : Type} (arena : Arena) : Construction σ -> List (Request σ)
  | .nestNumber => [.nest]
  | .nest shape => .nest :: Request.dimensions ⟨arena.nests⟩ 0 shape.length
  | .index owner dimension => [.index owner dimension]
  | .array source elementType layout => [.array source elementType layout]
  | .parameter name slot => [.deferred name (.parameter slot)]
  | .derived name rule => [.deferred name (.derived rule)]
  | .mapped base name f => [.deferred name (.derived (base.mapRule f))]
  | .scalar value => [.scalar value]

namespace Arena

variable {σ : Type}

theorem serveAll_requests (construction : Construction σ) (arena : Arena) :
    (serveAll (construction.requests arena)).run arena =
      (((construct construction).run arena).1.handles, ((construct construction).run arena).2) := by
  cases construction with
  | nest shape =>
      have served := serveAll_dimensions (σ := σ) ⟨arena.nests⟩ 0 shape.length
        (issueNest.run arena).2
      refine Prod.ext (Nest.captures_declare shape arena).symm ?_
      exact (congrArg Prod.snd served :)
  | nestNumber => rfl
  | index owner dimension => rfl
  | array source elementType layout => rfl
  | parameter name slot => rfl
  | derived name rule => rfl
  | mapped base name f => rfl
  | scalar value => rfl

theorem serveAll_append (requests later : List (Request σ)) (arena : Arena) :
    (serveAll (requests ++ later)).run arena =
      let first := (serveAll requests).run arena
      let others := (serveAll later).run first.2
      (first.1 ++ others.1, others.2) := by
  induction requests generalizing arena with
  | nil => rfl
  | cons request rest inductionHypothesis =>
      have behind := inductionHypothesis ((serve request).run arena).2
      refine Prod.ext ?_ (congrArg Prod.snd behind :)
      exact (congrArg (_ ++ ·.1) behind).trans (List.append_assoc _ _ _).symm

/-- All constructions come down to requests, which make the same handles. -/
theorem exists_requests (constructions : List (Construction σ)) (arena : Arena) :
    ∃ requests : List (Request σ), (serveAll requests).run arena =
      (((constructAll constructions).run arena).1.handles,
        ((constructAll constructions).run arena).2) := by
  induction constructions generalizing arena with
  | nil => exact ⟨[], rfl⟩
  | cons construction rest inductionHypothesis =>
      rcases inductionHypothesis ((construct construction).run arena).2 with ⟨later, served⟩
      refine ⟨construction.requests arena ++ later, ?_⟩
      rw [serveAll_append, serveAll_requests]
      refine Prod.ext ?_ ?_
      · exact congrArg (_ ++ ·.1) served
      · exact (congrArg Prod.snd served :)

/-- So what is made in one arena may be taken for handles of one arena, as long as
there are tokens. -/
theorem fromOneArena_madeBy (constructions : List (Construction σ))
    (room : (after constructions).size <= UInt32.size) :
    FromOneArena (madeBy constructions).handles := by
  rcases exists_requests constructions empty with ⟨requests, served⟩
  refine ⟨requests, ?_, fun value member _ => ?_⟩
  · rw [served]
    exact room
  · rw [served]
    exact member

end Arena

end LoopNest
