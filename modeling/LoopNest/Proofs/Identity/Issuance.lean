import LoopNest.Declaration.Capture
import LoopNest.Nest.Basic

namespace LoopNest

/-!
# Handles of one arena

A front end asks one arena for everything that it declares: bare tokens, nest
numbers, and handles, each of which takes one token.  As long as the tokens fit
their words, two handles that were declared separately carry different tokens.
So among the values of one arena a token stands for one handle and its copies.
-/

/-- One use of an arena. -/
inductive Request (σ : Type) where
  /-- A token without a handle. -/
  | token (kind : TokenKind)
  /-- The number of a nest. -/
  | nest
  | index (owner : NestId) (dimension : UInt32)
  | array (source : ArraySource) (elementType : ElementType) (layout : Layout)
  | deferred (name : String) (source : DeferredSource σ)
  | scalar (value : Scalar)

/-- The kind of the token that a request takes, if it takes one. -/
def Request.kind? {σ : Type} : Request σ -> Option TokenKind
  | .token kind => some kind
  | .nest => none
  | .index _ _ => some .index
  | .array _ _ _ => some .array
  | .deferred _ _ => some .deferred
  | .scalar _ => some .scalar

namespace Arena

variable {σ : Type}

/-- Serve one request, with the handle that it makes if it makes one. -/
def serve : Request σ -> StateM Arena (Option (Capture σ))
  | .token kind => do
      let _ <- issue kind
      pure none
  | .nest => do
      let _ <- issueNest
      pure none
  | .index owner dimension => do
      let loop <- LoopIndex.declare owner dimension
      pure (some (.index loop))
  | .array source elementType layout => do
      let handle <- ArrayHandle.declare source elementType layout
      pure (some (.array handle))
  | .deferred name source => do
      let value <- Deferred.declare name source
      pure (some (.deferred value))
  | .scalar value => do
      let scalar <- TaggedScalar.declare value
      pure (some (.scalar scalar))

/-- Serve requests in order, with all handles that they make. -/
def serveAll : List (Request σ) -> StateM Arena (List (Capture σ))
  | [] => pure []
  | request :: rest => do
      let handle? <- serve request
      let handles <- serveAll rest
      pure (handle?.toList ++ handles)

/-- The record of an arena grows by the kind of the token that was taken. -/
theorem kinds_serve (request : Request σ) (arena : Arena) :
    ((serve request).run arena).2.kinds.toList = arena.kinds.toList ++ request.kind?.toList := by
  cases request with
  | nest => exact (List.append_nil _).symm
  | token kind => exact Array.toList_push
  | index owner dimension => exact Array.toList_push
  | array source elementType layout => cases source <;> exact Array.toList_push
  | deferred name source => exact Array.toList_push
  | scalar value => exact Array.toList_push

theorem size_serve (request : Request σ) (arena : Arena) :
    ((serve request).run arena).2.size = arena.size + request.kind?.toList.length := by
  have grown := congrArg List.length (kinds_serve request arena)
  rwa [List.length_append] at grown

/-- A new handle carries the number of tokens issued before it. -/
theorem identity_of_serve (request : Request σ) (arena : Arena) (handle : Capture σ)
    (made : ((serve request).run arena).1 = some handle) :
    handle.identity? = some ⟨UInt32.ofNat arena.size⟩ ∧
      ((serve request).run arena).2.size = arena.size + 1 := by
  rw [size_serve]
  cases request with
  | token kind => cases made
  | nest => cases made
  | index owner dimension =>
      cases made
      exact ⟨rfl, rfl⟩
  | array source elementType layout =>
      cases source <;> cases made <;> exact ⟨rfl, rfl⟩
  | deferred name source =>
      cases made
      exact ⟨rfl, rfl⟩
  | scalar value =>
      cases made
      exact ⟨rfl, rfl⟩

/-- The handles made by requests carry tokens of their own, and none of them is
a token that was issued before the first request. -/
theorem identities_of_serveAll (requests : List (Request σ)) (arena : Arena)
    (room : ((serveAll requests).run arena).2.size <= UInt32.size) :
    arena.size <= ((serveAll requests).run arena).2.size ∧
      (forall handle, handle ∈ ((serveAll requests).run arena).1 ->
        ∃ token, handle.identity? = some token ∧ arena.size <= token.position) ∧
      (((serveAll requests).run arena).1.map Capture.identity?).Nodup := by
  induction requests generalizing arena with
  | nil =>
      have handles : ((serveAll ([] : List (Request σ))).run arena).1 = [] := rfl
      rw [handles]
      exact ⟨Nat.le_refl _, fun handle member => absurd member List.not_mem_nil, List.nodup_nil⟩
  | cons request rest inductionHypothesis =>
      have later := inductionHypothesis ((serve request).run arena).2 room
      have grown := size_serve request arena
      cases made : ((serve request).run arena).1 with
      | none =>
          have handles : ((serveAll (request :: rest)).run arena).1 =
              ((serveAll rest).run ((serve request).run arena).2).1 := by
            change ((serve request).run arena).1.toList ++ _ = _
            rw [made]
            rfl
          rw [handles]
          refine ⟨Nat.le_trans (by omega) later.1, ?_, later.2.2⟩
          intro handle member
          rcases later.2.1 handle member with ⟨token, carried, above⟩
          exact ⟨token, carried, by omega⟩
      | some first =>
          have issued := identity_of_serve request arena first made
          have below : arena.size < UInt32.size :=
            Nat.lt_of_lt_of_le (by omega) (Nat.le_trans later.1 room)
          have position : Token.position ⟨UInt32.ofNat arena.size⟩ = arena.size :=
            UInt32.toNat_ofNat_of_lt below
          have handles : ((serveAll (request :: rest)).run arena).1 =
              first :: ((serveAll rest).run ((serve request).run arena).2).1 := by
            change ((serve request).run arena).1.toList ++ _ = _
            rw [made]
            rfl
          rw [handles]
          refine ⟨Nat.le_trans (by omega) later.1, ?_, ?_⟩
          · intro handle member
            rcases List.mem_cons.mp member with same | member
            · exact ⟨_, same ▸ issued.1, Nat.le_of_eq position.symm⟩
            · rcases later.2.1 handle member with ⟨token, carried, above⟩
              exact ⟨token, carried, by omega⟩
          · rw [List.map_cons, List.nodup_cons]
            refine ⟨?_, later.2.2⟩
            intro repeated
            rcases List.mem_map.mp repeated with ⟨handle, member, same⟩
            rcases later.2.1 handle member with ⟨token, carried, above⟩
            rw [carried, issued.1, Option.some.injEq] at same
            rw [same, position] at above
            omega

end Arena

/-! ## Declared nests -/

/-- The requests for the loop indices of a nest. -/
def Request.dimensions {σ : Type} (owner : NestId) (start : Nat) : Nat -> List (Request σ)
  | 0 => []
  | count + 1 => .index owner (UInt32.ofNat start) :: dimensions owner (start + 1) count

namespace Arena

/-- The loop indices of a nest are handles like any other. -/
theorem serveAll_dimensions {σ : Type} (owner : NestId) (start count : Nat) (arena : Arena) :
    (serveAll (Request.dimensions (σ := σ) owner start count)).run arena =
      (((LoopIndex.declareMany owner start count).run arena).1.map .index,
        ((LoopIndex.declareMany owner start count).run arena).2) := by
  induction count generalizing start arena with
  | zero => rfl
  | succ count inductionHypothesis =>
      have rest := inductionHypothesis (start + 1)
        ((LoopIndex.declare owner (UInt32.ofNat start)).run arena).2
      have handles := congrArg Prod.fst rest
      have arenas := congrArg Prod.snd rest
      refine Prod.ext (congrArg (_ :: ·) handles) ?_
      exact arenas

theorem length_declareMany (owner : NestId) (start count : Nat) (arena : Arena) :
    ((LoopIndex.declareMany owner start count).run arena).1.length = count := by
  induction count generalizing start arena with
  | zero => rfl
  | succ count inductionHypothesis => exact congrArg Nat.succ (inductionHypothesis _ _)

end Arena

/-! ## Values of one arena -/

/-- The values that carry a token are handles of one arena, or copies of them,
and the arena did not run out of tokens. -/
def FromOneArena {σ : Type} (values : List (Capture σ)) : Prop :=
  ∃ requests : List (Request σ),
    ((Arena.serveAll requests).run Arena.empty).2.size <= UInt32.size ∧
    forall value, value ∈ values -> value.identity?.isSome = true ->
      value ∈ ((Arena.serveAll requests).run Arena.empty).1

theorem FromOneArena.mono {σ : Type} {values others : List (Capture σ)}
    (issued : FromOneArena values)
    (members : forall value, value ∈ others -> value ∈ values) : FromOneArena others := by
  rcases issued with ⟨requests, room, handles⟩
  exact ⟨requests, room, fun value member => handles value (members value member)⟩

/-- Among the values of one arena a token stands for one handle. -/
theorem FromOneArena.eq_of_identity {σ : Type} {values : List (Capture σ)}
    (issued : FromOneArena values) {first second : Capture σ} {token : Token}
    (firstMember : first ∈ values) (secondMember : second ∈ values)
    (firstToken : first.identity? = some token) (secondToken : second.identity? = some token) :
    first = second := by
  rcases issued with ⟨requests, room, handles⟩
  have distinct := (Arena.identities_of_serveAll requests Arena.empty room).2.2
  have firstHandle := handles first firstMember (by rw [firstToken]; rfl)
  have secondHandle := handles second secondMember (by rw [secondToken]; rfl)
  rcases List.mem_iff_getElem?.mp firstHandle with ⟨position, found⟩
  rcases List.mem_iff_getElem?.mp secondHandle with ⟨other, otherFound⟩
  have within : position <
      (((Arena.serveAll requests).run Arena.empty).1.map Capture.identity?).length := by
    rw [List.length_map]
    exact (List.getElem?_eq_some_iff.mp found).1
  have same : position = other := by
    refine (List.getElem?_inj within distinct).mp ?_
    rw [List.getElem?_map, List.getElem?_map, found, otherFound, Option.map_some,
      Option.map_some, firstToken, secondToken]
  rw [same, otherFound] at found
  exact (Option.some.inj found).symm

end LoopNest
