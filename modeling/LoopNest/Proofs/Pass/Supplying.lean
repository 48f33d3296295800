import LoopNest.Proofs.First
import LoopNest.Proofs.Pass.Seeding

namespace LoopNest

/-!
# How far arguments are recorded

Arguments are recorded in order until one of them does not fit what the caller
supplies for it.  Those before it are then recorded as if they were all: the
buffers of the arrays among them are wrapped in order, once for each array, and
every token has the value of the last argument that carries it.
-/

namespace Capture

variable {σ : Type}

/-- What is wrong with an argument that does not fit.  What is wrong with a
sequence does not depend on what the caller supplies. -/
inductive Misfit : Capture σ -> RuntimeArgument -> ArgumentFault -> Prop
  | sequence (elements : List (Capture σ)) (runtime : RuntimeArgument) :
      Misfit (.sequence elements) runtime .sequence
  | lazy (produce : Store σ -> EStateM.Result String (Store σ) (List (Capture σ)))
      (runtime : RuntimeArgument) : Misfit (.lazy produce) runtime .sequence
  | array (handle : ArrayHandle) (value : Scalar) :
      Misfit (.array handle) (.scalar value) .bufferExpected
  | single {capture : Capture σ} {token : Token} (identity : capture.identity? = some token)
      (noArray : capture.handle? = none) (slot : UInt32) :
      Misfit capture (.buffer slot) (.scalarExpected capture.kindName)

theorem not_takes_iff (capture : Capture σ) (runtime : RuntimeArgument) :
    ¬ capture.Takes runtime <-> ∃ fault, capture.Misfit runtime fault := by
  constructor
  · intro refused
    cases capture with
    | array handle =>
        cases runtime with
        | buffer slot => exact absurd trivial refused
        | scalar value => exact ⟨_, .array handle value⟩
    | sequence elements => exact ⟨_, .sequence elements runtime⟩
    | lazy produce => exact ⟨_, .lazy produce runtime⟩
    | deferred value =>
        cases runtime with
        | buffer slot => exact ⟨_, .single rfl rfl slot⟩
        | scalar number => exact absurd trivial refused
    | index loop =>
        cases runtime with
        | buffer slot => exact ⟨_, .single rfl rfl slot⟩
        | scalar number => exact absurd trivial refused
    | scalar value =>
        cases runtime with
        | buffer slot => exact ⟨_, .single rfl rfl slot⟩
        | scalar number => exact absurd trivial refused
  · rintro ⟨fault, misfit⟩ takes
    cases misfit with
    | sequence elements runtime => exact takes
    | lazy produce runtime => exact takes
    | array handle value => exact takes
    | single identity noArray slot =>
        cases capture with
        | array handle => cases noArray
        | deferred value => exact takes
        | index loop => exact takes
        | scalar value => exact takes
        | sequence elements => exact takes
        | lazy produce => exact takes

end Capture

/-- The array that wraps the buffer of a handle under this number. -/
def ArrayHandle.wrappedAs (handle : ArrayHandle) (number : Nat) : NativeArray :=
  ⟨UInt32.ofNat number, handle.elementType, .argument⟩

/-- The backend value of an argument, if it fits; an array gets this number. -/
def Capture.supplied? {σ : Type} (number : Nat) : Capture σ -> RuntimeArgument -> Option NativeValue
  | .array handle, .buffer _ => some (.array (handle.wrappedAs number))
  | .deferred _, .scalar value => some (.scalar value)
  | .index _, .scalar value => some (.scalar value)
  | .scalar _, .scalar value => some (.scalar value)
  | .array _, .scalar _ => none
  | .deferred _, .buffer _ => none
  | .index _, .buffer _ => none
  | .scalar _, .buffer _ => none
  | .sequence _, _ => none
  | .lazy _, _ => none

namespace Capture

variable {σ : Type} {capture : Capture σ} {value : Scalar}

theorem Takes.handle?_scalar (takes : capture.Takes (.scalar value)) : capture.handle? = none := by
  cases capture with
  | array handle => exact False.elim takes
  | deferred value => rfl
  | index loop => rfl
  | scalar value => rfl
  | sequence elements => rfl
  | lazy produce => rfl

theorem Takes.supplied?_scalar (takes : capture.Takes (.scalar value)) (number : Nat) :
    capture.supplied? number (.scalar value) = some (.scalar value) := by
  cases capture with
  | array handle => exact False.elim takes
  | deferred value => rfl
  | index loop => rfl
  | scalar value => rfl
  | sequence elements => exact False.elim takes
  | lazy produce => exact False.elim takes

/-- Only arrays take buffers. -/
theorem Takes.exists_handle {slot : UInt32} (takes : capture.Takes (.buffer slot)) :
    ∃ handle, capture = .array handle := by
  cases capture with
  | array handle => exact ⟨handle, rfl⟩
  | deferred value => exact False.elim takes
  | index loop => exact False.elim takes
  | scalar value => exact False.elim takes
  | sequence elements => exact False.elim takes
  | lazy produce => exact False.elim takes

/-- An argument that fits has a backend value. -/
theorem Takes.exists_supplied {runtime : RuntimeArgument} (takes : capture.Takes runtime)
    (number : Nat) : ∃ value, capture.supplied? number runtime = some value := by
  cases runtime with
  | scalar value => exact ⟨_, takes.supplied?_scalar number⟩
  | buffer slot =>
      rcases takes.exists_handle with ⟨handle, rfl⟩
      exact ⟨_, rfl⟩

end Capture

namespace Arguments

variable {σ : Type}

/-- The handles of the arrays among the arguments, in order. -/
def handles (pairs : List (Capture σ × RuntimeArgument)) : List ArrayHandle :=
  (pairs.map Prod.fst).filterMap Capture.handle?

/-- The arrays that wrap the buffers of the handles, in order; `logged` arrays
come before them. -/
def wrapped (logged : Nat) (handles : List ArrayHandle) : List (NativeArray × Layout) :=
  handles.mapIdx fun place handle => (handle.wrappedAs (logged + place), handle.layout)

/-- The entry that an argument writes, if it fits. -/
def written? (number : Nat) (pair : Capture σ × RuntimeArgument) : Option (Token × NativeValue) :=
  pair.1.identity?.bind fun token => (pair.1.supplied? number pair.2).map (token, ·)

/-- The entries that the arguments write, in order; `logged` arrays come before
the first one. -/
def entries (logged : Nat) : List (Capture σ × RuntimeArgument) -> List (Token × NativeValue)
  | [] => []
  | pair :: rest =>
      (written? logged pair).toList ++ entries (logged + pair.1.handle?.toList.length) rest

theorem handles_append (earlier later : List (Capture σ × RuntimeArgument)) :
    handles (earlier ++ later) = handles earlier ++ handles later := by
  simp only [handles, List.map_append, List.filterMap_append]

theorem handles_cons (pair : Capture σ × RuntimeArgument)
    (rest : List (Capture σ × RuntimeArgument)) :
    handles (pair :: rest) = pair.1.handle?.toList ++ handles rest := by
  unfold handles
  rw [List.map_cons, List.filterMap_cons]
  cases pair.1.handle? <;> rfl

theorem wrapped_append (logged : Nat) (earlier later : List ArrayHandle) :
    wrapped logged (earlier ++ later) =
      wrapped logged earlier ++ wrapped (logged + earlier.length) later := by
  unfold wrapped
  rw [List.mapIdx_append]
  simp only [Nat.add_assoc, Nat.add_comm earlier.length]

theorem entries_append (logged : Nat) (earlier later : List (Capture σ × RuntimeArgument)) :
    entries logged (earlier ++ later) =
      entries logged earlier ++ entries (logged + (handles earlier).length) later := by
  induction earlier generalizing logged with
  | nil => rfl
  | cons pair rest inductionHypothesis =>
      rw [List.cons_append, entries, inductionHypothesis, entries, handles_cons,
        List.length_append, Nat.add_assoc, List.append_assoc]

/-- Only arguments write entries, and each of them its own token. -/
theorem notMem_entries {token : Token} {pairs : List (Capture σ × RuntimeArgument)}
    (absent : forall pair, pair ∈ pairs -> pair.1.identity? ≠ some token) (logged : Nat) :
    token ∉ (entries logged pairs).map Prod.fst := by
  induction pairs generalizing logged with
  | nil => exact List.not_mem_nil
  | cons pair rest inductionHypothesis =>
      rw [List.forall_mem_cons] at absent
      rw [entries, List.map_append, List.mem_append, not_or]
      refine ⟨?_, inductionHypothesis absent.2 _⟩
      intro written
      rcases List.mem_map.mp written with ⟨entry, member, rfl⟩
      rcases Option.bind_eq_some_iff.mp (Option.mem_toList.mp member) with
        ⟨token, identity, mapped⟩
      rcases Option.map_eq_some_iff.mp mapped with ⟨value, _, rfl⟩
      exact absent.1 identity

/-- The argument does not fit what the caller supplies for it. -/
def Mismatched (pair : Capture σ × RuntimeArgument) : Prop :=
  ∃ fault, pair.1.Misfit pair.2 fault

theorem takes_of_fitting {pairs : List (Capture σ × RuntimeArgument)}
    (fitting : forall pair, pair ∈ pairs -> ¬ Mismatched pair) :
    forall pair, pair ∈ pairs -> pair.1.Takes pair.2 := by
  intro pair member
  refine Classical.byContradiction fun refused => ?_
  exact fitting pair member ((Capture.not_takes_iff _ _).mp refused)

theorem entries_singleton {capture : Capture σ} {runtime : RuntimeArgument} {token : Token}
    {value : NativeValue} {number : Nat} (identity : capture.identity? = some token)
    (supplied : capture.supplied? number runtime = some value) :
    entries number [(capture, runtime)] = [(token, value)] := by
  unfold entries entries written?
  rw [identity, Option.bind_some, supplied]
  rfl

end Arguments

namespace Pass

variable {σ : Type}

/-- The pass after these arguments were recorded. -/
def supplied (pass : Pass (Recorder σ) σ) (pairs : List (Capture σ × RuntimeArgument)) :
    Pass (Recorder σ) σ :=
  { pass with
    backend :=
      { pass.backend with
        arrays := pass.backend.arrays ++
          Arguments.wrapped pass.backend.arrays.length (Arguments.handles pairs) }
    identities :=
      pass.identities.insertMany (Arguments.entries pass.backend.arrays.length pairs) }

/-- These arguments fit, and they are recorded on top of what the pass had: the
buffers of the arrays are wrapped in order, the last argument of a token gives
its value, and nothing else is changed. -/
structure Supplies (pass : Pass (Recorder σ) σ) (pairs : List (Capture σ × RuntimeArgument))
    (after : Pass (Recorder σ) σ) : Prop where
  takes : forall pair, pair ∈ pairs -> pair.1.Takes pair.2
  backend : after.backend =
    { pass.backend with
      arrays := pass.backend.arrays ++
        Arguments.wrapped pass.backend.arrays.length (Arguments.handles pairs) }
  store : after.store = pass.store
  space : after.space = pass.space
  arguments : after.arguments = pass.arguments
  options : after.options = pass.options
  last : forall {earlier later : List (Capture σ × RuntimeArgument)}
    {pair : Capture σ × RuntimeArgument} {token : Token}, pairs = earlier ++ pair :: later ->
      pair.1.identity? = some token ->
      (forall other, other ∈ later -> other.1.identity? ≠ some token) ->
        after.identities[token]? = pair.1.supplied?
          (pass.backend.arrays.length + (Arguments.handles earlier).length) pair.2
  others : forall {token : Token},
    (forall pair, pair ∈ pairs -> pair.1.identity? ≠ some token) ->
      after.identities[token]? = pass.identities[token]?

section Supplied

variable (pass : Pass (Recorder σ) σ)

@[simp] theorem supplied_nil : pass.supplied [] = pass := by
  simp [supplied, Arguments.handles, Arguments.wrapped, Arguments.entries]

theorem supplied_append (earlier later : List (Capture σ × RuntimeArgument)) :
    pass.supplied (earlier ++ later) = (pass.supplied earlier).supplied later := by
  have logged : (Arguments.wrapped pass.backend.arrays.length
      (Arguments.handles earlier)).length = (Arguments.handles earlier).length :=
    List.length_mapIdx
  simp only [supplied, Arguments.handles_append, Arguments.wrapped_append,
    Arguments.entries_append, Std.ExtTreeMap.insertMany_append, List.append_assoc,
    List.length_append, logged]

variable {pass}

/-- What is recorded for one argument. -/
theorem Seeded.eq_supplied {capture : Capture σ} {runtime : RuntimeArgument}
    {after : Pass (Recorder σ) σ} (seeded : Seeded pass capture runtime after) :
    after = pass.supplied [(capture, runtime)] := by
  cases seeded with
  | buffer handle slot accepted =>
      have entry : Arguments.entries pass.backend.arrays.length
          [(Capture.array (σ := σ) handle, .buffer slot)] =
            [(handle.id, .array (handle.wrappedAs pass.backend.arrays.length))] := rfl
      simp only [supplied, entry, Std.ExtTreeMap.insertMany_list_singleton]
      rfl
  | @scalar _ token value takes identity =>
      have entry := Arguments.entries_singleton identity
        (takes.supplied?_scalar pass.backend.arrays.length)
      have noArray := Arguments.handles_cons (capture, .scalar value) []
      rw [takes.handle?_scalar] at noArray
      simp only [supplied, entry, noArray, Std.ExtTreeMap.insertMany_list_singleton]
      simp [Arguments.handles, Arguments.wrapped]

/-- An argument that fits can be recorded if the backend wraps buffers. -/
theorem seeded_supplied (accepted : BackendOperation.wrapArgument ∉ pass.backend.rejected)
    {pair : Capture σ × RuntimeArgument} (takes : pair.1.Takes pair.2) :
    Seeded pass pair.1 pair.2 (pass.supplied [pair]) := by
  rcases pair with ⟨capture, runtime⟩
  rcases takes.identity with ⟨token, identity⟩
  cases runtime with
  | scalar value =>
      have seeded : Seeded pass capture (.scalar value) _ := .scalar takes identity
      rw [← seeded.eq_supplied]
      exact seeded
  | buffer slot =>
      rcases takes.exists_handle with ⟨handle, rfl⟩
      have seeded := Seeded.buffer handle slot accepted
      rw [← seeded.eq_supplied]
      exact seeded

/-- What arguments that fit leave behind. -/
theorem supplies_supplied {pairs : List (Capture σ × RuntimeArgument)}
    (takes : forall pair, pair ∈ pairs -> pair.1.Takes pair.2) :
    pass.Supplies pairs (pass.supplied pairs) where
  takes := takes
  backend := rfl
  store := rfl
  space := rfl
  arguments := rfl
  options := rfl
  last := by
    rintro earlier later ⟨capture, runtime⟩ token rfl identity isLast
    have fits : capture.Takes runtime :=
      takes (capture, runtime) (List.mem_append_right _ List.mem_cons_self)
    rcases fits.exists_supplied
      (pass.backend.arrays.length + (Arguments.handles earlier).length) with ⟨value, given⟩
    have split : earlier ++ (capture, runtime) :: later =
        earlier ++ ([(capture, runtime)] ++ later) := rfl
    rw [supplied, split, Arguments.entries_append, Arguments.entries_append,
      Arguments.entries_singleton identity given, given]
    exact IdentityMap.getElem?_insertMany_of_last (Arguments.notMem_entries isLast _) _ _ _
  others := fun absent =>
    IdentityMap.getElem?_insertMany_of_notMem (Arguments.notMem_entries absent _) _

end Supplied

/-! ## Runs of arguments -/

section Runs

variable {pass after : Pass (Recorder σ) σ} {pairs : List (Capture σ × RuntimeArgument)}

/-- A run of arguments that gives a result recorded all of them, and all of them
fit. -/
theorem supplied_of_seedFrom {position : Nat} (done : seedFrom position pairs pass = .ok () after) :
    (forall pair, pair ∈ pairs -> pair.1.Takes pair.2) ∧ after = pass.supplied pairs := by
  induction pairs generalizing position pass with
  | nil =>
      cases done
      exact ⟨nofun, (supplied_nil _).symm⟩
  | cons pair rest inductionHypothesis =>
      rcases (Outcome.bind_eq_ok_iff _ _ _ _ _).mp done with ⟨_, middle, first, later⟩
      have seeded := (seedArgument_eq_ok_iff _ _ _ _ _).mp first
      rcases inductionHypothesis later with ⟨takes, rfl⟩
      refine ⟨List.forall_mem_cons.mpr ⟨seeded.takes, takes⟩, ?_⟩
      rw [seeded.eq_supplied, ← supplied_append]
      rfl

theorem seedFrom_of_takes (accepted : BackendOperation.wrapArgument ∉ pass.backend.rejected)
    (takes : forall pair, pair ∈ pairs -> pair.1.Takes pair.2) (position : Nat) :
    seedFrom position pairs pass = .ok () (pass.supplied pairs) := by
  induction pairs generalizing position pass with
  | nil =>
      rw [supplied_nil]
      rfl
  | cons pair rest inductionHypothesis =>
      rw [List.forall_mem_cons] at takes
      have first := (seedArgument_eq_ok_iff position pair.1 pair.2 _ _).mpr
        (seeded_supplied accepted takes.1)
      have stillAccepted :
          BackendOperation.wrapArgument ∉ (pass.supplied [pair]).backend.rejected := accepted
      have later := inductionHypothesis stillAccepted takes.2 (position + 1)
      rw [← supplied_append] at later
      exact (Outcome.bind_of_ok first _).trans later

/-- On a recorder that rejects nothing, arguments can be recorded when each of
them fits what the caller supplies for it. -/
theorem succeeds_seedFrom_iff (position : Nat) (pairs : List (Capture σ × RuntimeArgument))
    (pass : Pass (Recorder σ) σ) (accepting : pass.backend.rejected = []) :
    Outcome.Succeeds (seedFrom position pairs) pass <->
      forall pair, pair ∈ pairs -> pair.1.Takes pair.2 := by
  constructor
  · rintro ⟨_, _, done⟩
    exact (supplied_of_seedFrom done).1
  · intro takes
    have accepted : BackendOperation.wrapArgument ∉ pass.backend.rejected := by
      rw [accepting]
      exact List.not_mem_nil
    exact ⟨_, _, seedFrom_of_takes accepted takes position⟩

theorem seedFrom_append (position : Nat) (earlier later : List (Capture σ × RuntimeArgument)) :
    seedFrom position (earlier ++ later) =
      (do
        seedFrom position earlier
        seedFrom (position + earlier.length) later : PassM (Recorder σ) σ Unit) := by
  induction earlier generalizing position with
  | nil => rfl
  | cons pair rest inductionHypothesis =>
      rw [List.cons_append, seedFrom, inductionHypothesis, seedFrom, bind_assoc, List.length_cons,
        Nat.add_assoc, Nat.add_comm 1]

/-- An argument that does not fit is refused, and nothing is recorded for it. -/
theorem seedArgument_of_misfit {capture : Capture σ} {runtime : RuntimeArgument}
    {fault : ArgumentFault} (misfit : capture.Misfit runtime fault) (position : Nat)
    (pass : Pass (Recorder σ) σ) :
    seedArgument position capture runtime pass =
      .error (.argumentMismatch position fault) pass := by
  cases misfit with
  | sequence elements runtime => rfl
  | lazy produce runtime => rfl
  | array handle value => rfl
  | single identity noArray slot =>
      cases capture with
      | array handle => cases noArray
      | deferred value => rfl
      | index loop => rfl
      | scalar value => rfl
      | sequence elements => cases identity
      | lazy produce => cases identity

/-- The first argument that does not fit ends the run; those before it stay
recorded. -/
theorem seedFrom_of_first (accepted : BackendOperation.wrapArgument ∉ pass.backend.rejected)
    {place : Nat} {pair : Capture σ × RuntimeArgument} {fault : ArgumentFault}
    (first : FirstAt Arguments.Mismatched pairs place pair)
    (misfit : pair.1.Misfit pair.2 fault) (position : Nat) :
    seedFrom position pairs pass =
      .error (.argumentMismatch (position + place) fault) (pass.supplied (pairs.take place)) := by
  have takes := Arguments.takes_of_fitting first.earlier
  have counted : (pairs.take place).length = place :=
    List.length_take_of_le (Nat.le_of_lt (List.getElem?_eq_some_iff.mp first.found).1)
  have refused := seedArgument_of_misfit misfit (position + place)
    (pass.supplied (pairs.take place))
  conv => lhs; rw [first.split]
  rw [seedFrom_append, Outcome.bind_of_ok (seedFrom_of_takes accepted takes position), counted]
  exact Outcome.bind_of_error refused _

end Runs

end Pass

end LoopNest
