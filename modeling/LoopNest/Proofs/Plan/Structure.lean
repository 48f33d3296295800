import LoopNest.Proofs.Nest.Declaration
import LoopNest.Proofs.Plan.Views

namespace LoopNest

/-!
# What stays of a nest

A nest is declared once and goes on for long: logic is attached to it, its
extents are replayed, and it is prepared and lowered as often as the client
wants, with any outcome.  All of this writes one thing only besides the list of
commands, and that is the current extents.  They are written all at once, after
every declared extent was resolved.  So the current extents are the declared
ones or they are all numbers, and a number that was declared stays.
-/

namespace Dims

variable {α : Type}

/-- One value stands alone. -/
theorem ofList_of_length_eq_one {values : List α} (single : values.length = 1) :
    ∃ value, ofList values = .one value := by
  rcases List.length_eq_one_iff.mp single with ⟨value, rfl⟩
  exact ⟨value, rfl⟩

/-- Any other number of values stands in a list. -/
theorem ofList_of_length_ne_one {values : List α} (several : values.length ≠ 1) :
    ofList values = .many values := by
  match values with
  | [] => rfl
  | [_] => exact absurd rfl several
  | _ :: _ :: _ => rfl

end Dims

/-- Loop indices that are declared together belong to one nest. -/
theorem LoopIndex.owner_of_declareMany {owner : NestId} {start count : Nat} {arena : Arena}
    {index : LoopIndex} (member : index ∈ ((declareMany owner start count).run arena).1) :
    index.owner = owner := by
  induction count generalizing start arena with
  | zero => exact absurd member List.not_mem_nil
  | succ count inductionHypothesis =>
      rcases List.mem_cons.mp member with rfl | later
      · rfl
      · exact inductionHypothesis later

namespace Nest

variable {σ : Type}

/-- The current extents in order, whatever their number. -/
def currentExtents (nest : Nest σ) : List (Extent σ) :=
  nest.dimensions.map Dimension.extent

/-- The nest after its extents are replayed, with any outcome. -/
def replayed (nest : Nest σ) (store : Store σ) : Nest σ :=
  (Outcome.state (replay (nest, store))).1

theorem replayed_of_ok {nest next : Nest σ} {store after : Store σ}
    (done : nest.replayDeferred store = .ok next after) : nest.replayed store = next := by
  unfold replayDeferred at done
  unfold replayed
  cases outcome : replay (nest, store) with
  | ok replayed left =>
      rw [outcome] at done
      cases done
      rfl
  | error error left =>
      rw [outcome] at done
      cases done

theorem replayed_of_error {nest : Nest σ} {store after : Store σ} {error : DeferredError}
    (failed : nest.replayDeferred store = .error error after) : nest.replayed store = nest := by
  unfold replayDeferred at failed
  unfold replayed
  cases outcome : replay (nest, store) with
  | ok replayed left =>
      rw [outcome] at failed
      cases failed
  | error error left => exact nest_of_replay_error outcome

/-- The nest is as it was, or all declared extents were resolved and the numbers
were written. -/
inductive Rewritten (nest : Nest σ) : Nest σ -> Prop
  | kept : Rewritten nest nest
  | written {store after : Store σ} {numbers : List Int}
      (resolved : nest.declaredShape.mapM Extent.resolve store = .ok numbers after) :
      Rewritten nest (nest.withExtents numbers)

theorem rewritten_replayed (nest : Nest σ) (store : Store σ) :
    nest.Rewritten (nest.replayed store) := by
  unfold replayed
  cases outcome : replay (nest, store) with
  | error error left =>
      have same : left.1 = nest := nest_of_replay_error outcome
      exact same.symm ▸ .kept
  | ok done left =>
      rcases resolved_of_replay outcome with ⟨numbers, after, resolved, rfl⟩
      exact .written resolved

end Nest

namespace Schedule

variable {σ : Type}

/-- What becomes of a schedule: it stays as it is, it forgets what it knew
because an extent did not resolve, or it is prepared. -/
inductive Proceeds (schedule : Schedule σ) : Schedule σ -> Prop
  | kept : Proceeds schedule schedule
  | cleared : Proceeds schedule (ofNest schedule.nest)
  | prepared {store after : Store σ} {numbers : List Int}
      (resolved : schedule.nest.declaredShape.mapM Extent.resolve store = .ok numbers after) :
      Proceeds schedule (schedule.prepared numbers)

theorem Proceeds.rewritten {schedule next : Schedule σ} (proceeds : Proceeds schedule next) :
    schedule.nest.Rewritten next.nest := by
  cases proceeds with
  | kept => exact .kept
  | cleared => exact .kept
  | prepared resolved => exact .written resolved

theorem proceeds_preparePass (schedule : Schedule σ) (store : Store σ) :
    schedule.Proceeds (Outcome.state (preparePass (schedule, store))).1 := by
  cases resolution : schedule.nest.declaredShape.mapM Extent.resolve store with
  | error error after =>
      rw [schedule.preparePass_of_error resolution]
      exact .cleared
  | ok numbers after =>
      rw [schedule.preparePass_of_ok resolution]
      exact .prepared resolution

end Schedule

/-- A pass touches the schedule of its plan only when it prepares it. -/
theorem Lowering.proceeds_lower {β σ : Type} [Backend σ β] (arguments : Arguments σ)
    (bindings : Bindings σ) (lowering : Lowering β σ) :
    lowering.plan.schedule.Proceeds
      (Outcome.state (lower arguments bindings lowering)).plan.schedule := by
  have ends := ends_lower arguments bindings lowering
  generalize lower arguments bindings lowering = outcome at ends
  cases ends with
  | unapplied _ => exact .kept
  | unresolved _ _ => exact .cleared
  | failed _ resolution _ => exact .prepared resolution
  | done _ resolution _ => exact .prepared resolution

namespace Nest

variable {σ : Type}

/-- The nest has come from another one: these commands were attached to it, and
it was replayed, prepared and lowered in between, on any backends, with any
parameters bound and with any outcome. -/
inductive Evolves (origin : Nest σ) : List (Attachment σ) -> Nest σ -> Prop
  | start : Evolves origin [] origin
  | attach {commands : List (Attachment σ)} {nest : Nest σ}
      (history : Evolves origin commands nest) (logic : LogicFunction σ)
      (scheduling : Scheduling) :
      Evolves origin (commands ++ [⟨logic, scheduling⟩]) (nest.attach logic scheduling)
  | replay {commands : List (Attachment σ)} {nest : Nest σ}
      (history : Evolves origin commands nest) (store : Store σ) :
      Evolves origin commands (nest.replayed store)
  | prepare {commands : List (Attachment σ)} {schedule : Schedule σ}
      (history : Evolves origin commands schedule.nest) (store : Store σ) :
      Evolves origin commands (Outcome.state (Schedule.preparePass (schedule, store))).1.nest
  | lower {β : Type} [Backend σ β] {commands : List (Attachment σ)} {lowering : Lowering β σ}
      (history : Evolves origin commands lowering.plan.nest) (arguments : Arguments σ)
      (bindings : Bindings σ) :
      Evolves origin commands
        (Outcome.state (Lowering.lower arguments bindings lowering)).plan.nest

/-- Where a number was declared, resolving the declared extents gives it. -/
theorem getElem?_of_mapM_resolve {extents : List (Extent σ)} {store after : Store σ}
    {numbers : List Int} (resolved : extents.mapM Extent.resolve store = .ok numbers after)
    {dimension : Nat} {number : Int} (declared : extents[dimension]? = some (.fixed number)) :
    numbers[dimension]? = some number := by
  induction extents generalizing store numbers dimension with
  | nil => cases declared
  | cons extent rest inductionHypothesis =>
      rw [List.mapM_cons] at resolved
      simp only [Outcome.bind_eq_ok_iff] at resolved
      rcases resolved with ⟨first, middle, head, others, last, tail, ended⟩
      cases ended
      cases dimension with
      | zero =>
          cases declared
          cases head
          rfl
      | succ dimension => exact inductionHypothesis tail declared

/-- What all of this leaves of the nest, and what its current extents are. -/
structure Kept (origin : Nest σ) (commands : List (Attachment σ)) (nest : Nest σ) : Prop where
  id : nest.id = origin.id
  declaredShape : nest.declaredShape = origin.declaredShape
  indices : nest.ownIndices = origin.ownIndices
  attachments : nest.attachments = origin.attachments ++ commands
  logicFunctions : nest.logicFunctions = origin.logicFunctions ++ commands.map Attachment.logic
  /-- The extents are all as they were declared, or all numbers. -/
  settled : nest.currentExtents = nest.declaredShape ∨
    ∃ numbers : List Int, nest.currentExtents = numbers.map .fixed
  fixed : forall {dimension : Nat} {number : Int},
    nest.declaredShape[dimension]? = some (.fixed number) ->
      nest.currentExtents[dimension]? = some (.fixed number)

namespace Kept

variable {origin nest next : Nest σ} {commands : List (Attachment σ)}

theorem attach (kept : Kept origin commands nest) (logic : LogicFunction σ)
    (scheduling : Scheduling) :
    Kept origin (commands ++ [⟨logic, scheduling⟩]) (nest.attach logic scheduling) where
  id := kept.id
  declaredShape := kept.declaredShape
  indices := kept.indices
  attachments := by
    rw [← List.append_assoc, ← kept.attachments]
    rfl
  logicFunctions := by
    rw [List.map_append, ← List.append_assoc, ← kept.logicFunctions]
    rfl
  settled := kept.settled
  fixed := kept.fixed

/-- Writing resolved extents keeps everything else, and the numbers that were
declared. -/
theorem withExtents (kept : Kept origin commands nest) {store after : Store σ}
    {numbers : List Int}
    (resolved : nest.declaredShape.mapM Extent.resolve store = .ok numbers after) :
    Kept origin commands (nest.withExtents numbers) := by
  have complete := complete_of_mapM_resolve resolved
  have current : (nest.withExtents numbers).currentExtents = numbers.map .fixed :=
    nest.currentExtents_withExtents complete
  have declared := nest.declaredShape_withExtents complete
  refine ⟨kept.id, declared.trans kept.declaredShape,
    (nest.ownIndices_withExtents complete).trans kept.indices, kept.attachments,
    kept.logicFunctions, .inr ⟨numbers, current⟩, ?_⟩
  intro dimension number found
  rw [declared] at found
  rw [current, List.getElem?_map, getElem?_of_mapM_resolve resolved found]
  rfl

theorem rewritten (kept : Kept origin commands nest) (rewritten : nest.Rewritten next) :
    Kept origin commands next := by
  cases rewritten with
  | kept => exact kept
  | written resolved => exact kept.withExtents resolved

end Kept

/-- Whatever happens to a nest whose current extents are the declared ones, the
rest of it is kept. -/
theorem Evolves.kept {origin nest : Nest σ} {commands : List (Attachment σ)}
    (history : Evolves origin commands nest)
    (unresolved : origin.currentExtents = origin.declaredShape) : Kept origin commands nest := by
  induction history with
  | start =>
      refine ⟨rfl, rfl, rfl, (List.append_nil _).symm, (List.append_nil _).symm,
        .inl unresolved, ?_⟩
      intro dimension number found
      rw [unresolved]
      exact found
  | attach _ logic scheduling inductionHypothesis =>
      exact inductionHypothesis.attach logic scheduling
  | replay _ store inductionHypothesis =>
      exact inductionHypothesis.rewritten (rewritten_replayed _ store)
  | prepare _ store inductionHypothesis =>
      exact inductionHypothesis.rewritten (Schedule.proceeds_preparePass _ store).rewritten
  | lower _ arguments bindings inductionHypothesis =>
      exact inductionHypothesis.rewritten
        (Lowering.proceeds_lower arguments bindings _).rewritten

/-! ## New nests -/

theorem currentExtents_declare (shape : List (Extent σ)) (arena : Arena) :
    ((declare shape).run arena).1.currentExtents = ((declare shape).run arena).1.declaredShape := by
  refine Eq.trans List.map_zipWith (Eq.symm ?_)
  exact List.map_zipWith

theorem owner_declare {shape : List (Extent σ)} {arena : Arena} {index : LoopIndex}
    (member : index ∈ ((declare shape).run arena).1.ownIndices) :
    index.owner = ((declare shape).run arena).1.id := by
  rw [ownIndices_declare] at member
  exact LoopIndex.owner_of_declareMany member

/-- What a nest with one dimension hands out per dimension stands alone. -/
theorem one_of_rank_eq_one {nest : Nest σ} (single : nest.rank = 1) :
    ∃ extent index, nest.shape = .one extent ∧ nest.indices = .one index := by
  have perDimension {α : Type} (view : Dimension σ -> α) :
      (nest.dimensions.map view).length = 1 := (List.length_map _).trans single
  rcases Dims.ofList_of_length_eq_one (perDimension Dimension.extent) with ⟨extent, alone⟩
  rcases Dims.ofList_of_length_eq_one (perDimension Dimension.index) with ⟨index, indexAlone⟩
  exact ⟨extent, index, alone, indexAlone⟩

/-- What any other nest hands out stands in a list. -/
theorem many_of_rank_ne_one {nest : Nest σ} (several : nest.rank ≠ 1) :
    nest.shape = .many nest.shape.toList ∧ nest.indices = .many nest.indices.toList := by
  have perDimension {α : Type} (view : Dimension σ -> α) :
      (nest.dimensions.map view).length ≠ 1 := by
    rw [List.length_map]
    exact several
  have extents : nest.shape.toList = nest.currentExtents := Dims.toList_ofList _
  have indices : nest.indices.toList = nest.ownIndices := Dims.toList_ofList _
  rw [extents, indices]
  exact ⟨Dims.ofList_of_length_ne_one (perDimension Dimension.extent),
    Dims.ofList_of_length_ne_one (perDimension Dimension.index)⟩

/-- However long a nest has been used since it was declared, its number, its rank
and its loop indices are those of the declaration, and so is whether any extent
was deferred.  Its extents are all as declared or all numbers, and the declared
numbers are among them.  Its commands are those that were attached.  What it
hands out per dimension stands alone when there is one dimension, and in a list
otherwise. -/
theorem structure_is_kept {shape : List (Extent σ)} {arena : Arena}
    {commands : List (Attachment σ)} {nest : Nest σ} (fits : shape.length <= UInt32.size)
    (history : Evolves ((declare shape).run arena).1 commands nest) :
    let origin := ((declare shape).run arena).1
    (nest.id = origin.id ∧ nest.rank = shape.length ∧
      nest.hasDeferred = shape.any Extent.isDeferred ∧
      nest.indices.toList = origin.indices.toList) ∧
    (nest.indices.toList.map LoopIndex.id).Nodup ∧
    (forall (dimension : Nat) (index : LoopIndex), nest.indices.toList[dimension]? = some index ->
      index.owner = nest.id ∧ index.dimension.toNat = dimension) ∧
    (nest.shape.toList = shape ∨ ∃ numbers : List Int, nest.shape.toList = numbers.map .fixed) ∧
    (forall (dimension : Nat) (number : Int), shape[dimension]? = some (.fixed number) ->
      nest.shape.toList[dimension]? = some (.fixed number)) ∧
    (nest.attachments = commands ∧ nest.kernelCount = nest.logicFunctions.length ∧
      forall position : Nat,
        nest.logicFunctions[position]? = nest.attachments[position]?.map Attachment.logic) ∧
    (nest.shape.toList = nest.dimensions.map Dimension.extent ∧
      nest.indices.toList = nest.dimensions.map Dimension.index ∧
      (nest.rank = 1 -> ∃ extent index, nest.shape = .one extent ∧ nest.indices = .one index) ∧
      (nest.rank ≠ 1 -> nest.shape = .many nest.shape.toList ∧
        nest.indices = .many nest.indices.toList)) := by
  intro origin
  have kept := history.kept (currentExtents_declare shape arena)
  have shaped : nest.Over shape :=
    (over_declare shape arena fits).of_same kept.declaredShape kept.indices
  have extents : nest.shape.toList = nest.currentExtents := Dims.toList_ofList _
  have indices (nest : Nest σ) : nest.indices.toList = nest.ownIndices := Dims.toList_ofList _
  have attachments : nest.attachments = commands := kept.attachments
  have inStep : nest.logicFunctions = nest.attachments.map Attachment.logic := by
    rw [attachments]
    exact kept.logicFunctions
  refine ⟨⟨kept.id, ?_, ?_, ?_⟩, ?_, ?_, ?_, ?_, ⟨attachments, ?_, ?_⟩, extents,
    indices nest, one_of_rank_eq_one, many_of_rank_ne_one⟩
  · rw [← shaped.declaredShape]
    exact (List.length_map _).symm
  · rw [← shaped.declaredShape, declaredShape, List.any_map]
    rfl
  · rw [indices, indices]
    exact kept.indices
  · rw [indices]
    exact shaped.tokens
  · intro dimension index found
    rw [indices] at found
    refine ⟨?_, (shaped.dimensions found).2⟩
    rw [kept.indices] at found
    rw [kept.id]
    exact owner_declare (List.mem_of_getElem? found)
  · rw [extents, ← shaped.declaredShape]
    exact kept.settled
  · intro dimension number declared
    rw [← shaped.declaredShape] at declared
    rw [extents]
    exact kept.fixed declared
  · rw [inStep]
    exact (List.length_map _).symm
  · intro position
    rw [inStep]
    exact List.getElem?_map

end Nest

/-! ## A nest with a past -/

namespace Sample

/-- A nest over three columns and the rows. -/
def grid : Nest Unit :=
  ((Nest.declare [.fixed 3, .deferred rows]).run arena).1

def fill : LogicFunction Unit where
  name := "fill"
  captures := [("rows", .deferred rows)]
  body := fun _ store => store
  names_distinct := by decide

/-- The nest after logic was attached and its extents were replayed with nothing
bound, which fails. -/
def begunGrid : Nest Unit :=
  (grid.attach fill .plain).replayed (Store.initial ())

/-- The nest after a pass with four rows on top of that. -/
def grownGrid : Nest Unit :=
  (Outcome.state (Lowering.lower ⟨[], []⟩ bindings (lowering begunGrid))).plan.nest

theorem grownGrid_evolves : Nest.Evolves grid [⟨fill, .plain⟩] grownGrid := by
  have begun : Nest.Evolves grid [⟨fill, .plain⟩] (lowering begunGrid).plan.nest :=
    (Nest.Evolves.start.attach fill .plain).replay (Store.initial ())
  exact begun.lower ⟨[], []⟩ bindings

end Sample

namespace Nest

/-- The nest has two dimensions still and one command.  All its extents are
numbers now, and there are three columns as before. -/
theorem structure_of_grownGrid :
    Sample.grownGrid.rank = 2 ∧ Sample.grownGrid.hasDeferred = true ∧
      Sample.grownGrid.attachments = [⟨Sample.fill, .plain⟩] ∧
      (∃ numbers : List Int, Sample.grownGrid.shape.toList = numbers.map .fixed) ∧
      Sample.grownGrid.shape.toList[0]? = some (.fixed 3) ∧
      Sample.grownGrid.indices = .many Sample.grownGrid.indices.toList := by
  have fits : [Extent.fixed 3, .deferred Sample.rows].length <= UInt32.size := by decide
  rcases structure_is_kept fits Sample.grownGrid_evolves with
    ⟨⟨_, rank, deferred, _⟩, _, _, settled, fixed, ⟨commands, _, _⟩, _, _, _, several⟩
  have written : Sample.grownGrid.shape.toList.any Extent.isDeferred = false := by
    decide +kernel
  have several := several (by rw [rank]; decide)
  refine ⟨rank, deferred, commands, ?_, fixed 0 3 rfl, several.2⟩
  rcases settled with declared | numbers
  · rw [declared] at written
    cases written
  · exact numbers

end Nest

end LoopNest
