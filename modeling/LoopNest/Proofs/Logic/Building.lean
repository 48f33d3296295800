import LoopNest.Logic.Function
import Mathlib.Data.List.Nodup

namespace LoopNest

/-!
# Building logic functions

A logic function is built if its own name and the names of its captured values
are identifiers, no two captured values have the same name, and there is a body.
The names of the captured values are looked at one by one, each for its form and
then for repetition, so the defect that is reported is that of the first name
that may not stand where it does.  The name of the function comes before all of
them, and the body after.

Since no name is captured twice, a name stands for one captured value whatever
their order is.
-/

namespace Text

/-- An alphabetic character or an underscore, then any number of alphabetic
characters, numeric characters and underscores. -/
def Identifier (name : String) : Prop :=
  ∃ first rest, name.toList = first :: rest ∧
    (isAlphabetic first = true ∨ first = '_') ∧
    forall c, c ∈ rest -> isAlphabetic c = true ∨ isNumeric c = true ∨ c = '_'

theorem isIdentifier_eq_true_iff (name : String) :
    isIdentifier name = true <-> Identifier name := by
  rw [isIdentifier_iff]
  simp only [Identifier, beginsIdentifier, continuesIdentifier, Bool.or_eq_true, beq_iff_eq,
    or_assoc]

end Text

namespace LogicFunction

variable {σ : Type}

/-! ## What a name stands for -/

theorem mem_of_capture? (logic : LogicFunction σ) {name : String} {capture : Capture σ}
    (found : logic.capture? name = some capture) : (name, capture) ∈ logic.captures := by
  rcases List.lookup_eq_some_iff.mp found with ⟨earlier, later, split, _⟩
  rw [split]
  exact List.mem_append_right _ List.mem_cons_self

theorem capture?_eq_some_iff (logic : LogicFunction σ) (name : String) (capture : Capture σ) :
    logic.capture? name = some capture <-> (name, capture) ∈ logic.captures := by
  refine ⟨logic.mem_of_capture?, fun member => ?_⟩
  rcases List.append_of_mem member with ⟨before, later, split⟩
  refine List.lookup_eq_some_iff.mpr ⟨before, later, split, ?_⟩
  intro entry earlier
  have distinct := logic.names_distinct
  rw [split, List.map_append, List.nodup_append] at distinct
  have different := distinct.2.2 entry.1 (List.mem_map_of_mem earlier) name List.mem_cons_self
  exact bne_iff_ne.mpr (Ne.symm different)

theorem capture?_of_perm {left right : LogicFunction σ}
    (reordered : left.captures.Perm right.captures) (name : String) :
    left.capture? name = right.capture? name := by
  refine Option.ext fun capture => ?_
  rw [capture?_eq_some_iff, capture?_eq_some_iff]
  exact reordered.mem_iff

/-! ## Names in order -/

/-- A name that may follow the earlier ones. -/
def Fits (earlier : List String) (name : String) : Prop :=
  Text.Identifier name ∧ name ∉ earlier

/-- Why a name may not follow the earlier ones. -/
inductive NameFault (earlier : List String) (name : String) : LogicDefect -> Prop where
  | malformed (other : ¬ Text.Identifier name) : NameFault earlier name (.captureName name)
  | repeated (identifier : Text.Identifier name) (again : name ∈ earlier) :
      NameFault earlier name (.repeatedCapture name)

/-- The defect of the name at this position, where names follow the earlier ones
and all before the position fit. -/
structure FirstFault (earlier names : List String) (position : Nat) (defect : LogicDefect) :
    Prop where
  here : ∃ name, names[position]? = some name ∧
    NameFault (earlier ++ names.take position) name defect
  before : forall other name, other < position -> names[other]? = some name ->
    Fits (earlier ++ names.take other) name

variable {earlier : List String} {defect : LogicDefect}

theorem NameFault.not_fits {name : String} (fault : NameFault earlier name defect) :
    ¬ Fits earlier name := by
  intro fits
  cases fault with
  | malformed other => exact other fits.1
  | repeated _ again => exact fits.2 again

theorem NameFault.unique {name : String} {other : LogicDefect}
    (fault : NameFault earlier name defect) (otherFault : NameFault earlier name other) :
    defect = other := by
  cases fault with
  | malformed notOne =>
      cases otherFault with
      | malformed _ => rfl
      | repeated identifier _ => exact absurd identifier notOne
  | repeated identifier _ =>
      cases otherFault with
      | malformed notOne => exact absurd identifier notOne
      | repeated _ _ => rfl

theorem firstFault_zero_iff (name : String) (rest : List String) :
    FirstFault earlier (name :: rest) 0 defect <-> NameFault earlier name defect := by
  constructor
  · rintro ⟨⟨_, ⟨⟩, fault⟩, _⟩
    rwa [List.take_zero, List.append_nil] at fault
  · intro fault
    refine ⟨⟨name, rfl, ?_⟩, nofun⟩
    rwa [List.take_zero, List.append_nil]

theorem firstFault_succ_iff (name : String) (rest : List String) (position : Nat) :
    FirstFault earlier (name :: rest) (position + 1) defect <->
      Fits earlier name ∧ FirstFault (earlier ++ [name]) rest position defect := by
  have taken (count : Nat) :
      earlier ++ (name :: rest).take (count + 1) = earlier ++ [name] ++ rest.take count := by
    rw [List.take_succ_cons, List.append_cons]
  constructor
  · rintro ⟨⟨captured, found, fault⟩, before⟩
    rw [taken] at fault
    have fits := before 0 name (Nat.succ_pos position) rfl
    rw [List.take_zero, List.append_nil] at fits
    refine ⟨fits, ⟨captured, found, fault⟩, fun other captured smaller found => ?_⟩
    rw [← taken]
    exact before (other + 1) captured (Nat.succ_lt_succ smaller) found
  · rintro ⟨fits, ⟨captured, found, fault⟩, before⟩
    refine ⟨⟨captured, found, ?_⟩, ?_⟩
    · rwa [taken]
    · rintro (_ | other) captured smaller found
      · cases found
        rwa [List.take_zero, List.append_nil]
      · rw [taken]
        exact before other captured (Nat.lt_of_succ_lt_succ smaller) found

/-- The first name is at fault, or it fits and the rest decides. -/
theorem nameDefect?_cons_cases (earlier : List String) (name : String) (rest : List String) :
    (∃ defect, NameFault earlier name defect ∧
        nameDefect? earlier (name :: rest) = some defect) ∨
      Fits earlier name ∧
        nameDefect? earlier (name :: rest) = nameDefect? (earlier ++ [name]) rest := by
  by_cases identifier : Text.Identifier name
  · have formed := (Text.isIdentifier_eq_true_iff name).mpr identifier
    by_cases again : name ∈ earlier
    · refine .inl ⟨_, .repeated identifier again, ?_⟩
      simp [nameDefect?, formed, again]
    · refine .inr ⟨⟨identifier, again⟩, ?_⟩
      simp [nameDefect?, formed, again]
  · have formed := Bool.eq_false_iff.mpr (mt (Text.isIdentifier_eq_true_iff name).mp identifier)
    refine .inl ⟨_, .malformed identifier, ?_⟩
    simp [nameDefect?, formed]

theorem nameDefect?_eq_some_iff (earlier names : List String) (defect : LogicDefect) :
    nameDefect? earlier names = some defect <->
      ∃ position, FirstFault earlier names position defect := by
  induction names generalizing earlier with
  | nil =>
      constructor
      · nofun
      · rintro ⟨_, ⟨_, ⟨⟩, _⟩, _⟩
  | cons name rest inductionHypothesis =>
      rw [← Nat.or_exists_add_one]
      simp only [firstFault_zero_iff, firstFault_succ_iff, exists_and_left, ← inductionHypothesis]
      rcases nameDefect?_cons_cases earlier name rest with ⟨own, fault, stops⟩ | ⟨fits, goesOn⟩
      · rw [stops, Option.some.injEq]
        constructor
        · rintro rfl
          exact .inl fault
        · rintro (otherFault | ⟨fits, _⟩)
          · exact fault.unique otherFault
          · exact absurd fits fault.not_fits
      · rw [goesOn]
        constructor
        · exact fun found => .inr ⟨fits, found⟩
        · rintro (fault | ⟨_, found⟩)
          · exact absurd fits fault.not_fits
          · exact found

/-- A name that is no identifier comes before the repetition behind it. -/
example : nameDefect? [] ["row", "2nd", "row"] = some (.captureName "2nd") := by
  decide +kernel

theorem nameDefect?_eq_none_iff {earlier : List String} (distinct : earlier.Nodup)
    (names : List String) :
    nameDefect? earlier names = none <->
      (forall name, name ∈ names -> Text.Identifier name) ∧ (earlier ++ names).Nodup := by
  induction names generalizing earlier with
  | nil => simp [nameDefect?, distinct]
  | cons name rest inductionHypothesis =>
      rw [List.forall_mem_cons]
      rcases nameDefect?_cons_cases earlier name rest with ⟨own, fault, stops⟩ | ⟨fits, goesOn⟩
      · rw [stops]
        constructor
        · nofun
        · rintro ⟨⟨identifier, _⟩, different⟩
          rw [List.nodup_middle, List.nodup_cons, List.mem_append, not_or] at different
          exact absurd ⟨identifier, different.1.1⟩ fault.not_fits
      · have longer : (earlier ++ [name]).Nodup := by
          rw [List.nodup_middle, List.append_nil]
          exact List.nodup_cons.mpr ⟨fits.2, distinct⟩
        rw [goesOn, inductionHypothesis longer, ← List.append_cons]
        exact ⟨fun ⟨others, different⟩ => ⟨⟨fits.1, others⟩, different⟩,
          fun ⟨⟨_, others⟩, different⟩ => ⟨others, different⟩⟩

/-- Names that are all different identifiers have no first fault. -/
theorem FirstFault.not_fine {names : List String} {position : Nat}
    (first : FirstFault [] names position defect)
    (identifiers : forall name, name ∈ names -> Text.Identifier name) : ¬ names.Nodup := by
  intro distinct
  have found := (nameDefect?_eq_some_iff [] names defect).mpr ⟨position, first⟩
  rw [(nameDefect?_eq_none_iff List.nodup_nil names).mpr ⟨identifiers, distinct⟩] at found
  cases found

/-! ## Building -/

/-- What a function is built from is as it should be. -/
structure WellFormed (name : String) (names : List String) (hasBody : Bool) : Prop where
  function : Text.Identifier name
  captures : forall captured, captured ∈ names -> Text.Identifier captured
  distinct : names.Nodup
  body : hasBody = true

/-- The first thing that is wrong with what a function is built from: its own
name, then the names of the captured values, then that there is no body. -/
inductive FirstDefect (name : String) (names : List String) (hasBody : Bool) :
    LogicDefect -> Prop where
  | functionName (other : ¬ Text.Identifier name) : FirstDefect name names hasBody .functionName
  | capture {position : Nat} {defect : LogicDefect} (identifier : Text.Identifier name)
      (first : FirstFault [] names position defect) : FirstDefect name names hasBody defect
  | noBody (identifier : Text.Identifier name)
      (identifiers : forall captured, captured ∈ names -> Text.Identifier captured)
      (distinct : names.Nodup) (missing : hasBody = false) : FirstDefect name names hasBody .noBody

variable {name : String} {names : List String} {hasBody : Bool}

theorem WellFormed.not_firstDefect (wellFormed : WellFormed name names hasBody) :
    ¬ FirstDefect name names hasBody defect := by
  intro first
  cases first with
  | functionName other => exact other wellFormed.function
  | capture _ first => exact first.not_fine wellFormed.captures wellFormed.distinct
  | noBody _ _ _ missing =>
      rw [wellFormed.body] at missing
      cases missing

theorem FirstDefect.unique {other : LogicDefect} (first : FirstDefect name names hasBody defect)
    (otherFirst : FirstDefect name names hasBody other) : defect = other := by
  cases first with
  | functionName notOne =>
      cases otherFirst with
      | functionName _ => rfl
      | capture identifier _ => exact absurd identifier notOne
      | noBody identifier _ _ _ => exact absurd identifier notOne
  | capture identifier fault =>
      cases otherFirst with
      | functionName notOne => exact absurd identifier notOne
      | capture _ otherFault =>
          have found := (nameDefect?_eq_some_iff [] names defect).mpr ⟨_, fault⟩
          rw [(nameDefect?_eq_some_iff [] names other).mpr ⟨_, otherFault⟩] at found
          exact (Option.some.inj found).symm
      | noBody _ identifiers distinct _ => exact absurd distinct (fault.not_fine identifiers)
  | noBody identifier identifiers distinct _ =>
      cases otherFirst with
      | functionName notOne => exact absurd identifier notOne
      | capture _ fault => exact absurd distinct (fault.not_fine identifiers)
      | noBody _ _ _ _ => rfl

/-- Building stops at the first defect, or it uses everything as it is given. -/
theorem build_cases (name : String) (captures : List (String × Capture σ))
    (body? : Option (Body σ)) :
    (∃ defect, FirstDefect name (captures.map Prod.fst) body?.isSome defect ∧
        build name captures body? = .error ⟨name, defect⟩) ∨
      WellFormed name (captures.map Prod.fst) body?.isSome ∧
        ∃ logic, build name captures body? = .ok logic ∧ logic.name = name ∧
          logic.captures = captures ∧ body? = some logic.body := by
  unfold build
  split
  · next formed =>
      have identifier := (Text.isIdentifier_eq_true_iff name).mp formed
      split
      · next defect checked =>
          rcases (nameDefect?_eq_some_iff _ _ _).mp checked with ⟨position, first⟩
          exact .inl ⟨defect, .capture identifier first, rfl⟩
      · next checked =>
          rcases (nameDefect?_eq_none_iff List.nodup_nil _).mp checked with
            ⟨identifiers, distinct⟩
          cases body? with
          | none => exact .inl ⟨_, .noBody identifier identifiers distinct rfl, rfl⟩
          | some body =>
              exact .inr ⟨⟨identifier, identifiers, distinct, rfl⟩, _, rfl, rfl, rfl, rfl⟩
  · next formed =>
      exact .inl ⟨_, .functionName (mt (Text.isIdentifier_eq_true_iff name).mpr formed), rfl⟩

/-- A function is built exactly if its name and the names of the captured values
are identifiers, these are different, and there is a body.  It keeps the captured
values in order, and finds under each name the one that has it.  Otherwise the
error is that of the first defect. -/
theorem builds_or_tells_first_defect (name : String) (captures : List (String × Capture σ))
    (body? : Option (Body σ)) :
    ((∃ logic, build name captures body? = .ok logic) <->
      WellFormed name (captures.map Prod.fst) body?.isSome) ∧
    (forall logic, build name captures body? = .ok logic ->
      logic.name = name ∧ logic.captures = captures ∧ body? = some logic.body ∧
      forall captured value,
        logic.capture? captured = some value <-> (captured, value) ∈ captures) ∧
    (forall error, build name captures body? = .error error <->
      error.name = name ∧
        FirstDefect name (captures.map Prod.fst) body?.isSome error.defect) := by
  rcases build_cases name captures body? with
    ⟨defect, first, stops⟩ | ⟨wellFormed, logic, built, named, kept, body⟩
  · rw [stops]
    refine ⟨⟨nofun, fun wellFormed => absurd first wellFormed.not_firstDefect⟩, nofun,
      fun error => ?_⟩
    constructor
    · rintro ⟨⟩
      exact ⟨rfl, first⟩
    · rintro ⟨rfl, otherFirst⟩
      rw [first.unique otherFirst]
  · rw [built]
    refine ⟨⟨fun _ => wellFormed, fun _ => ⟨logic, rfl⟩⟩, ?_, fun error => ⟨nofun, ?_⟩⟩
    · rintro _ ⟨⟩
      refine ⟨named, kept, body, fun captured value => ?_⟩
      rw [capture?_eq_some_iff, kept]
    · rintro ⟨_, first⟩
      exact absurd first wellFormed.not_firstDefect

namespace Sample

def row : Capture Unit :=
  .index ⟨⟨0⟩, ⟨0⟩, 0⟩

def column : Capture Unit :=
  .index ⟨⟨1⟩, ⟨0⟩, 1⟩

def idle : Body Unit := fun _ store => store

end Sample

/-- Two loops are found under their names in a function with a body. -/
theorem built_over_two_loops :
    ∃ logic, build "fill" [("row", Sample.row), ("_column2", Sample.column)] (some Sample.idle) =
        .ok logic ∧
      logic.capture? "_column2" = some Sample.column ∧ logic.capture? "column" = none := by
  have built := builds_or_tells_first_defect "fill"
    [("row", Sample.row), ("_column2", Sample.column)] (some Sample.idle)
  have wellFormed : WellFormed "fill" ["row", "_column2"] true := by
    refine ⟨?_, ?_, by decide, rfl⟩
    · exact (Text.isIdentifier_eq_true_iff "fill").mp (by decide +kernel)
    · simp only [← Text.isIdentifier_eq_true_iff]
      decide +kernel
  rcases built.1.mpr wellFormed with ⟨logic, made⟩
  rcases built.2.1 logic made with ⟨_, kept, _, found⟩
  refine ⟨logic, made, (found _ _).mpr (.tail _ (.head _)), ?_⟩
  rw [capture?, kept]
  decide

end LogicFunction

end LoopNest
