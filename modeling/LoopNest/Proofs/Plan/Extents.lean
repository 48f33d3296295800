import LoopNest.Proofs.Identity.Constructions
import LoopNest.Proofs.Pass.PassingThrough
import LoopNest.Proofs.Plan.Slots
import LoopNest.Proofs.Plan.Views

namespace LoopNest

/-!
# Extents and captured values

A deferred integer may be the extent of dimensions and be captured by commands as
well.  A pass remembers no number: it resolves the integer for every such
dimension before there is a space, and again for every command that captures it.
In between only the store could change, and the slots are bound throughout as
the bindings left them.  So a rule that only reads the slots gives one number in
a pass, and every kernel finds the extent that the space has.
-/

/-- Stores with the same slots bound give the same answer. -/
theorem Store.ReadOnly.answer?_eq {ε σ α : Type} {rule : EStateM ε (Store σ) α}
    (reads : ReadOnly rule) {left right : Store σ} (same : left.bound = right.bound) :
    left.answer? rule = right.answer? rule := by
  have agree := reads.agree same
  unfold answer?
  generalize rule left = leftOutcome, rule right = rightOutcome at agree
  cases agree with
  | ok result _ => exact congrArg some result
  | error _ _ => rfl

/-- What is mapped from an integer that only reads the slots only reads the
slots. -/
theorem Deferred.ReadOnly.map {σ : Type} {base : Deferred σ} (reads : base.ReadOnly)
    (name : String) (f : Int -> Int) (arena : Arena) :
    ((base.map name f).run arena).1.ReadOnly := by
  rcases reads.resolve with ⟨read, resolve_eq⟩
  refine ⟨fun bound => ((read bound).map f).mapError DeferredError.message, fun store => ?_⟩
  unfold mapRule
  rw [resolve_eq store]
  beta_reduce
  cases read store.bound <;> rfl

namespace Extent

variable {σ : Type}

/-- The deferred integer of the extent, as a captured value. -/
def handle? : Extent σ -> Option (Capture σ)
  | .fixed _ => none
  | .deferred value => some (.deferred value)

/-- Among extents that are resolved, a deferred one gives what it answers at the
start, if rules bind nothing. -/
theorem exists_answer_of_mapM_resolve {extents : List (Extent σ)} {store after : Store σ}
    {numbers : List Int} (resolved : extents.mapM resolve store = .ok numbers after)
    (keeps : forall extent, extent ∈ extents -> extent.KeepsSlots) {value : Deferred σ}
    (reads : value.ReadOnly) {dimension : Nat}
    (declared : extents[dimension]? = some (.deferred value)) :
    ∃ number, numbers[dimension]? = some number ∧ store.answer? value.resolve = some number := by
  induction extents generalizing store numbers dimension with
  | nil => cases declared
  | cons extent rest inductionHypothesis =>
      rw [List.forall_mem_cons] at keeps
      rw [List.mapM_cons] at resolved
      simp only [Outcome.bind_eq_ok_iff] at resolved
      rcases resolved with ⟨first, middle, head, others, last, tail, ended⟩
      cases ended
      cases dimension with
      | zero =>
          cases declared
          exact ⟨first, rfl, ((reads.resolve.eq_ok_iff _ _ _).mp head).1⟩
      | succ dimension =>
          rcases inductionHypothesis tail keeps.2 declared with ⟨number, found, answered⟩
          have same := keeps.1.resolve.of_ok head
          exact ⟨number, found, (reads.resolve.answer?_eq same).symm.trans answered⟩

end Extent

/-- A token that has no entry later had none before. -/
theorem Completes.none_of_none {handles : List ArrayHandle} {before after : IdentityMap}
    (completes : Completes handles before after) {token : Token} (missing : after[token]? = none) :
    before[token]? = none := by
  rw [Option.eq_none_iff_forall_ne_some]
  intro value found
  rw [completes.kept found] at missing
  cases missing

/-- The handles that a nest is declared with and that its commands capture. -/
def Nest.handles {σ : Type} (nest : Nest σ) : List (Capture σ) :=
  nest.ownIndices.map .index ++ nest.declaredShape.filterMap Extent.handle? ++ nest.captured

namespace Pass

variable {σ : Type} {pass after : Pass (Recorder σ) σ}

theorem Resolves.bound {capture : Capture σ} {replacement? : Option Replacement}
    (resolves : Resolves pass capture replacement? after) (keeps : capture.KeepsSlots) :
    after.store.bound = pass.store.bound := by
  cases resolves with
  | deferred missing resolved => exact (Deferred.KeepsSlots.resolve keeps).of_ok resolved
  | lazy produced entries => exact Outcome.Keeps.of_ok keeps produced
  | mapped found => rfl
  | made missing makes => rfl
  | argument missing source => rfl
  | index missing => rfl
  | scalar missing => rfl
  | sequence entries => rfl

/-- A deferred integer without an entry is replaced by the number that it
answers. -/
theorem Resolves.eq_answer {value : Deferred σ} {replacement? : Option Replacement}
    (resolves : Resolves pass (.deferred value) replacement? after)
    (missing : pass.identities[value.id]? = none) (reads : value.ReadOnly) {number : Int}
    (answered : pass.store.answer? value.resolve = some number) :
    replacement? = some (.value (.scalar (.int number))) := by
  cases resolves with
  | mapped found =>
      have entry : pass.identities[value.id]? = some _ := found
      rw [missing] at entry
      cases entry
  | deferred _ resolved =>
      have given := ((reads.resolve.eq_ok_iff _ _ _).mp resolved).1
      cases given.symm.trans answered
      rfl

/-- Under every name under which a deferred integer is captured, it is replaced
by the number that it answers at the start, if it has no entry even at the
end. -/
theorem ResolvesAll.lookup_deferred {entries : List (String × Capture σ)}
    {replacements : List (String × Replacement)}
    (resolvesAll : ResolvesAll pass entries replacements after)
    (distinct : (entries.map Prod.fst).Nodup)
    (keeps : forall entry, entry ∈ entries -> entry.2.KeepsSlots) {value : Deferred σ}
    (missing : after.identities[value.id]? = none) (reads : value.ReadOnly) {number : Int}
    (answered : pass.store.answer? value.resolve = some number) {name : String}
    (captured : (name, .deferred value) ∈ entries) :
    replacements.lookup name = some (.value (.scalar (.int number))) := by
  induction resolvesAll with
  | nil => exact absurd captured List.not_mem_nil
  | @cons pass middle after first capture _ rest others head later inductionHypothesis =>
      rw [List.map_cons, List.nodup_cons] at distinct
      rw [List.forall_mem_cons] at keeps
      rcases List.mem_cons.mp captured with same | member
      · cases same
        have through := head.completes.append later.completes
        have unmapped := through.none_of_none missing
        rw [later.lookup_first distinct.1]
        exact head.eq_answer unmapped reads answered
      · have listed : name ∈ rest.map Prod.fst := List.mem_map_of_mem member
        have different : name ≠ first := fun same => distinct.1 (same ▸ listed)
        have still := reads.resolve.answer?_eq (head.bound keeps.1)
        rw [lookup_later different]
        exact inductionHypothesis distinct.2 keeps.2 missing (still.trans answered) member

end Pass

namespace Nest

variable {σ : Type} {pass after : Pass (Recorder σ) σ}

theorem Adds.bound {attachment : Attachment σ} {entry : RecordedKernel σ}
    (adds : Adds pass attachment entry after)
    (keeps : forall capture, capture ∈ attachment.captured -> capture.KeepsSlots) :
    after.store.bound = pass.store.bound := by
  have added := (addLogic_eq_ok_iff attachment pass after ()).mpr ⟨entry, adds⟩
  have kept := bound_addLogic pass keeps
  rw [added] at kept
  exact kept

/-- The kernel of a command finds the number that a captured deferred integer
answers. -/
theorem Adds.int?_eq {attachment : Attachment σ} {entry : RecordedKernel σ}
    (adds : Adds pass attachment entry after)
    (keeps : forall capture, capture ∈ attachment.captured -> capture.KeepsSlots)
    {value : Deferred σ} (missing : after.identities[value.id]? = none) (reads : value.ReadOnly)
    {number : Int} (answered : pass.store.answer? value.resolve = some number) {scope : Scope σ}
    (seen : entry.kernel.scope? = some scope) {name : String}
    (captured : attachment.logic.capture? name = some (.deferred value)) :
    scope.int? name = some number := by
  cases adds with
  | @intro space substitution middle entered resolvesAll accepted recorded =>
      cases seen
      have replaced := resolvesAll.lookup_deferred attachment.logic.names_distinct
        (fun entry member => keeps entry.2 (mem_captured member)) missing reads answered
        (attachment.logic.mem_of_capture? captured)
      have found : (attachment.logic.scope substitution).substitution.get? name =
          some (.value (.scalar (.int number))) := replaced
      unfold Scope.int? Scope.native?
      rw [found]

/-- Every kernel was added at some point.  By then the slots were bound as they
are at the start, and tokens without an entry at the end had none. -/
theorem AddsAll.exists_adds {attachments : List (Attachment σ)} {added : List (RecordedKernel σ)}
    (addsAll : AddsAll pass attachments added after)
    (keeps : forall attachment, attachment ∈ attachments ->
      forall capture, capture ∈ attachment.captured -> capture.KeepsSlots) :
    forall pair, pair ∈ attachments.zip added ->
      ∃ before middle, Adds before pair.1 pair.2 middle ∧
        before.store.bound = pass.store.bound ∧
        forall token : Token, after.identities[token]? = none ->
          middle.identities[token]? = none := by
  induction addsAll with
  | nil =>
      intro pair member
      exact absurd member List.not_mem_nil
  | cons first later inductionHypothesis =>
      rw [List.forall_mem_cons] at keeps
      rw [List.zip_cons_cons, List.forall_mem_cons]
      refine ⟨⟨_, _, first, rfl, fun _ => later.completes.none_of_none⟩, ?_⟩
      intro pair member
      rcases inductionHypothesis keeps.2 pair member with ⟨before, middle, adds, bound, absent⟩
      exact ⟨before, middle, adds, bound.trans (first.bound keeps.1), absent⟩

theorem mem_handles_of_extent {nest : Nest σ} {dimension : Nat} {value : Deferred σ}
    (declared : nest.declaredShape[dimension]? = some (.deferred value)) :
    .deferred value ∈ nest.handles := by
  have listed : .deferred value ∈ nest.declaredShape.filterMap Extent.handle? :=
    List.mem_filterMap.mpr ⟨_, List.mem_of_getElem? declared, rfl⟩
  exact List.mem_append_left _ (List.mem_append_right _ listed)

/-- A captured deferred integer carries the token of no loop index and of no
captured array, if the handles come from one arena. -/
theorem notMem_tokens_of_deferred {nest : Nest σ} (issued : FromOneArena nest.handles)
    {value : Deferred σ} (captured : .deferred value ∈ nest.captured) :
    value.id ∉ nest.ownTokens ∧
      forall handle, handle ∈ Capture.madeIn nest.captured -> handle.id ≠ value.id := by
  have member : .deferred value ∈ nest.handles := List.mem_append_right _ captured
  constructor
  · intro own
    rcases List.mem_map.mp own with ⟨index, indexMember, carries⟩
    have listed : Capture.index index ∈ nest.handles :=
      List.mem_append_left _ (List.mem_append_left _ (List.mem_map_of_mem indexMember))
    have same := issued.eq_of_identity member listed rfl (congrArg some carries)
    cases same
  · intro handle made carries
    have listed : Capture.array handle ∈ nest.handles :=
      List.mem_append_right _ ((Capture.mem_madeIn_iff _ handle).mp made).1
    have same := issued.eq_of_identity member listed rfl (congrArg some carries)
    cases same

end Nest

namespace Lowering

variable {σ : Type}

section Run

variable {arguments : Arguments σ} {bindings : Bindings σ} {lowering : Lowering (Recorder σ) σ}

/-- Once it is in its space, the pass has the slots bound as the bindings left
them. -/
theorem Entry.bound (entry : Entry arguments bindings lowering)
    (keeps : lowering.plan.KeepsSlots) :
    entry.pass.store.bound = (bindings.applied lowering.store).bound := by
  have seeded : entry.seeded.store = entry.resolved := entry.seedsAll.store
  calc entry.pass.store.bound
      = entry.resolved.bound := congrArg Store.bound seeded
    _ = entry.applied.bound :=
          (Extent.keepsSlots_mapM_resolve keeps.extents).of_ok entry.resolution
    _ = (bindings.applied lowering.store).bound := by
          rw [((bindings.apply_eq_ok_iff _ _ _).mp entry.application).2]

/-- A captured deferred integer that is no argument has no entry at the end. -/
theorem Run.missing_of_deferred (run : Run arguments bindings lowering)
    (issued : FromOneArena lowering.plan.nest.handles) {value : Deferred σ}
    (captured : .deferred value ∈ lowering.plan.nest.captured)
    (unsupplied : value.id ∉ arguments.tokens) : run.done.identities[value.id]? = none := by
  rcases Nest.notMem_tokens_of_deferred issued captured with ⟨foreign, unmade⟩
  rw [Option.eq_none_iff_forall_ne_some]
  intro entry found
  rcases (run.adding.completes.exists_iff value.id).mp ⟨entry, found⟩ with
    early | ⟨handle, made, carries⟩
  · rcases (run.exists_getElem?_iff value.id).mp early with supplied | own
    · exact unsupplied supplied
    · exact foreign own
  · exact unmade handle made carries

end Run

/-- Where a deferred integer is the extent of a dimension and is captured by a
command as well, the kernel of that command finds the extent that the space has,
whatever the store is when it is run.  This holds for every integer that only
reads the slots and is no argument, if no rule of the plan binds anything and
the handles come from one arena. -/
theorem captures_agree_with_extents {arguments : Arguments σ} {bindings : Bindings σ}
    {lowering after : Lowering (Recorder σ) σ} {lowered : LoweredNest}
    (keeps : lowering.plan.KeepsSlots) (issued : FromOneArena lowering.plan.nest.handles)
    (done : lower arguments bindings lowering = .ok lowered after) :
    ∃ added, after.backend.kernels = lowering.backend.kernels ++ added ∧
      added.length = lowering.plan.nest.attachments.length ∧
      forall pair, pair ∈ lowering.plan.nest.attachments.zip added ->
        ∃ scope, pair.2.kernel.scope? = some scope ∧
          (forall store, pair.2.kernel.invoke store = pair.1.logic.body scope store) ∧
          forall (name : String) (value extent : Deferred σ) (dimension : Nat),
            pair.1.logic.capture? name = some (.deferred value) ->
            lowering.plan.nest.declaredShape[dimension]? = some (.deferred extent) ->
            extent.id = value.id -> value.ReadOnly -> value.id ∉ arguments.tokens ->
              ∃ number, lowered.space.extents[dimension]? = some number ∧
                scope.int? name = some number := by
  rcases (lower_eq_ok_iff _ _ _ _ _).mp done with ⟨run, rfl, rfl⟩
  have commands : forall attachment, attachment ∈ lowering.plan.nest.attachments ->
      forall capture, capture ∈ attachment.captured -> capture.KeepsSlots :=
    fun attachment attached => keeps.attachment attached
  refine ⟨run.added, ?_, run.adding.length, ?_⟩
  · have earlier : run.pass.backend.kernels = lowering.backend.kernels := run.seedsAll.kernels
    rw [← earlier]
    exact run.adding.kernels
  · intro pair paired
    have attached := (List.of_mem_zip paired).1
    rcases run.adding.exists_adds commands pair paired with ⟨before, middle, adds, bound, absent⟩
    rcases adds.exists_scope with ⟨scope, seen, _, runs⟩
    refine ⟨scope, seen, runs, ?_⟩
    intro name value extent dimension captured declared shared reads unsupplied
    have member : .deferred value ∈ lowering.plan.nest.captured :=
      Nest.mem_captured_of_capture? attached captured
    have same := issued.eq_of_identity (Nest.mem_handles_of_extent declared)
      (List.mem_append_right _ member) rfl (congrArg some shared.symm)
    cases same
    rcases Extent.exists_answer_of_mapM_resolve run.resolution keeps.extents reads declared with
      ⟨number, found, answered⟩
    have applied := ((bindings.apply_eq_ok_iff _ _ _).mp run.application).2
    have still : before.store.bound = run.applied.bound := by
      rw [bound, run.bound keeps, applied]
    have missing := absent value.id (run.missing_of_deferred issued member unsupplied)
    have told := (reads.resolve.answer?_eq still).trans answered
    exact ⟨number, found, adds.int?_eq (commands pair.1 attached) missing reads told seen captured⟩

end Lowering

/-! ## A nest over a derived extent -/

namespace Sample

/-- Twice the rows. -/
def doubled : Deferred Unit :=
  ((rows.map "doubled" (2 * ·)).run arena).1

def doubledLoop : LoopIndex :=
  ⟨⟨2⟩, ⟨0⟩, 0⟩

def pairing : LogicFunction Unit where
  name := "pairing"
  captures := [("doubled", .deferred doubled), ("rows", .deferred rows)]
  body := fun _ store => store
  names_distinct := by decide

/-- A nest over twice the rows, with logic. -/
def doubledNest : Nest Unit :=
  Nest.attach ⟨⟨0⟩, [⟨doubledLoop, .deferred doubled, .deferred doubled⟩], [], []⟩ pairing .plain

theorem rows_readOnly : rows.ReadOnly :=
  trivial

theorem doubled_readOnly : doubled.ReadOnly :=
  rows_readOnly.map "doubled" (2 * ·) arena

theorem doubledNest_keepsSlots : (lowering doubledNest).plan.KeepsSlots := by
  constructor
  · intro extent member
    rw [List.mem_singleton.mp member]
    exact doubled_readOnly.keepsSlots
  · have captured : doubledNest.captured = [.deferred doubled, .deferred rows] := rfl
    change forall capture, capture ∈ doubledNest.captured -> capture.KeepsSlots
    rw [captured, List.forall_mem_cons, List.forall_mem_singleton]
    exact ⟨doubled_readOnly.keepsSlots, rows_readOnly.keepsSlots⟩

/-- How the handles of the nest are made, in one arena. -/
def doubledConstructions : List (Construction Unit) :=
  [.parameter "rows" 0, .mapped rows "doubled" (2 * ·), .nest [.deferred doubled]]

theorem doubledNest_issued : FromOneArena doubledNest.handles := by
  have room : (Arena.after doubledConstructions).size <= UInt32.size := by decide
  have made : (Arena.madeBy doubledConstructions).handles =
      [.deferred rows, .deferred doubled, .index doubledLoop] := rfl
  have handles : doubledNest.handles =
      [.index doubledLoop, .deferred doubled, .deferred doubled, .deferred rows] := rfl
  refine (Arena.fromOneArena_madeBy doubledConstructions room).mono ?_
  rw [made, handles]
  simp

end Sample

namespace Lowering

/-- With four rows the space of this nest has eight iterations, and the body of
the kernel finds eight as well. -/
theorem kernel_finds_doubled_rows :
    ∃ lowered after kernel scope,
      lower ⟨[], []⟩ Sample.bindings (Sample.lowering Sample.doubledNest) = .ok lowered after ∧
        after.backend.kernels = [kernel] ∧ kernel.kernel.scope? = some scope ∧
        lowered.space.extents[0]? = some 8 ∧ scope.int? "doubled" = some 8 := by
  have eight : (match lower ⟨[], []⟩ Sample.bindings (Sample.lowering Sample.doubledNest) with
      | .ok lowered _ => lowered.space.extents[0]?
      | .error _ _ => none) = some 8 := by decide +kernel
  cases done : lower ⟨[], []⟩ Sample.bindings (Sample.lowering Sample.doubledNest) with
  | error error after =>
      rw [done] at eight
      cases eight
  | ok lowered after =>
      rw [done] at eight
      rcases captures_agree_with_extents Sample.doubledNest_keepsSlots Sample.doubledNest_issued
        done with ⟨added, kernels, counted, agree⟩
      rcases added with _ | ⟨kernel, _ | ⟨second, rest⟩⟩
      · cases counted
      · have unsupplied : Sample.doubled.id ∉ (Arguments.mk [] [] : Arguments Unit).tokens := by
          decide
        rcases agree (⟨Sample.pairing, .plain⟩, kernel) List.mem_cons_self with
          ⟨scope, seen, _, told⟩
        rcases told "doubled" Sample.doubled Sample.doubled 0 rfl rfl rfl Sample.doubled_readOnly
          unsupplied with ⟨number, extent, found⟩
        cases eight.symm.trans extent
        exact ⟨lowered, after, kernel, scope, rfl, kernels, seen, extent, found⟩
      · cases counted

end Lowering

end LoopNest
