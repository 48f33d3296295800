import LoopNest.Proofs.Pass.Resolution
import Mathlib.Data.List.Forall2

namespace LoopNest

/-!
# The arrays that resolving makes

Resolving captured values makes one array for each handle that a pass makes and
that has no entry yet; of several handles with one token it makes the first.
The arrays are logged in that order, each with the element type and the layout
of its handle, and each is recorded under the token of its handle.  So the new
entries of the identity map and the new arrays of the log are the same arrays,
paired by the handles.
-/

/-- The handles that are the first with their token, in order. -/
def firsts : List ArrayHandle -> List ArrayHandle
  | [] => []
  | handle :: rest => handle :: (firsts rest).filter fun later => decide (later.id ≠ handle.id)

theorem firsts_sublist (handles : List ArrayHandle) : (firsts handles).Sublist handles := by
  induction handles with
  | nil => exact .slnil
  | cons handle rest inductionHypothesis =>
      exact (List.filter_sublist.trans inductionHypothesis).cons_cons handle

theorem mem_map_id_firsts (token : Token) (handles : List ArrayHandle) :
    token ∈ (firsts handles).map ArrayHandle.id <-> token ∈ handles.map ArrayHandle.id := by
  refine ⟨fun member => ((firsts_sublist handles).map ArrayHandle.id).subset member, ?_⟩
  induction handles with
  | nil => exact id
  | cons handle rest inductionHypothesis =>
      intro member
      rw [firsts, List.map_cons, List.mem_cons]
      by_cases same : token = handle.id
      · exact .inl same
      · right
        have later : token ∈ rest.map ArrayHandle.id :=
          (List.mem_cons.mp member).resolve_left same
        rcases List.mem_map.mp (inductionHypothesis later) with ⟨other, found, rfl⟩
        exact List.mem_map_of_mem (List.mem_filter.mpr ⟨found, decide_eq_true same⟩)

/-- Handles can be left out by their tokens before or after. -/
theorem filter_firsts (accepts : Token -> Bool) (handles : List ArrayHandle) :
    (firsts handles).filter (fun handle => accepts handle.id) =
      firsts (handles.filter fun handle => accepts handle.id) := by
  induction handles with
  | nil => rfl
  | cons handle rest inductionHypothesis =>
      rw [firsts]
      cases accepted : accepts handle.id with
      | true =>
          simp only [List.filter_cons, accepted, if_true, firsts]
          rw [← inductionHypothesis, List.filter_filter, List.filter_filter]
          simp only [Bool.and_comm]
      | false =>
          simp only [List.filter_cons, accepted, Bool.false_eq_true, if_false]
          rw [← inductionHypothesis, List.filter_filter]
          refine List.filter_congr fun later _ => ?_
          by_cases same : later.id = handle.id
          · rw [same, accepted, Bool.false_and]
          · rw [decide_eq_true same, Bool.and_true]

/-- Of the later handles those count whose tokens did not come before. -/
theorem firsts_append (first second : List ArrayHandle) :
    firsts (first ++ second) =
      firsts first ++
        firsts (second.filter fun handle => decide (handle.id ∉ first.map ArrayHandle.id)) := by
  rw [← filter_firsts fun token => decide (token ∉ first.map ArrayHandle.id)]
  induction first with
  | nil => exact (List.filter_eq_self.mpr fun _ _ => rfl).symm
  | cons handle rest inductionHypothesis =>
      rw [List.cons_append, firsts, inductionHypothesis, firsts, List.filter_append,
        List.filter_filter, List.cons_append]
      congr 2
      refine List.filter_congr fun later _ => ?_
      simp [not_or]

private theorem exists_mem_of_forall₂ {α β : Type} {related : α -> β -> Prop} {items : List α}
    {others : List β} (paired : List.Forall₂ related items others) {item : α}
    (member : item ∈ items) : ∃ other, other ∈ others ∧ related item other := by
  induction paired with
  | nil => cases member
  | @cons _ first _ _ holds _ inductionHypothesis =>
      rcases List.mem_cons.mp member with rfl | later
      · exact ⟨first, List.mem_cons_self, holds⟩
      · rcases inductionHypothesis later with ⟨other, found, holds⟩
        exact ⟨other, List.mem_cons_of_mem _ found, holds⟩

namespace Pass

variable {σ : Type}

/-- The handles that have no entry yet, the first for each token. -/
def unmade (pass : Pass (Recorder σ) σ) (handles : List ArrayHandle) : List ArrayHandle :=
  firsts (handles.filter fun handle => pass.identities[handle.id]?.isNone)

/-- The logged array is the entry of the handle and is as the handle says. -/
structure Counterpart (identities : IdentityMap) (handle : ArrayHandle)
    (entry : NativeArray × Layout) : Prop where
  becomes : handle.Becomes entry.1
  layout : entry.2 = handle.layout
  found : identities[handle.id]? = some (.array entry.1)

/-- From one state to the other one array was made for each of the handles, in
their order.  None of them had an entry, and all other entries are as they
were. -/
structure Materializes (before : Pass (Recorder σ) σ) (handles : List ArrayHandle)
    (after : Pass (Recorder σ) σ) : Prop where
  distinct : (handles.map ArrayHandle.id).Nodup
  missing : forall handle, handle ∈ handles -> before.identities[handle.id]? = none
  logged : ∃ made, after.backend.arrays = before.backend.arrays ++ made ∧
    List.Forall₂ (Counterpart after.identities) handles made
  others : forall token, token ∉ handles.map ArrayHandle.id ->
    after.identities[token]? = before.identities[token]?

/-- Nothing is made while log and map stay the same. -/
theorem materializes_nil {before after : Pass (Recorder σ) σ}
    (arrays : after.backend.arrays = before.backend.arrays)
    (identities : after.identities = before.identities) : Materializes before [] after where
  distinct := List.nodup_nil
  missing _ impossible := absurd impossible List.not_mem_nil
  logged := ⟨[], by rw [arrays, List.append_nil], .nil⟩
  others _ _ := by rw [identities]

theorem materializes_withArray {pass : Pass (Recorder σ) σ} {handle : ArrayHandle}
    {origin : ArrayOrigin} (missing : pass.identities[handle.id]? = none)
    (makes : pass.Makes handle origin) :
    Materializes pass [handle] (pass.withArray handle origin) where
  distinct := List.pairwise_singleton _ _
  missing := by
    intro other member
    rw [List.mem_singleton.mp member]
    exact missing
  logged := by
    let entry := (pass.backend.nextArray handle.elementType origin, handle.layout)
    refine ⟨[entry], rfl, .cons ?_ .nil⟩
    exact ⟨⟨rfl, makes.source⟩, rfl, Std.ExtTreeMap.getElem?_insert_self⟩
  others := by
    intro token absent
    have different : handle.id ≠ token := fun same => absent (same ▸ List.mem_cons_self)
    exact IdentityMap.getElem?_insert_of_ne different _ _

namespace Materializes

variable {before middle after : Pass (Recorder σ) σ} {handles first second : List ArrayHandle}

theorem exists_counterpart (materializes : Materializes before handles after)
    {handle : ArrayHandle} (member : handle ∈ handles) :
    ∃ entry, entry ∈ after.backend.arrays ∧ Counterpart after.identities handle entry := by
  rcases materializes.logged with ⟨made, arrays, paired⟩
  rcases exists_mem_of_forall₂ paired member with ⟨entry, new, counterpart⟩
  exact ⟨entry, arrays ▸ List.mem_append_right _ new, counterpart⟩

/-- The tokens that have no entry afterwards. -/
theorem getElem?_eq_none_iff (materializes : Materializes before handles after) (token : Token) :
    after.identities[token]? = none <->
      before.identities[token]? = none ∧ token ∉ handles.map ArrayHandle.id := by
  by_cases carried : token ∈ handles.map ArrayHandle.id
  · rcases List.mem_map.mp carried with ⟨handle, member, rfl⟩
    rcases materializes.exists_counterpart member with ⟨entry, _, counterpart⟩
    simp [counterpart.found, carried]
  · simp [materializes.others token carried, carried]

theorem kept (materializes : Materializes before handles after) {token : Token}
    {value : NativeValue} (found : before.identities[token]? = some value) :
    after.identities[token]? = some value := by
  refine (materializes.others token ?_).trans found
  intro carried
  rcases List.mem_map.mp carried with ⟨handle, member, rfl⟩
  rw [materializes.missing handle member] at found
  cases found

/-- What is made one after the other. -/
theorem append (begun : Materializes before first middle)
    (ended : Materializes middle second after) : Materializes before (first ++ second) after where
  distinct := by
    rw [List.map_append, List.nodup_append]
    refine ⟨begun.distinct, ended.distinct, ?_⟩
    intro token carried other otherCarried same
    rcases List.mem_map.mp otherCarried with ⟨handle, member, rfl⟩
    -- The later handle had no entry in between, where all the earlier ones have one.
    have free := (begun.getElem?_eq_none_iff handle.id).mp (ended.missing handle member)
    exact free.2 (same ▸ carried)
  missing := by
    rw [List.forall_mem_append]
    refine ⟨begun.missing, ?_⟩
    intro handle member
    exact ((begun.getElem?_eq_none_iff handle.id).mp (ended.missing handle member)).1
  logged := by
    rcases begun.logged with ⟨made, arrays, paired⟩
    rcases ended.logged with ⟨madeLater, arraysLater, pairedLater⟩
    refine ⟨made ++ madeLater, by rw [arraysLater, arrays, List.append_assoc], ?_⟩
    refine List.rel_append (paired.imp fun handle entry counterpart => ?_) pairedLater
    exact { counterpart with found := ended.kept counterpart.found }
  others := by
    intro token absent
    rw [List.map_append, List.mem_append, not_or] at absent
    exact (ended.others token absent.2).trans (begun.others token absent.1)

/-- What remains to be made after the first handles. -/
theorem unmade_append (materializes : Materializes before (before.unmade first) middle) :
    before.unmade (first ++ second) = before.unmade first ++ middle.unmade second := by
  rw [unmade, List.filter_append, firsts_append, List.filter_filter]
  refine congrArg (before.unmade first ++ firsts ·) (List.filter_congr fun handle _ => ?_)
  rw [Bool.eq_iff_iff, Bool.and_eq_true, decide_eq_true_iff, Option.isNone_iff_eq_none,
    Option.isNone_iff_eq_none, materializes.getElem?_eq_none_iff, unmade, mem_map_id_firsts,
    and_comm]

end Materializes

theorem Resolves.materializes {pass after : Pass (Recorder σ) σ} {capture : Capture σ}
    {replacement? : Option Replacement} (resolves : Resolves pass capture replacement? after) :
    Materializes pass (pass.unmade capture.made?.toList) after := by
  cases resolves with
  | mapped found =>
      have nothing : pass.unmade capture.made?.toList = [] := by
        cases making : capture.made? with
        | none => rfl
        | some handle =>
            rcases (capture.made?_eq_some_iff handle).mp making with ⟨rfl, _⟩
            have entry : pass.identities[handle.id]? = some _ := found
            simp [unmade, entry, firsts]
      rw [nothing]
      exact materializes_nil rfl rfl
  | @made handle origin missing makes =>
      have making : (Capture.array handle : Capture σ).made? = some handle :=
        (Capture.made?_eq_some_iff _ handle).mpr ⟨rfl, origin, makes.source⟩
      have alone : pass.unmade [handle] = [handle] := by
        simp [unmade, missing, firsts]
      rw [making, Option.toList_some, alone]
      exact materializes_withArray missing makes
  | @argument handle missing source =>
      rw [Capture.made?_of_argument source]
      exact materializes_nil rfl rfl
  | index missing => exact materializes_nil rfl rfl
  | scalar missing => exact materializes_nil rfl rfl
  | deferred missing resolved => exact materializes_nil rfl rfl
  | sequence entries => exact materializes_nil rfl rfl
  | lazy produced entries => exact materializes_nil rfl rfl

/-- Resolving the captured values of a logic function makes their arrays in the
order of capture. -/
theorem ResolvesAll.materializes {pass after : Pass (Recorder σ) σ}
    {entries : List (String × Capture σ)} {replacements : List (String × Replacement)}
    (resolvesAll : ResolvesAll pass entries replacements after) :
    Materializes pass (pass.unmade (Capture.madeIn (entries.map Prod.snd))) after := by
  induction resolvesAll with
  | nil => exact materializes_nil rfl rfl
  | cons first later inductionHypothesis =>
      rw [List.map_cons, Capture.madeIn_cons, first.materializes.unmade_append]
      exact first.materializes.append inductionHypothesis

end Pass

end LoopNest
