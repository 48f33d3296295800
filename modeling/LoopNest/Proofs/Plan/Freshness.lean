import LoopNest.Proofs.Native.Calls
import LoopNest.Proofs.Plan.Course

namespace LoopNest

/-!
# Passes share no handles

Several plans may be lowered on one backend, between calls by which it is used
directly, and passes may fail.  Still, every array that a pass puts into a
kernel or into its identity map was handed out by the backend during this pass,
and every native index there belongs to the one space that this pass created.
So no array and no native index of one pass ever occurs in another.
-/

namespace Lowering

variable {σ : Type}

/-- The backend that a pass leaves, whether it gives a result or fails. -/
def backendAfter (arguments : Arguments σ) (bindings : Bindings σ)
    (lowering : Lowering (Recorder σ) σ) : Recorder σ :=
  (Outcome.state (lower arguments bindings lowering)).backend

/-- A native value that a pass resolves: it is in a kernel that the pass
registers, or in the identity map that the pass hands out. -/
inductive Resolved (arguments : Arguments σ) (bindings : Bindings σ)
    (lowering : Lowering (Recorder σ) σ) : NativeValue -> Prop
  | kernel {position : Nat} {entry : RecordedKernel σ} {native : NativeValue}
      (later : lowering.backend.kernels.length <= position)
      (logged : (backendAfter arguments bindings lowering).kernels[position]? = some entry)
      (member : native ∈ entry.natives) : Resolved arguments bindings lowering native
  | identity {lowered : LoweredNest} {after : Lowering (Recorder σ) σ} {token : Token}
      {native : NativeValue} (done : lower arguments bindings lowering = .ok lowered after)
      (found : lowered.identities[token]? = some native) :
      Resolved arguments bindings lowering native

end Lowering

namespace Recorder

variable {σ : Type}

/-- What a recorder may go through: calls, and passes of any plan over any
store, whatever their outcome. -/
inductive History (earlier : Recorder σ) : Recorder σ -> Prop
  | nothing : History earlier earlier
  | call {recorder : Recorder σ} (history : History earlier recorder) (call : Call σ) :
      History earlier (recorder.afterCall call)
  | pass {lowering : Lowering (Recorder σ) σ} (history : History earlier lowering.backend)
      (arguments : Arguments σ) (bindings : Bindings σ) :
      History earlier (lowering.backendAfter arguments bindings)

theorem History.changes {earlier later : Recorder σ} (history : History earlier later) :
    Changes earlier later := by
  induction history with
  | nothing => exact .refl
  | call _ call inductionHypothesis =>
      exact inductionHypothesis.trans (changes_afterCall _ call)
  | pass _ arguments bindings inductionHypothesis =>
      exact inductionHypothesis.trans (Lowering.changes_lower arguments bindings _)

end Recorder

namespace Lowering

variable {σ : Type} {arguments : Arguments σ} {bindings : Bindings σ}
  {lowering : Lowering (Recorder σ) σ}

/-- What a pass resolves was handed out after the pass began. -/
theorem Resolved.handedOut {native : NativeValue}
    (resolved : Resolved arguments bindings lowering native) :
    Recorder.HandedOut lowering.backend (lowering.backendAfter arguments bindings) native := by
  rcases exists_course arguments bindings lowering with
    ⟨nest, store, created?, final, course, left, result⟩
  have grounded := course.grounded (Pass.grounded_start _ _ _ _)
  have backend_eq : lowering.backendAfter arguments bindings = final.backend := left
  rw [backend_eq]
  cases resolved with
  | kernel later logged member =>
      rw [backend_eq] at logged
      exact grounded.kernels later logged member
  | identity done found =>
      rw [(result _ _ done).2] at found
      exact grounded.entries found

/-- An index that a pass resolves belongs to the space that it created. -/
theorem Resolved.in_created {created? : Option NativeSpace}
    (spaces : (lowering.backendAfter arguments bindings).spaces =
      lowering.backend.spaces ++ created?.toList) {index : NativeIndex}
    (resolved : Resolved arguments bindings lowering (.index index)) :
    ∃ space, created? = some space ∧ index ∈ space.indices := by
  cases resolved.handedOut with
  | index later logged member =>
      rw [spaces, List.getElem?_append_right later] at logged
      exact ⟨_, Option.mem_toList.mp (List.mem_of_getElem? logged), member⟩

/-- A space that is logged behind others has another number than they. -/
theorem number_ne_of_earlier {recorder : Recorder σ} (numbered : recorder.Numbered)
    (fits : recorder.Fits) {earlier : List NativeSpace} {space known : NativeSpace}
    (spaces : recorder.spaces = earlier ++ [space]) (member : known ∈ earlier) :
    known.id ≠ space.id := by
  intro same
  rcases List.mem_iff_getElem?.mp member with ⟨position, found⟩
  have within := (List.getElem?_eq_some_iff.mp found).1
  have logged : recorder.spaces[position]? = some known := by
    rw [spaces, List.getElem?_append_left within, found]
  have last : recorder.spaces[earlier.length]? = some space := by
    rw [spaces]
    exact List.getElem?_concat_length
  have number := numbered.space_number fits.spaces logged
  rw [same, numbered.space_number fits.spaces last] at number
  omega

/-- A pass creates at most one space, and it hands out the one it created. -/
theorem exists_created (arguments : Arguments σ) (bindings : Bindings σ)
    (lowering : Lowering (Recorder σ) σ) :
    ∃ created? : Option NativeSpace,
      (lowering.backendAfter arguments bindings).spaces =
          lowering.backend.spaces ++ created?.toList ∧
        forall lowered after, lower arguments bindings lowering = .ok lowered after ->
          created? = some lowered.space := by
  rcases exists_course arguments bindings lowering with
    ⟨_, _, created?, final, course, left, result⟩
  refine ⟨created?, ?_, fun lowered after done => (result lowered after done).1⟩
  rw [backendAfter, left]
  exact course.spaces

theorem numbered_backendAfter (arguments : Arguments σ) (bindings : Bindings σ)
    (numbered : lowering.backend.Numbered) :
    (lowering.backendAfter arguments bindings).Numbered :=
  (changes_lower arguments bindings lowering).numbered numbered

/-- An index names the space that the pass created. -/
theorem Resolved.space_of_index (numbered : lowering.backend.Numbered)
    {created? : Option NativeSpace}
    (spaces : (lowering.backendAfter arguments bindings).spaces =
      lowering.backend.spaces ++ created?.toList) {index : NativeIndex}
    (resolved : Resolved arguments bindings lowering (.index index)) :
    ∃ space, created? = some space ∧ index.space = space.id ∧ index ∈ space.indices := by
  rcases resolved.in_created spaces with ⟨space, created, member⟩
  have logged : (lowering.backendAfter arguments bindings).spaces[
      lowering.backend.spaces.length]? = some space := by
    rw [spaces, created]
    exact List.getElem?_concat_length
  exact ⟨space, created, ((numbered_backendAfter _ _ numbered).index logged member).1, member⟩

/-- Two passes on one backend share no handle. -/
theorem Resolved.scalar_of_later {later : Lowering (Recorder σ) σ} {laterArguments : Arguments σ}
    {laterBindings : Bindings σ} (numbered : lowering.backend.Numbered)
    (between : Recorder.Changes (lowering.backendAfter arguments bindings) later.backend)
    (fits : (later.backendAfter laterArguments laterBindings).Fits) {native : NativeValue}
    (resolved : Resolved arguments bindings lowering native)
    (again : Resolved laterArguments laterBindings later native) :
    ∃ value, native = .scalar value := by
  have numberedLeft := numbered_backendAfter arguments bindings numbered
  have numberedLater := between.numbered numberedLeft
  have numberedLast := numbered_backendAfter laterArguments laterBindings numberedLater
  have lastGrows := (changes_lower laterArguments laterBindings later).grows
  have fitsLeft := (fits.earlier lastGrows).earlier between.grows
  cases native with
  | scalar value => exact ⟨value, rfl⟩
  | array array =>
      have first := (resolved.handedOut.array_number numberedLeft fitsLeft.arrays).2
      have second := (again.handedOut.array_number numberedLast fits.arrays).1
      have grown := between.grows.arrays.length_le
      omega
  | index index =>
      rcases exists_created arguments bindings lowering with ⟨created?, spaces, _⟩
      rcases exists_created laterArguments laterBindings later with ⟨laterCreated?, laterSpaces, _⟩
      rcases resolved.space_of_index numbered spaces with ⟨space, created, named, _⟩
      rcases again.space_of_index numberedLater laterSpaces with
        ⟨laterSpace, laterCreated, laterNamed, _⟩
      subst created laterCreated
      -- The space of the first pass is logged before that of the later one.
      have known : space ∈ (lowering.backendAfter arguments bindings).spaces := by
        rw [spaces]
        exact List.mem_append_right _ (List.mem_singleton.mpr rfl)
      have different := number_ne_of_earlier numberedLast fits laterSpaces
        (between.grows.spaces.subset known)
      exact absurd (named.symm.trans laterNamed) different

/-- Every array that a pass resolves has a number that was free before the
pass, and every native index belongs to the one space that the pass created,
whose number was free as well.  What one pass resolves and a later one resolves
again can only be a scalar. -/
theorem handles_are_fresh (history : Recorder.History .empty lowering.backend)
    (fits : (lowering.backendAfter arguments bindings).Fits) :
    (∃ created?,
      (lowering.backendAfter arguments bindings).spaces =
          lowering.backend.spaces ++ created?.toList ∧
        (forall lowered after, lower arguments bindings lowering = .ok lowered after ->
          created? = some lowered.space) ∧
        (forall space, created? = some space ->
          forall known, known ∈ lowering.backend.spaces -> known.id ≠ space.id) ∧
        (forall index, Resolved arguments bindings lowering (.index index) ->
          ∃ space, created? = some space ∧ index.space = space.id ∧ index ∈ space.indices)) ∧
    (forall array, Resolved arguments bindings lowering (.array array) ->
      lowering.backend.arrays.length <= array.id.toNat ∧
        array.id.toNat < (lowering.backendAfter arguments bindings).arrays.length) ∧
    (forall (later : Lowering (Recorder σ) σ) (laterArguments : Arguments σ)
      (laterBindings : Bindings σ),
      Recorder.History (lowering.backendAfter arguments bindings) later.backend ->
      (later.backendAfter laterArguments laterBindings).Fits ->
      forall native, Resolved arguments bindings lowering native ->
        Resolved laterArguments laterBindings later native ->
          ∃ value, native = .scalar value) := by
  have numbered := history.changes.numbered Recorder.numbered_empty
  have numberedLeft := numbered_backendAfter arguments bindings numbered
  rcases exists_created arguments bindings lowering with ⟨created?, spaces, result⟩
  refine ⟨⟨created?, spaces, result, ?_, ?_⟩, ?_, ?_⟩
  · intro space created known member
    subst created
    exact number_ne_of_earlier numberedLeft fits spaces member
  · intro index resolved
    exact resolved.space_of_index numbered spaces
  · intro array resolved
    exact resolved.handedOut.array_number numberedLeft fits.arrays
  · intro later laterArguments laterBindings between laterFits native resolved again
    exact resolved.scalar_of_later numbered between.changes laterFits again

end Lowering

/-- The small plan on some backend. -/
def Sample.loweringOn (backend : Recorder Unit) : Lowering (Recorder Unit) Unit :=
  { Sample.lowering Sample.busyNest with backend }

private theorem Sample.backend_loweringOn (backend : Recorder Unit) :
    (Sample.loweringOn backend).backend = backend :=
  rfl

namespace Lowering

/-- The array that the first pass makes for the scratch storage is none of
those that a second pass resolves. -/
theorem scratch_is_fresh :
    ∃ left array,
      left = (Sample.loweringOn .empty).backendAfter Sample.arguments Sample.bindings ∧
        Resolved Sample.arguments Sample.bindings (Sample.loweringOn .empty) (.array array) ∧
        ¬ Resolved Sample.arguments Sample.bindings (Sample.loweringOn left) (.array array) := by
  have resolved : Resolved Sample.arguments Sample.bindings (Sample.loweringOn .empty)
      (.array ⟨1, .float64, .allocated⟩) := by
    rcases Sample.succeeds with ⟨lowered, after, done⟩
    have entry :
        (match lower Sample.arguments Sample.bindings (Sample.lowering Sample.busyNest) with
          | .ok lowered _ => lowered.identities[Sample.scratch.id]?
          | .error _ _ => none) = some (.array ⟨1, .float64, .allocated⟩) := by decide +kernel
    rw [done] at entry
    exact .identity done entry
  have fits : ((Sample.loweringOn .empty).backendAfter Sample.arguments Sample.bindings).Fits :=
    ⟨by decide +kernel, by decide +kernel⟩
  have fitsAgain : ((Sample.loweringOn ((Sample.loweringOn .empty).backendAfter Sample.arguments
      Sample.bindings)).backendAfter Sample.arguments Sample.bindings).Fits :=
    ⟨by decide +kernel, by decide +kernel⟩
  have fresh := handles_are_fresh (by rw [Sample.backend_loweringOn]; exact .nothing) fits
  have shared := fresh.2.2 (Sample.loweringOn _) Sample.arguments Sample.bindings
    (by rw [Sample.backend_loweringOn]; exact .nothing) fitsAgain _ resolved
  refine ⟨_, _, rfl, resolved, fun resolvedAgain => ?_⟩
  rcases shared resolvedAgain with ⟨value, impossible⟩
  cases impossible

end Lowering

end LoopNest
