import LoopNest.Proofs.Nest.Building

namespace LoopNest

/-!
# Arguments that are refused

The arguments are recorded before the space is requested.  The two lists are
compared first, and then the arguments are taken in order.  The first one that
does not fit what the caller supplies ends building.  What was recorded for those
before it stays in the context and in the backend, and no space is requested.
-/

namespace Nest

variable {σ : Type} {nest : Nest σ}

section Arguments

variable {numbers : List Int} (fixed : nest.extents = .ok numbers) {pass : Pass (Recorder σ) σ}
  (equal : pass.arguments.captures.length = pass.arguments.runtime.length)
  (accepted : BackendOperation.wrapArgument ∉ pass.backend.rejected)
include fixed equal accepted

/-- The first argument that does not fit is the error, and those before it are
recorded. -/
theorem buildSpace_of_first {position : Nat} {pair : Capture σ × RuntimeArgument}
    {fault : ArgumentFault}
    (first : FirstAt Arguments.Mismatched pass.arguments.pairs position pair)
    (misfit : pair.1.Misfit pair.2 fault) :
    nest.buildSpace pass =
      .error (.argumentMismatch position fault)
        (pass.supplied (pass.arguments.pairs.take position)) := by
  have stopped := Pass.seedFrom_of_first accepted first misfit 0
  rw [Nat.zero_add] at stopped
  exact buildSpace_of_unseeded fixed ((Pass.seedArguments_of_length_eq equal).trans stopped)

/-- If all arguments fit, they are recorded, and the backend decides. -/
theorem buildSpace_of_takes
    (takes : forall pair, pair ∈ pass.arguments.pairs -> pair.1.Takes pair.2) :
    nest.buildSpace pass =
      match Recorder.createSpace numbers (pass.supplied pass.arguments.pairs).backend with
      | .ok _ _ => .ok () ((pass.supplied pass.arguments.pairs).inSpace nest.ownIndices numbers)
      | .error fault _ => .error (.backend fault) (pass.supplied pass.arguments.pairs) :=
  buildSpace_of_seeded fixed
    ((Pass.seedArguments_of_length_eq equal).trans (Pass.seedFrom_of_takes accepted takes 0))

end Arguments

/-- Arguments are recorded before the space is requested, if the extents of the
nest are numbers and the backend wraps buffers.  Lists of different lengths are
refused before anything is recorded.  The first argument that does not fit is the
error, and those before it are recorded; if all of them fit, all are recorded,
and then the backend decides about the space. -/
theorem arguments_until_misfit {numbers : List Int} (fixed : nest.extents = .ok numbers)
    (pass : Pass (Recorder σ) σ)
    (accepted : BackendOperation.wrapArgument ∉ pass.backend.rejected) :
    let captures := pass.arguments.captures
    let runtime := pass.arguments.runtime
    let pairs := captures.zip runtime
    (captures.length ≠ runtime.length ->
      nest.buildSpace pass =
        .error (.argumentMismatch (min captures.length runtime.length)
          (.counts captures.length runtime.length)) pass) ∧
    (captures.length = runtime.length ->
      (forall position pair, FirstAt Arguments.Mismatched pairs position pair ->
        ∃ fault seeded, pair.1.Misfit pair.2 fault ∧
          pass.Supplies (pairs.take position) seeded ∧
          nest.buildSpace pass = .error (.argumentMismatch position fault) seeded) ∧
      ((forall pair, pair ∈ pairs -> ¬ Arguments.Mismatched pair) ->
        ∃ seeded, pass.Supplies pairs seeded ∧
          nest.buildSpace pass =
            match Recorder.createSpace numbers seeded.backend with
            | .ok _ _ => .ok () (seeded.inSpace nest.ownIndices numbers)
            | .error fault _ => .error (.backend fault) seeded)) := by
  intro captures runtime pairs
  refine ⟨?_, fun equal => ⟨?_, ?_⟩⟩
  · intro different
    exact buildSpace_of_unseeded fixed (Pass.seedArguments_of_length_ne different)
  · intro position pair first
    rcases first.here with ⟨fault, misfit⟩
    exact ⟨fault, _, misfit, Pass.supplies_supplied (Arguments.takes_of_fitting first.earlier),
      buildSpace_of_first fixed equal accepted first misfit⟩
  · intro fitting
    have takes := Arguments.takes_of_fitting fitting
    exact ⟨_, Pass.supplies_supplied takes, buildSpace_of_takes fixed equal accepted takes⟩

end Nest

namespace Sample

/-- The fourth argument is a sequence. -/
def faulty : Arguments Unit :=
  ⟨[.array series, .index inner, .index inner, .sequence [], .array series],
    [.buffer 0, .scalar (.int 7), .scalar (.int 8), .buffer 1, .buffer 2]⟩

/-- The first three arguments fit. -/
theorem faulty_first :
    FirstAt Arguments.Mismatched faulty.pairs 3 (.sequence [], .buffer 1) where
  found := rfl
  here := ⟨_, .sequence [] (.buffer 1)⟩
  earlier := by
    have takes : forall pair, pair ∈ faulty.pairs.take 3 -> pair.1.Takes pair.2 := by
      change forall pair : Capture Unit × RuntimeArgument, pair ∈
        [(.array series, .buffer 0), (.index inner, .scalar (.int 7)),
          (.index inner, .scalar (.int 8))] -> pair.1.Takes pair.2
      rw [List.forall_mem_cons, List.forall_mem_cons, List.forall_mem_singleton]
      exact ⟨trivial, trivial, trivial⟩
    intro pair member mismatched
    exact (Capture.not_takes_iff _ _).mpr mismatched (takes pair member)

end Sample

namespace Nest

/-- The sequence is the error.  One array was wrapped before it, and the loop
index has the later of its two values. -/
theorem arguments_until_sequence :
    ∃ seeded, Sample.plane.buildSpace (Sample.freshContext Sample.faulty) =
        .error (.argumentMismatch 3 .sequence) seeded ∧
      seeded.backend.arrays = [(Sample.series.wrappedAs 0, Sample.series.layout)] ∧
      seeded.identities[Sample.inner.id]? = some (.scalar (.int 8)) := by
  have fixed : Sample.plane.extents = .ok [3, 2] := rfl
  rcases (arguments_until_misfit fixed (Sample.freshContext Sample.faulty) (by decide)).2 rfl with
    ⟨refused, _⟩
  rcases refused 3 _ Sample.faulty_first with ⟨fault, seeded, misfit, supplies, failed⟩
  cases misfit with
  | single identity _ _ => cases identity
  | sequence elements runtime =>
      have split : Sample.faulty.pairs.take 3 =
          [(.array Sample.series, .buffer 0), (.index Sample.inner, .scalar (.int 7))] ++
            [(.index Sample.inner, .scalar (.int 8))] := rfl
      exact ⟨seeded, failed, congrArg Recorder.arrays supplies.backend,
        supplies.last split rfl nofun⟩

end Nest

end LoopNest
