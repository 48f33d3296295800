import LoopNest.Plan.Lowering
import LoopNest.Native.Recorder
import LoopNest.Proofs.Outcome
import LoopNest.Proofs.Native.Recorder
import LoopNest.Proofs.Native.Growth
import LoopNest.Proofs.Native.Renumbering
import LoopNest.Proofs.Native.Agreement
import LoopNest.Proofs.Declaration.Answers
import LoopNest.Proofs.Identity.Issuance
import LoopNest.Proofs.Nest.Extents
import LoopNest.Proofs.Plan.Stages
import LoopNest.Proofs.Plan.Course
import LoopNest.Proofs.Plan.Freshness
import LoopNest.Proofs.Plan.Failure
import LoopNest.Proofs.Pass.Basic
import LoopNest.Proofs.Pass.Seeding
import LoopNest.Proofs.Nest.Space
import LoopNest.Proofs.Pass.Completion
import LoopNest.Proofs.Pass.Resolution
import LoopNest.Proofs.Pass.Steps
import LoopNest.Proofs.Pass.Agreement
import LoopNest.Proofs.Nest.Steps
import LoopNest.Proofs.Nest.Agreement
import LoopNest.Proofs.Pass.Provenance
import LoopNest.Proofs.Pass.Contexts
import LoopNest.Proofs.Nest.Kernels
import LoopNest.Proofs.Plan.Run
import LoopNest.Proofs.Plan.Identities
import LoopNest.Proofs.Nest.Replay
import LoopNest.Proofs.Plan.Success
import LoopNest.Proofs.Nest.Scopes
import LoopNest.Proofs.Plan.Scopes
import LoopNest.Proofs.Plan.Repetition
import LoopNest.Proofs.Pass.Making
import LoopNest.Proofs.Pass.Reordering
import LoopNest.Proofs.Pass.Failure
import LoopNest.Proofs.Plan.Opening
import LoopNest.Proofs.Nest.Registration
import LoopNest.Proofs.Plan.Registration
import LoopNest.Proofs.Pass.Indifference
import LoopNest.Proofs.Nest.Strictness
import LoopNest.Proofs.Plan.Strictness
import LoopNest.Proofs.Nest.Making
import LoopNest.Proofs.Plan.Making
import LoopNest.Proofs.Nest.Declaration
import LoopNest.Proofs.Plan.Views
import LoopNest.Proofs.Nest.Retries
import LoopNest.Proofs.Pass.Composition
import LoopNest.Proofs.Pass.Causes
import LoopNest.Proofs.Plan.Causes
import LoopNest.Proofs.Pass.PassingThrough
import LoopNest.Proofs.Plan.Frozen
import LoopNest.Proofs.Declaration.Slots
import LoopNest.Proofs.Declaration.Parameters
import LoopNest.Proofs.Plan.Slots
import LoopNest.Proofs.Plan.Extents
import LoopNest.Proofs.Plan.Structure
import LoopNest.Proofs.Plan.IndexMap
import LoopNest.Proofs.Declaration.Evaluations
import LoopNest.Proofs.Pass.Evaluations
import LoopNest.Proofs.Nest.Evaluations
import LoopNest.Proofs.Plan.Evaluations
import LoopNest.Proofs.Data.ElementCount
import LoopNest.Proofs.Native.Calls
import LoopNest.Proofs.Native.Logs
import LoopNest.Proofs.Pass.Sequences
import LoopNest.Proofs.Pass.Repetition
import LoopNest.Proofs.First
import LoopNest.Proofs.Plan.ExtentReplay
import LoopNest.Proofs.Pass.Supplying
import LoopNest.Proofs.Nest.Building
import LoopNest.Proofs.Nest.Arguments
import LoopNest.Proofs.Nest.Roles
import LoopNest.Proofs.Occurrences
import LoopNest.Proofs.Declaration.Bindings
import LoopNest.Proofs.Declaration.Application
import LoopNest.Proofs.Declaration.Mapping
import LoopNest.Proofs.Native.KernelLog
import LoopNest.Proofs.Pass.Entries
import LoopNest.Proofs.Nest.Indices
import LoopNest.Proofs.Plan.Indices
import LoopNest.Proofs.Declaration.Mentions
import LoopNest.Proofs.Logic.Building
import LoopNest.Proofs.Identity.Constructions
