import LoopNest.Proofs.Pass.Reordering
import LoopNest.Proofs.Pass.Strictness

namespace LoopNest

/-!
# What takes the place of a sequence

A captured sequence is replaced by the entries that its elements have.  Of an
element only the token is looked at, and its kind where it has to be named: no
array is made for an element, no number is resolved, and what is inside of a
nested sequence is never asked for.  A nested sequence has no token, so it is
always an element without an entry.

This holds on any backend, since none of its operations is used.
-/

namespace Pass

section Elements

variable {β σ : Type} {pass : Pass β σ} {elements : List (Capture σ)}

/-- The element at this position is the first that has no entry. -/
structure FirstUnmapped (pass : Pass β σ) (elements : List (Capture σ)) (position : Nat)
    (element : Capture σ) : Prop where
  found : elements[position]? = some element
  missing : pass.lookup? element = none
  mapped : forall other, other ∈ elements.take position -> ∃ value, pass.lookup? other = some value

/-- Elements that all have entries are not missed. -/
theorem unmapped_of_mapped
    (mapped : forall element, element ∈ elements -> ∃ value, pass.lookup? element = some value)
    (start : Nat) : pass.unmapped start elements = [] := by
  induction elements generalizing start with
  | nil => rfl
  | cons element rest inductionHypothesis =>
      rw [List.forall_mem_cons] at mapped
      rcases mapped.1 with ⟨value, found⟩
      rw [unmapped_cons_of_mapped found]
      exact inductionHypothesis mapped.2 (start + 1)

/-- The first element without an entry leads those that are missed. -/
theorem FirstUnmapped.unmapped {position : Nat} {element : Capture σ}
    (first : pass.FirstUnmapped elements position element) (start : Nat) :
    ∃ rest, pass.unmapped start elements = (element, start + position) :: rest := by
  induction elements generalizing start position with
  | nil => cases first.found
  | cons head tail inductionHypothesis =>
      cases position with
      | zero =>
          have same : head = element := Option.some.inj first.found
          subst same
          exact ⟨_, unmapped_cons_of_missing first.missing start tail⟩
      | succ position =>
          have mapped := first.mapped
          rw [List.take_succ_cons, List.forall_mem_cons] at mapped
          rcases mapped.1 with ⟨value, found⟩
          have later : pass.FirstUnmapped tail position element :=
            ⟨first.found, first.missing, mapped.2⟩
          rcases inductionHypothesis later (start + 1) with ⟨rest, listed⟩
          rw [unmapped_cons_of_mapped found, listed, Nat.add_right_comm, Nat.add_assoc]
          exact ⟨rest, rfl⟩

/-- Either every element has an entry or there is a first one that has none. -/
theorem mapped_or_firstUnmapped (pass : Pass β σ) (elements : List (Capture σ)) :
    (forall element, element ∈ elements -> ∃ value, pass.lookup? element = some value) ∨
      ∃ position element, pass.FirstUnmapped elements position element := by
  induction elements with
  | nil => exact .inl nofun
  | cons head tail inductionHypothesis =>
      cases entry : pass.lookup? head with
      | none => exact .inr ⟨0, head, rfl, entry, nofun⟩
      | some value =>
          rcases inductionHypothesis with mapped | ⟨position, element, first⟩
          · exact .inl (List.forall_mem_cons.mpr ⟨⟨value, entry⟩, mapped⟩)
          · refine .inr ⟨position + 1, element, first.found, first.missing, ?_⟩
            rw [List.take_succ_cons, List.forall_mem_cons]
            exact ⟨⟨value, entry⟩, first.mapped⟩

/-- Elements with equal tokens and kinds have equal entries. -/
theorem mappedFrom_congr (pass : Pass β σ) {others : List (Capture σ)}
    (alike : elements.map (fun element => (element.identity?, element.kindName)) =
      others.map fun element => (element.identity?, element.kindName)) (position : Nat) :
    pass.mappedFrom position elements = pass.mappedFrom position others := by
  induction elements generalizing others position with
  | nil =>
      cases others with
      | nil => rfl
      | cons other rest => cases alike
  | cons element tail inductionHypothesis =>
      cases others with
      | nil => cases alike
      | cons other rest =>
          simp only [List.map_cons, List.cons.injEq, Prod.mk.injEq] at alike
          rcases alike with ⟨⟨token, kind⟩, later⟩
          have entry : pass.lookup? element = pass.lookup? other := by
            unfold lookup?
            rw [token]
          rw [mappedFrom, mappedFrom, entry, kind, inductionHypothesis later]

end Elements

section Outcomes

variable {β σ : Type}

/-- What the entries of the elements make of the pass. -/
def listed (failure : CaptureFault -> NestError) (elements : List (Capture σ)) (pass : Pass β σ) :
    EStateM.Result NestError (Pass β σ) (Option Replacement) :=
  match pass.mappedFrom 0 elements with
  | .ok values => .ok (some (.sequence values)) pass
  | .error fault => .error (failure fault) pass

theorem resolveElements_bind (failure : CaptureFault -> NestError) (elements : List (Capture σ))
    (pass : Pass β σ) :
    (resolveElements failure elements >>= fun replacement => pure (some replacement)) pass =
      listed failure elements pass := by
  have resolved := resolveElements_apply failure elements pass
  unfold listed
  cases entries : pass.mappedFrom 0 elements with
  | ok values =>
      rw [entries] at resolved
      exact Outcome.bind_of_ok resolved _
  | error fault =>
      rw [entries] at resolved
      exact Outcome.bind_of_error resolved _

/-- A pass that is not strict lists the entries that there are. -/
theorem listed_of_lenient {pass : Pass β σ} (lenient : pass.options.strictSequences = false)
    (failure : CaptureFault -> NestError) (elements : List (Capture σ)) :
    listed failure elements pass =
      .ok (some (.sequence (elements.filterMap pass.lookup?))) pass := by
  unfold listed
  rw [mappedFrom_of_lenient lenient]

/-- A strict pass does so too if no entry is missing. -/
theorem listed_of_mapped {pass : Pass β σ} (strict : pass.options.strictSequences = true)
    (failure : CaptureFault -> NestError) {elements : List (Capture σ)}
    (mapped : forall element, element ∈ elements -> ∃ value, pass.lookup? element = some value) :
    listed failure elements pass =
      .ok (some (.sequence (elements.filterMap pass.lookup?))) pass := by
  unfold listed
  rw [mappedFrom_of_strict strict, unmapped_of_mapped mapped]

/-- Otherwise it fails at the first element without an entry. -/
theorem listed_of_firstUnmapped {pass : Pass β σ} (strict : pass.options.strictSequences = true)
    (failure : CaptureFault -> NestError) {elements : List (Capture σ)} {position : Nat}
    {element : Capture σ} (first : pass.FirstUnmapped elements position element) :
    listed failure elements pass = .error (failure (.unmapped position element.kindName)) pass := by
  rcases first.unmapped 0 with ⟨rest, missed⟩
  rw [Nat.zero_add] at missed
  unfold listed
  rw [mappedFrom_of_strict strict, missed]

variable [Backend σ β] {capture : Capture σ}
  {produce : EStateM String (Store σ) (List (Capture σ))}

/-- A sequence is produced, and its elements are listed. -/
theorem resolveCapture_of_sequence (sequence : capture.elements? = some produce)
    (failure : CaptureFault -> NestError) (pass : Pass β σ) :
    resolveCapture failure capture pass =
      match produce pass.store with
      | .ok elements store => listed failure elements { pass with store }
      | .error reason store => .error (failure (.production reason)) { pass with store } := by
  have missing := lookup?_of_elements (Option.isSome_of_eq_some sequence) pass
  rw [resolveCapture_of_unmapped failure missing]
  cases capture with
  | sequence elements =>
      cases sequence
      exact resolveElements_bind failure elements pass
  | lazy produce =>
      cases sequence
      cases outcome : produce pass.store with
      | ok elements store =>
          have produced := (onStore_eq_ok_iff (fun reason => failure (.production reason)) produce
            pass _ _).mpr ⟨store, outcome, rfl⟩
          exact (Outcome.bind_of_ok produced _).trans (resolveElements_bind failure elements _)
      | error reason store =>
          have failed := (onStore_eq_error_iff (fun reason => failure (.production reason)) produce
            pass _ _).mpr ⟨reason, store, outcome, rfl, rfl⟩
          exact Outcome.bind_of_error failed _
  | deferred value => cases sequence
  | index loop => cases sequence
  | array handle => cases sequence
  | scalar value => cases sequence

/-- What takes the place of a captured sequence.  If it cannot be produced, that
is the failure.  If it can, a pass that is not strict takes the entries that the
elements have, in order, and a strict one takes them if there is one for each and
fails at the first element without one otherwise.  Only the store may differ
afterwards, by what producing the elements does.  Nested sequences have no
entries, and of an element only its token and its kind matter. -/
theorem sequence_takes_entries (sequence : capture.elements? = some produce) (logic name : String)
    (pass : Pass β σ) :
    (forall reason store, produce pass.store = .error reason store ->
      resolveCapture (.captureResolution logic name) capture pass =
        .error (.captureResolution logic name (.production reason)) { pass with store }) ∧
    (forall elements store, produce pass.store = .ok elements store ->
      (pass.options.strictSequences = false ->
        resolveCapture (.captureResolution logic name) capture pass =
          .ok (some (.sequence (elements.filterMap pass.lookup?))) { pass with store }) ∧
      (pass.options.strictSequences = true ->
        ((forall element, element ∈ elements -> ∃ value, pass.lookup? element = some value) ->
          resolveCapture (.captureResolution logic name) capture pass =
            .ok (some (.sequence (elements.filterMap pass.lookup?))) { pass with store }) ∧
        (forall position element, pass.FirstUnmapped elements position element ->
          resolveCapture (.captureResolution logic name) capture pass =
            .error (.captureResolution logic name (.unmapped position element.kindName))
              { pass with store }) ∧
        ((forall element, element ∈ elements -> ∃ value, pass.lookup? element = some value) ∨
          ∃ position element, pass.FirstUnmapped elements position element)) ∧
      (forall element, element ∈ elements -> element.elements?.isSome ->
        pass.lookup? element = none) ∧
      (forall other others, other.elements? = some (pure others) ->
        others.map (fun element => (element.identity?, element.kindName)) =
            elements.map (fun element => (element.identity?, element.kindName)) ->
          resolveCapture (.captureResolution logic name) other { pass with store } =
            resolveCapture (.captureResolution logic name) capture pass)) := by
  refine ⟨fun reason store failed => ?_, fun elements store produced => ?_⟩
  · rw [resolveCapture_of_sequence sequence, failed]
  · have resolved : resolveCapture (.captureResolution logic name) capture pass =
        listed (.captureResolution logic name) elements { pass with store } := by
      rw [resolveCapture_of_sequence sequence, produced]
    refine ⟨fun lenient => ?_, fun strict => ⟨fun mapped => ?_, fun position element first => ?_,
      mapped_or_firstUnmapped pass elements⟩, fun element _ nested => ?_, ?_⟩
    · have still : ({ pass with store } : Pass β σ).options.strictSequences = false := lenient
      exact resolved.trans (listed_of_lenient still _ elements)
    · have still : ({ pass with store } : Pass β σ).options.strictSequences = true := strict
      exact resolved.trans (listed_of_mapped still _ mapped)
    · have still : ({ pass with store } : Pass β σ).options.strictSequences = true := strict
      have same : ({ pass with store } : Pass β σ).FirstUnmapped elements position element :=
        ⟨first.found, first.missing, first.mapped⟩
      exact resolved.trans (listed_of_firstUnmapped still _ same)
    · exact lookup?_of_elements nested pass
    · intro other others known alike
      have listing : resolveCapture (.captureResolution logic name) other { pass with store } =
          listed (.captureResolution logic name) others { pass with store } :=
        resolveCapture_of_sequence known _ _
      rw [resolved, listing]
      unfold listed
      rw [mappedFrom_congr _ alike]

end Outcomes

end Pass

namespace Sample

/-- An array with an entry, twice, and between them a sequence of just this
array; at the end an array without an entry that a pass could make. -/
def nested : List (Capture Unit) :=
  [.array pool, .sequence [.array pool], .array pool, .array weights]

/-- A pass that knows the first of the two arrays. -/
def poolKnown (options : PassOptions) : Pass (Recorder Unit) Unit :=
  { begun with
    identities := (∅ : IdentityMap).insert pool.id (.array ⟨5, .float64, .allocated⟩)
    options }

end Sample

namespace Pass

/-- The nested sequence stops a strict pass.  Another one takes the entry of the
array twice, and makes no array for the one without. -/
theorem nested_sequence_takes_entries :
    resolveCapture (.captureResolution "kernel" "all") (.sequence Sample.nested)
        (Sample.poolKnown .lenient) =
      .ok (some (.sequence [.array ⟨5, .float64, .allocated⟩, .array ⟨5, .float64, .allocated⟩]))
        (Sample.poolKnown .lenient) ∧
    resolveCapture (.captureResolution "kernel" "all") (.sequence Sample.nested)
        (Sample.poolKnown .strict) =
      .error (.captureResolution "kernel" "all" (.unmapped 1 "sequence"))
        (Sample.poolKnown .strict) := by
  have sequence : (Capture.sequence Sample.nested).elements? = some (pure Sample.nested) := rfl
  have known (options : PassOptions) :
      (Sample.poolKnown options).lookup? (.array Sample.pool) =
        some (.array ⟨5, .float64, .allocated⟩) :=
    Std.ExtTreeMap.getElem?_insert_self
  have unknown (options : PassOptions) :
      (Sample.poolKnown options).lookup? (.array Sample.weights) = none := by
    refine (IdentityMap.getElem?_insert_of_ne (by decide) _ _).trans ?_
    exact Std.ExtTreeMap.getElem?_empty
  constructor
  · have taken := (sequence_takes_entries sequence "kernel" "all" (Sample.poolKnown .lenient)).2
    have replaced := (taken Sample.nested _ rfl).1 rfl
    have entries : Sample.nested.filterMap (Sample.poolKnown .lenient).lookup? =
        [.array ⟨5, .float64, .allocated⟩, .array ⟨5, .float64, .allocated⟩] := by
      have inner : (Sample.poolKnown .lenient).lookup? (.sequence [.array Sample.pool]) = none :=
        rfl
      simp only [Sample.nested, List.filterMap_cons, List.filterMap_nil, known, unknown, inner]
    rw [entries] at replaced
    exact replaced
  · have taken := (sequence_takes_entries sequence "kernel" "all" (Sample.poolKnown .strict)).2
    have stops := ((taken Sample.nested _ rfl).2.1 rfl).2.1
    refine stops 1 (.sequence [.array Sample.pool]) ⟨rfl, rfl, ?_⟩
    intro other member
    cases List.mem_singleton.mp member
    exact ⟨_, known .strict⟩

end Pass

end LoopNest
