import Mathlib.Data.Finset.Card
import LoopNest.Declaration.Bindings
import LoopNest.Proofs.Occurrences

namespace LoopNest

/-!
# What a set of bindings holds

A set of bindings is built by putting numbers into it.  Handles count by their
tokens: copies of one handle carry one token, and so do handles of different
arenas that happen to be issued under the same number.

The set keeps an entry for each token, in the order in which the tokens were
first put.  The entry has the handle that came first for its token and the
number that came last.  The table of positions has the places of these entries
and nothing else, so no place that it gives is beyond the entries.
-/

namespace Bindings

variable {σ : Type}

/-- The set into which these numbers were put, in order. -/
def ofPuts (puts : List (Deferred σ × Int)) : Bindings σ :=
  puts.foldl (fun bindings entry => bindings.put entry.1 entry.2) .empty

/-- The number that was put last for a token. -/
def lastPut? (puts : List (Deferred σ × Int)) (token : Token) : Option Int :=
  (puts.filter fun entry => entry.1.id = token).getLast?.map Prod.snd

/-- The handle for which a number was put first under a token. -/
def firstPut? (puts : List (Deferred σ × Int)) (token : Token) : Option (Deferred σ) :=
  (puts.find? fun entry => entry.1.id = token).map Prod.fst

/-- The tokens of the handles in a list of numbers. -/
def tokensOf (entries : List (Deferred σ × Int)) : List Token :=
  entries.map fun entry => entry.1.id

/-! ## What was put for a token -/

theorem lastPut?_concat (puts : List (Deferred σ × Int)) (parameter : Deferred σ) (number : Int)
    (token : Token) :
    lastPut? (puts ++ [(parameter, number)]) token =
      if parameter.id = token then some number else lastPut? puts token := by
  unfold lastPut?
  by_cases same : parameter.id = token
  · simp [List.filter_append, same]
  · simp [List.filter_append, same]

theorem firstPut?_concat (puts : List (Deferred σ × Int)) (parameter : Deferred σ) (number : Int)
    (token : Token) :
    firstPut? (puts ++ [(parameter, number)]) token =
      (firstPut? puts token).or (if parameter.id = token then some parameter else none) := by
  unfold firstPut?
  rw [List.find?_append, List.find?_singleton]
  by_cases same : parameter.id = token
  · cases puts.find? fun entry => entry.1.id = token <;> simp [same]
  · cases puts.find? fun entry => entry.1.id = token <;> simp [same]

theorem mem_tokensOf_iff {entries : List (Deferred σ × Int)} {token : Token} :
    token ∈ tokensOf entries <-> ∃ entry, entry ∈ entries ∧ entry.1.id = token :=
  List.mem_map

theorem tokensOf_concat (entries : List (Deferred σ × Int)) (parameter : Deferred σ)
    (number : Int) :
    tokensOf (entries ++ [(parameter, number)]) = tokensOf entries ++ [parameter.id] :=
  List.map_append

theorem lastPut?_eq_none_of_notMem {puts : List (Deferred σ × Int)} {token : Token}
    (absent : token ∉ tokensOf puts) : lastPut? puts token = none := by
  have nothing : (puts.filter fun entry => entry.1.id = token) = [] := by
    refine List.filter_eq_nil_iff.mpr fun entry member same => absent ?_
    exact mem_tokensOf_iff.mpr ⟨entry, member, of_decide_eq_true same⟩
  unfold lastPut?
  rw [nothing]
  rfl

theorem firstPut?_eq_none_of_notMem {puts : List (Deferred σ × Int)} {token : Token}
    (absent : token ∉ tokensOf puts) : firstPut? puts token = none := by
  have nothing : (puts.find? fun entry => entry.1.id = token) = none := by
    refine List.find?_eq_none.mpr fun entry member same => absent ?_
    exact mem_tokensOf_iff.mpr ⟨entry, member, of_decide_eq_true same⟩
  unfold firstPut?
  rw [nothing]
  rfl

theorem mem_of_firstPut? {puts : List (Deferred σ × Int)} {token : Token} {handle : Deferred σ}
    (first : firstPut? puts token = some handle) : handle ∈ puts.map Prod.fst := by
  rcases Option.map_eq_some_iff.mp first with ⟨entry, found, rfl⟩
  exact List.mem_map_of_mem (List.mem_of_find?_eq_some found)

/-! ## The table of positions -/

/-- The table has the place of each token and nothing else. -/
def Placed (bindings : Bindings σ) : Prop :=
  forall (token : Token) (place : Nat),
    bindings.positions[token]? = some place <-> (tokensOf bindings.entries)[place]? = some token

section Placed

variable {bindings : Bindings σ} {parameter : Deferred σ} {number : Int}

/-- A token without a place is not in the set. -/
theorem Placed.notMem (placed : Placed bindings) {token : Token}
    (missing : bindings.position? token = none) : token ∉ tokensOf bindings.entries := by
  intro member
  rcases List.mem_iff_getElem?.mp member with ⟨place, found⟩
  have present := (placed token place).mpr found
  rw [position?] at missing
  rw [missing] at present
  cases present

/-- A number is put for a token that is new to the set, or in the place of the
number that the token had. -/
theorem Placed.put_cases (placed : Placed bindings) (parameter : Deferred σ) (number : Int) :
    (parameter.id ∉ tokensOf bindings.entries ∧
        bindings.put parameter number =
          ⟨bindings.entries ++ [(parameter, number)],
            bindings.positions.insert parameter.id bindings.entries.length⟩) ∨
      ∃ before holder old rest,
        bindings.entries = before ++ (holder, old) :: rest ∧ holder.id = parameter.id ∧
          bindings.put parameter number =
            ⟨before ++ (holder, number) :: rest, bindings.positions⟩ := by
  unfold put
  cases lookup : bindings.position? parameter.id with
  | none => exact .inl ⟨placed.notMem lookup, rfl⟩
  | some place =>
      have found := (placed parameter.id place).mp lookup
      rw [tokensOf, List.getElem?_map, Option.map_eq_some_iff] at found
      rcases found with ⟨entry, found, carried⟩
      have within := (List.getElem?_eq_some_iff.mp found).1
      rcases List.exists_of_modify (fun entry => (entry.1, number)) within with
        ⟨before, ⟨holder, old⟩, rest, split, counted, modified⟩
      refine .inr ⟨before, holder, old, rest, split, ?_, ?_⟩
      · rw [split, ← counted, List.getElem?_append_right (Nat.le_refl _), Nat.sub_self,
          List.getElem?_cons_zero, Option.some.injEq] at found
        rw [← carried, ← found]
      · exact congrArg (Bindings.mk · bindings.positions) modified

/-- A new token gets the place after all others. -/
theorem Placed.concat (placed : Placed bindings)
    (fresh : parameter.id ∉ tokensOf bindings.entries) :
    Placed ⟨bindings.entries ++ [(parameter, number)],
      bindings.positions.insert parameter.id bindings.entries.length⟩ := by
  have counted : (tokensOf bindings.entries).length = bindings.entries.length :=
    List.length_map _
  intro token place
  simp only [tokensOf_concat, Std.ExtTreeMap.getElem?_insert, Std.LawfulEqOrd.compare_eq_iff_eq,
    List.getElem?_append, counted]
  by_cases same : parameter.id = token
  · subst same
    rw [if_pos rfl, Option.some.injEq]
    by_cases earlier : place < bindings.entries.length
    · rw [if_pos earlier]
      constructor
      · intro last
        exact absurd last (Nat.ne_of_gt earlier)
      · intro found
        exact absurd (List.mem_of_getElem? found) fresh
    · rw [if_neg earlier, List.getElem?_singleton]
      simp only [Option.ite_none_right_eq_some, and_true]
      omega
  · rw [if_neg same, placed token place]
    by_cases earlier : place < bindings.entries.length
    · rw [if_pos earlier]
    · rw [if_neg earlier, List.getElem?_singleton, List.getElem?_eq_none (by omega)]
      simp [same]

end Placed

/-! ## The entries -/

/-- The entries have the tokens that were put, in the order of their first
occurrences, each with the handle that came first and the number that came
last, and the table of positions leads to them. -/
structure Told (puts : List (Deferred σ × Int)) (bindings : Bindings σ) : Prop where
  order : FirstOccurrences (tokensOf puts) (tokensOf bindings.entries)
  placed : Placed bindings
  first : forall entry, entry ∈ bindings.entries -> firstPut? puts entry.1.id = some entry.1
  number : forall entry, entry ∈ bindings.entries -> lastPut? puts entry.1.id = some entry.2

namespace Told

variable {puts : List (Deferred σ × Int)} {bindings : Bindings σ} {parameter : Deferred σ}
  {number : Int}

/-- The handle of an entry is one of those for which a number was put. -/
theorem handle (told : Told puts bindings) {entry : Deferred σ × Int}
    (member : entry ∈ bindings.entries) : entry.1 ∈ puts.map Prod.fst :=
  mem_of_firstPut? (told.first entry member)

/-- The handle that came first for a token is not replaced by a later one. -/
private theorem first_concat (told : Told puts bindings) {entry : Deferred σ × Int}
    (member : entry ∈ bindings.entries) :
    firstPut? (puts ++ [(parameter, number)]) entry.1.id = some entry.1 := by
  rw [firstPut?_concat, told.first entry member]
  rfl

/-- The number of an entry stays when one is put for another token. -/
private theorem number_concat (told : Told puts bindings) {entry : Deferred σ × Int}
    (member : entry ∈ bindings.entries) (other : entry.1.id ≠ parameter.id) :
    lastPut? (puts ++ [(parameter, number)]) entry.1.id = some entry.2 := by
  rw [lastPut?_concat, if_neg (Ne.symm other)]
  exact told.number entry member

theorem concat (told : Told puts bindings) (fresh : parameter.id ∉ tokensOf bindings.entries) :
    Told (puts ++ [(parameter, number)])
      ⟨bindings.entries ++ [(parameter, number)],
        bindings.positions.insert parameter.id bindings.entries.length⟩ := by
  have notPut : parameter.id ∉ tokensOf puts := fun put =>
    fresh ((told.order.members parameter.id).mpr put)
  refine ⟨?_, told.placed.concat fresh, ?_, ?_⟩
  · rw [tokensOf_concat, tokensOf_concat]
    exact told.order.concat notPut
  · intro entry member
    rcases List.mem_append.mp member with earlier | last
    · exact first_concat told earlier
    · rw [List.mem_singleton.mp last, firstPut?_concat, firstPut?_eq_none_of_notMem notPut,
        if_pos rfl]
      rfl
  · intro entry member
    rcases List.mem_append.mp member with earlier | last
    · refine number_concat told earlier fun same => fresh ?_
      exact mem_tokensOf_iff.mpr ⟨entry, earlier, same⟩
    · rw [List.mem_singleton.mp last, lastPut?_concat, if_pos rfl]

theorem replace (told : Told puts bindings) {before rest : List (Deferred σ × Int)}
    {holder : Deferred σ} {old : Int} (split : bindings.entries = before ++ (holder, old) :: rest)
    (same : holder.id = parameter.id) :
    Told (puts ++ [(parameter, number)])
      ⟨before ++ (holder, number) :: rest, bindings.positions⟩ := by
  -- The entry keeps its handle, so no token changes and the table stays right.
  have tokens : tokensOf (before ++ (holder, number) :: rest) = tokensOf bindings.entries := by
    rw [split, tokensOf, tokensOf, List.map_append, List.map_append, List.map_cons, List.map_cons]
  have members {value : Int} {entry : Deferred σ × Int} :
      entry ∈ before ++ (holder, value) :: rest <->
        entry = (holder, value) ∨ entry ∈ before ++ rest :=
    List.perm_middle.mem_iff.trans List.mem_cons
  have held {entry : Deferred σ × Int} (member : entry = (holder, old) ∨ entry ∈ before ++ rest) :
      entry ∈ bindings.entries := by
    rw [split]
    exact members.mpr member
  have distinct := told.order.nodup
  refine ⟨?_, ?_, ?_, ?_⟩
  · have put : parameter.id ∈ tokensOf puts := by
      rw [← told.order.members]
      exact mem_tokensOf_iff.mpr ⟨_, held (.inl rfl), same⟩
    rw [tokensOf_concat, tokens]
    exact told.order.again put
  · intro token place
    rw [tokens]
    exact told.placed token place
  · intro entry member
    rcases members.mp member with rfl | other
    · exact @first_concat _ _ _ parameter number told (holder, old) (held (.inl rfl))
    · exact first_concat told (held (.inr other))
  · intro entry member
    rcases members.mp member with rfl | other
    · rw [lastPut?_concat, if_pos same.symm]
    · refine number_concat told (held (.inr other)) fun carried => ?_
      rw [split, tokensOf, List.map_append, List.map_cons, List.nodup_middle, List.nodup_cons,
        ← List.map_append] at distinct
      refine distinct.1 ?_
      rw [same, ← carried]
      exact List.mem_map_of_mem other

theorem put (told : Told puts bindings) (parameter : Deferred σ) (number : Int) :
    Told (puts ++ [(parameter, number)]) (bindings.put parameter number) := by
  rcases told.placed.put_cases parameter number with
    ⟨fresh, put_eq⟩ | ⟨before, holder, old, rest, split, same, put_eq⟩
  · rw [put_eq]
    exact told.concat fresh
  · rw [put_eq]
    exact told.replace split same

/-- Whatever was put before, all that is put later is told too. -/
private theorem run {earlier : List (Deferred σ × Int)} {bindings : Bindings σ}
    (told : Told earlier bindings) (later : List (Deferred σ × Int)) :
    Told (earlier ++ later)
      (later.foldl (fun bindings entry => bindings.put entry.1 entry.2) bindings) := by
  induction later generalizing earlier bindings with
  | nil =>
      rw [List.append_nil]
      exact told
  | cons next rest inductionHypothesis =>
      rw [List.append_cons]
      exact inductionHypothesis (told.put next.1 next.2)

private theorem nothing : Told [] (empty : Bindings σ) := by
  refine ⟨.nil, fun token place => ?_, nofun, nofun⟩
  simp [empty, tokensOf]

/-- The number in the set is the one that was put last for the token. -/
theorem get?_eq (told : Told puts bindings) (parameter : Deferred σ) :
    bindings.get? parameter = lastPut? puts parameter.id := by
  unfold get?
  cases lookup : bindings.position? parameter.id with
  | none =>
      have absent := told.placed.notMem lookup
      rw [told.order.members] at absent
      rw [lastPut?_eq_none_of_notMem absent]
      rfl
  | some place =>
      have found := (told.placed parameter.id place).mp lookup
      rw [tokensOf, List.getElem?_map, Option.map_eq_some_iff] at found
      rcases found with ⟨entry, found, carried⟩
      rw [← carried, told.number entry (List.mem_of_getElem? found), Option.bind_some, found]
      rfl

/-- There are as many entries as tokens. -/
theorem length_eq (told : Told puts bindings) :
    bindings.length = (tokensOf puts).toFinset.card := by
  have same : (tokensOf puts).toFinset = (tokensOf bindings.entries).toFinset := by
    ext token
    rw [List.mem_toFinset, List.mem_toFinset, told.order.members]
  rw [same, List.toFinset_card_of_nodup told.order.nodup]
  exact (List.length_map _).symm

end Told

theorem told_ofPuts (puts : List (Deferred σ × Int)) : Told puts (ofPuts puts) :=
  Told.nothing.run puts

/-- Whatever numbers are put for whatever handles, the set is a map from tokens
to the numbers that came last.  Its entries stand in the order in which their
tokens came first, with the handles that came first, and there are as many as
there are tokens.  The table of positions has the place of each token in the set
and of no other, so each place in it is that of an entry. -/
theorem ofPuts_is_ordered_map (puts : List (Deferred σ × Int)) :
    let bindings := ofPuts puts
    (forall parameter, bindings.get? parameter = lastPut? puts parameter.id) ∧
      bindings.length = (tokensOf puts).toFinset.card ∧
      FirstOccurrences (tokensOf puts) (tokensOf bindings.entries) ∧
      (forall entry, entry ∈ bindings.entries ->
        firstPut? puts entry.1.id = some entry.1 ∧ lastPut? puts entry.1.id = some entry.2) ∧
      (forall token place, bindings.position? token = some place <->
        ∃ entry, bindings.entries[place]? = some entry ∧ entry.1.id = token) ∧
      forall token place, bindings.position? token = some place -> place < bindings.length := by
  intro bindings
  have told := told_ofPuts puts
  have leads (token : Token) (place : Nat) : bindings.position? token = some place <->
      ∃ entry, bindings.entries[place]? = some entry ∧ entry.1.id = token := by
    rw [← Option.map_eq_some_iff, ← List.getElem?_map]
    exact told.placed token place
  refine ⟨told.get?_eq, told.length_eq, told.order, ?_, leads, ?_⟩
  · intro entry member
    exact ⟨told.first entry member, told.number entry member⟩
  · intro token place found
    rcases (leads token place).mp found with ⟨entry, present, _⟩
    exact (List.getElem?_eq_some_iff.mp present).1

end Bindings

end LoopNest
