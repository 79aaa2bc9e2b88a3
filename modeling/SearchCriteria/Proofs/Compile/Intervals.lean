/-
# Intervals

An interval has a lower and an upper end, either of which may belong to it or not, or be missing.
It becomes one entry that asks for a range or two, and an entry that a node already has is not added
again.

* `holds_intervalEntries`: the ranges of an interval hold at the places between its ends;
* `Query.IsInterval`: a query says that a field lies in an interval;
* `Node.Narrows`: what becomes of a node with an interval added.

Main statement: an interval alone compiles to a query for it, and added to a node it narrows the
node.
-/
import SearchCriteria.Proofs.Compile.Grouping
import SearchCriteria.Proofs.Compile.Ranges
import SearchCriteria.Proofs.Criteria.Built
import SearchCriteria.Proofs.Query.Parts

namespace SearchCriteria

open Criteria Outcome

universe u

/-! ## The entries of an interval -/

namespace Criteria

/-- The entries of an interval. -/
def intervalEntries (lower upper : Bound) : List Entry :=
  (Call.betweenBounds lower upper).queryEntries

variable {lower upper : Bound}

lemma intervalEntries_of_excluded (h : (lower.isExcluded || upper.isExcluded) = true) :
    intervalEntries lower upper = lower.lowerEntries ++ upper.upperEntries :=
  if_pos h

lemma intervalEntries_of_not_excluded (h : ¬(lower.isExcluded || upper.isExcluded) = true) :
    intervalEntries lower upper = [.of .between (.list [lower.value, upper.value])] :=
  if_neg h

namespace Bound

lemma AtScalar.endsRange {b : Bound} (h : b.AtScalar) : b.value.EndsRange := by
  cases b with
  | included v => exact .inr h
  | excluded v => exact .inr h
  | unbounded => exact .inl rfl

lemma AtScalar.value_eq_null_iff {b : Bound} (h : b.AtScalar) :
    b.value = .null ↔ b = .unbounded := by
  cases b with
  | unbounded => exact iff_of_true rfl rfl
  | included v | excluded v =>
    refine iff_of_false (fun hnull => ?_) nofun
    obtain rfl : v = .null := hnull
    cases h

/-- The entry of an end asks for a range, and has a scalar. -/
lemma AtScalar.endEntries_admits {b : Bound} (h : b.AtScalar) {entry : Entry}
    (hentry : entry ∈ b.lowerEntries ∨ entry ∈ b.upperEntries) :
    entry.operator.isRange = true ∧ entry.operator.valueShape.Admits entry.value := by
  cases b with
  | unbounded => obtain hentry | hentry := hentry <;> cases hentry
  | included v | excluded v =>
    obtain hentry | hentry := hentry
    · obtain rfl := List.mem_singleton.1 hentry
      exact ⟨rfl, .scalar h⟩
    · obtain rfl := List.mem_singleton.1 hentry
      exact ⟨rfl, .scalar h⟩

section Order

variable {α : Type u} [Preorder α] (place : Value → α) (x : α)

lemma AtScalar.holds_lowerEntries {b : Bound} (h : b.AtScalar) (name : String) :
    (∀ entry ∈ b.lowerEntries, (entry.range name).Holds place x) ↔ b.IsLowerOf place x := by
  cases b with
  | unbounded => simp [lowerEntries, IsLowerOf]
  | included v | excluded v =>
    simp [lowerEntries, IsLowerOf, Entry.range, Entry.of, RangeLeaf.Holds, RangeLeaf.withGt,
      RangeLeaf.withGte, RangeLeaf.unbounded, RangeLeaf.bound_of_scalar h]

lemma AtScalar.holds_upperEntries {b : Bound} (h : b.AtScalar) (name : String) :
    (∀ entry ∈ b.upperEntries, (entry.range name).Holds place x) ↔ b.IsUpperOf place x := by
  cases b with
  | unbounded => simp [upperEntries, IsUpperOf]
  | included v | excluded v =>
    simp [upperEntries, IsUpperOf, Entry.range, Entry.of, RangeLeaf.Holds, RangeLeaf.withLt,
      RangeLeaf.withLte, RangeLeaf.unbounded, RangeLeaf.bound_of_scalar h]

end Order

end Bound

/-- The entries of an interval ask for ranges, and have values in the shape that their operators
want. -/
lemma intervalEntries_admits (hlower : lower.AtScalar) (hupper : upper.AtScalar)
    (hbounded : ¬(lower = .unbounded ∧ upper = .unbounded)) {entry : Entry}
    (hentry : entry ∈ intervalEntries lower upper) :
    entry.operator.isRange = true ∧ entry.operator.valueShape.Admits entry.value := by
  by_cases hexcluded : (lower.isExcluded || upper.isExcluded) = true
  · rw [intervalEntries_of_excluded hexcluded, List.mem_append] at hentry
    exact hentry.elim (fun h => hlower.endEntries_admits (.inl h))
      fun h => hupper.endEntries_admits (.inr h)
  · rw [intervalEntries_of_not_excluded hexcluded, List.mem_singleton] at hentry
    rw [← hlower.value_eq_null_iff, ← hupper.value_eq_null_iff] at hbounded
    obtain rfl := hentry
    exact ⟨rfl, .range hlower.endsRange hupper.endsRange hbounded⟩

lemma intervalEntries_ne_nil (lower upper : Bound) : intervalEntries lower upper ≠ [] := by
  cases lower <;> cases upper <;> exact List.cons_ne_nil _ _

lemma firstOf_nil_intervalEntries (lower upper : Bound) :
    Entry.firstOf [] (intervalEntries lower upper) = intervalEntries lower upper := by
  cases lower <;> cases upper <;> rfl

/-- The ranges of an interval hold at the places between its ends. -/
lemma holds_intervalEntries (hlower : lower.AtScalar) (hupper : upper.AtScalar) (name : String)
    {α : Type u} [Preorder α] (place : Value → α) (x : α) :
    (∀ entry ∈ intervalEntries lower upper, (entry.range name).Holds place x) ↔
      lower.IsLowerOf place x ∧ upper.IsUpperOf place x := by
  by_cases hexcluded : (lower.isExcluded || upper.isExcluded) = true
  · rw [intervalEntries_of_excluded hexcluded, List.forall_mem_append,
      hlower.holds_lowerEntries, hupper.holds_upperEntries]
  · rw [intervalEntries_of_not_excluded hexcluded, List.forall_mem_singleton]
    -- The ends are included or missing, and each sets its own bound of the range.
    have hlowerBound : (∀ a ∈ (RangeLeaf.bound lower.value).map place, a ≤ x) ↔
        lower.IsLowerOf place x := by
      cases lower with
      | included v => simp [Bound.value, Bound.IsLowerOf, RangeLeaf.bound_of_scalar hlower]
      | excluded v => exact absurd rfl hexcluded
      | unbounded => simp [Bound.value, Bound.IsLowerOf, RangeLeaf.bound, Value.isNull]
    have hupperBound : (∀ a ∈ (RangeLeaf.bound upper.value).map place, x ≤ a) ↔
        upper.IsUpperOf place x := by
      cases upper with
      | included v => simp [Bound.value, Bound.IsUpperOf, RangeLeaf.bound_of_scalar hupper]
      | excluded v => exact absurd (Bool.or_true _) hexcluded
      | unbounded => simp [Bound.value, Bound.IsUpperOf, RangeLeaf.bound, Value.isNull]
    rw [← hlowerBound, ← hupperBound]
    simp [RangeLeaf.Holds, Entry.range, Entry.of, RangeLeaf.withGte, RangeLeaf.withLte,
      RangeLeaf.unbounded, and_comm]

/-- The clause of each entry of an interval is the range that it asks for. -/
lemma queryLeaf_intervalEntries (hlower : lower.AtScalar) (hupper : upper.AtScalar)
    (hbounded : ¬(lower = .unbounded ∧ upper = .unbounded)) (field : Field) {entry : Entry}
    (hentry : entry ∈ intervalEntries lower upper) :
    Compile.queryLeaf field entry = .ok (.leaf (.range (entry.range field.name))) := by
  obtain ⟨hrange, hadmits⟩ := intervalEntries_admits hlower hupper hbounded hentry
  obtain ⟨q, hq⟩ := (Compile.exists_queryLeaf_iff_admits field entry).2 hadmits
  rw [hq, Compile.queryLeaf_eq_range hrange hq]

end Criteria

/-! ## An interval alone -/

/-- One range says it all, unless both ends are there and one of them is excluded. -/
def Criteria.TakesOneRange (lower upper : Bound) : Prop :=
  (lower.isExcluded = false ∧ upper.isExcluded = false) ∨ lower = .unbounded ∨ upper = .unbounded

/-- A query says that a field lies in an interval. -/
structure Query.IsInterval (name : String) (lower upper : Bound) (wrap : Query → Query)
    (q : Query) : Prop where
  /-- The query is one range. -/
  one : TakesOneRange lower upper → ∃ r, q = wrap (.leaf (.range r))
  /-- Or it is two ranges that have to match, one for each end and the lower one first. -/
  two : ¬TakesOneRange lower upper → ∃ r r',
    q = wrap (.bool { must := [.leaf (.range r), .leaf (.range r')] } none) ∧
      ∀ (α : Type u) [Preorder α] (place : Value → α) (x : α),
        (r.Holds place x ↔ lower.IsLowerOf place x) ∧ (r'.Holds place x ↔ upper.IsUpperOf place x)
  /-- All ranges are about the field. -/
  field : ∀ r, .leaf (.range r) ∈ q.parts → r.field = name
  /-- Wherever the values have their places in an order, all ranges hold at the places between the
  ends. -/
  holds : ∀ (α : Type u) [Preorder α] (place : Value → α) (x : α),
    (∀ r, .leaf (.range r) ∈ q.parts → r.Holds place x) ↔
      lower.IsLowerOf place x ∧ upper.IsUpperOf place x

lemma Query.leaf_mem_parts_join {ls : List Leaf} (h : ls ≠ []) {l : Leaf} :
    leaf l ∈ (Pass.join (ls.map leaf)).parts ↔ l ∈ ls := by
  match ls, h with
  | [l'], _ => simp [Pass.join]
  | l' :: l'' :: rest, _ => simp [Pass.join, Clauses.toList]

lemma Reading.leaf_mem_parts_under {mode : ScoreMode} {path : Option String} {q : Query}
    {l : Leaf} : .leaf l ∈ (under mode path q).parts ↔ .leaf l ∈ q.parts := by
  cases path <;> simp [under]

namespace Criteria

variable {lower upper : Bound}

/-- Two ends of which one is excluded have an entry each. -/
lemma intervalEntries_of_not_takesOneRange (h : ¬TakesOneRange lower upper) :
    ∃ entry entry', lower.lowerEntries = [entry] ∧ upper.upperEntries = [entry'] ∧
      intervalEntries lower upper = [entry, entry'] := by
  match lower, upper, h with
  | .unbounded, _, h => exact absurd (.inr (.inl rfl)) h
  | _, .unbounded, h => exact absurd (.inr (.inr rfl)) h
  | .included _, .included _, h => exact absurd (.inl ⟨rfl, rfl⟩) h
  | .included _, .excluded _, _ => exact ⟨_, _, rfl, rfl, rfl⟩
  | .excluded _, .included _, _ => exact ⟨_, _, rfl, rfl, rfl⟩
  | .excluded _, .excluded _, _ => exact ⟨_, _, rfl, rfl, rfl⟩

lemma intervalEntries_of_takesOneRange (h : TakesOneRange lower upper)
    (hbounded : ¬(lower = .unbounded ∧ upper = .unbounded)) :
    ∃ entry, intervalEntries lower upper = [entry] := by
  obtain ⟨hlower, hupper⟩ | rfl | rfl := h
  · exact ⟨_, intervalEntries_of_not_excluded (by simp [hlower, hupper])⟩
  · cases upper <;> exact ⟨_, rfl⟩
  · cases lower <;> exact ⟨_, rfl⟩

/-- The ranges of an interval, joined, say that the field lies in the interval. -/
lemma isInterval_join (hlower : lower.AtScalar) (hupper : upper.AtScalar)
    (hbounded : ¬(lower = .unbounded ∧ upper = .unbounded)) (name : String) (mode : ScoreMode)
    (path : Option String) :
    Query.IsInterval.{u} name lower upper (Reading.under mode path)
      (Reading.under mode path (Pass.join
        ((intervalEntries lower upper).map fun entry => .leaf (.range (entry.range name))))) := by
  have hparts : ∀ r, Query.leaf (.range r) ∈ (Reading.under mode path (Pass.join
      ((intervalEntries lower upper).map fun entry => .leaf (.range (entry.range name))))).parts ↔
        ∃ entry ∈ intervalEntries lower upper, entry.range name = r := by
    intro r
    have hleaves : (intervalEntries lower upper).map (fun entry =>
        Query.leaf (.range (entry.range name))) =
          ((intervalEntries lower upper).map fun entry =>
            Leaf.range (entry.range name)).map .leaf := by
      rw [List.map_map]
      rfl
    rw [Reading.leaf_mem_parts_under, hleaves, Query.leaf_mem_parts_join
      (mt List.map_eq_nil_iff.1 (intervalEntries_ne_nil lower upper)), List.mem_map]
    simp only [Leaf.range.injEq]
  constructor
  case one =>
    intro h
    obtain ⟨entry, hentry⟩ := intervalEntries_of_takesOneRange h hbounded
    rw [hentry]
    exact ⟨_, rfl⟩
  case two =>
    intro h
    obtain ⟨entry, entry', hentry, hentry', hboth⟩ := intervalEntries_of_not_takesOneRange h
    rw [hboth]
    refine ⟨_, _, rfl, fun α _ place x => ?_⟩
    rw [← hlower.holds_lowerEntries place x name, ← hupper.holds_upperEntries place x name, hentry,
      hentry', List.forall_mem_singleton, List.forall_mem_singleton]
    exact ⟨Iff.rfl, Iff.rfl⟩
  case field =>
    intro r hr
    obtain ⟨entry, -, rfl⟩ := (hparts r).1 hr
    exact Entry.field_range name entry
  case holds =>
    intro α _ place x
    rw [← holds_intervalEntries hlower hupper name place x]
    constructor
    · exact fun h entry hentry => h _ ((hparts _).2 ⟨entry, hentry, rfl⟩)
    · intro h r hr
      obtain ⟨entry, hentry, rfl⟩ := (hparts r).1 hr
      exact h entry hentry

/-- An interval alone compiles to its ranges, joined and under the path of the field. -/
lemma compileQuery_betweenBounds (hlower : lower.AtScalar) (hupper : upper.AtScalar)
    (hbounded : ¬(lower = .unbounded ∧ upper = .unbounded)) (config : Config) (field : Field) :
    (((on field).betweenBounds lower upper).compileQuery config).result =
      .ok (some (Reading.under config.nestedScoreMode field.path (Pass.join
        ((intervalEntries lower upper).map fun entry =>
          .leaf (.range (entry.range field.name)))))) := by
  let n := addAll (intervalEntries lower upper) (.bare (some field) .and)
  have hc : (on field).betweenBounds lower upper = ⟨[n]⟩ := betweenBounds_eq_update _ _ _
  have hentries : n.queryEntries = intervalEntries lower upper := by
    rw [← firstOf_nil_intervalEntries lower upper, ← List.nil_append (Entry.firstOf _ _),
      ← foldl_addEntry]
    rfl
  have hleaves : n.queryEntries.mapM (Compile.queryLeaf field) =
      .ok ((intervalEntries lower upper).map fun entry =>
        .leaf (.range (entry.range field.name))) := by
    rw [hentries]
    exact mapM_eq_ok_map fun entry => queryLeaf_intervalEntries hlower hupper hbounded field
  have hne : n.queryEntries ≠ [] := by
    rw [hentries]
    exact intervalEntries_ne_nil lower upper
  rw [hc, compileQuery, Compile.result_run,
    Pass.compiled_lone (Pass.query_readsNodes config) rfl rfl]
  exact Pass.ownClause_of_leaves (.query config) rfl hne hleaves

end Criteria

/-! ## An interval on a node -/

/-- What becomes of a node when an interval of its field is added. -/
structure Node.Narrows (config : Config) (field : Field) (lower upper : Bound) (n n' : Node) :
    Prop where
  /-- Nothing is new but entries of the interval, behind those that were there; what is not new of
  them is equal to an entry of the node. -/
  entries : ∃ added, n' = { n with queryEntries := n.queryEntries ++ added } ∧
    (∀ entry ∈ added, entry ∈ intervalEntries lower upper) ∧
    ∀ entry ∈ intervalEntries lower upper,
      entry ∈ added ∨ ∃ other ∈ n'.queryEntries, (entry == other) = true
  /-- The own clause fails if it did before, and with the same error. -/
  error : error? ((Pass.query config).ownClause n') = error? ((Pass.query config).ownClause n)
  /-- If it does not fail, the leaves that were there are joined with ranges of the field.  The
  documents that match them together are those that matched the leaves and whose values are in the
  interval, wherever equal values have the same place in an order. -/
  clause : ∀ leaves, n.queryEntries.mapM (Compile.queryLeaf field) = .ok leaves →
    ∃ ranges : List RangeLeaf, (∀ r ∈ ranges, r.field = field.name) ∧
      (Pass.query config).ownClause n' = .ok (some (Reading.under config.nestedScoreMode field.path
        (Reading.boosted n.boost (Pass.join (leaves ++ ranges.map fun r => .leaf (.range r)))))) ∧
      ∀ (α : Type u) [Preorder α] (place : Value → α), RespectsEquality place →
        ∀ (D : Type) (I : Interpretation D) (valueOf : D → α),
          I.ReadsRanges field.name place valueOf →
          ∀ d, (Pass.join (leaves ++ ranges.map fun r => .leaf (.range r))).Matches I d ↔
            (∀ q ∈ leaves, q.Matches I d) ∧
              lower.IsLowerOf place (valueOf d) ∧ upper.IsUpperOf place (valueOf d)

namespace Criteria

variable {lower upper : Bound} (hlower : lower.AtScalar) (hupper : upper.AtScalar)
  (hbounded : ¬(lower = .unbounded ∧ upper = .unbounded))

include hlower hupper hbounded

/-- The leaves of an interval are met exactly within it, next to whatever entries a node has.  An
entry that is equal to one of the interval's asks for the same places. -/
lemma matches_foldl_intervalEntries {α : Type u} [Preorder α] {place : Value → α}
    (hplace : RespectsEquality place) {D : Type} {I : Interpretation D} {valueOf : D → α}
    {field : Field} (hI : I.ReadsRanges field.name place valueOf) (kept : List Entry) (d : D) :
    (∀ entry ∈ (intervalEntries lower upper).foldl addEntry kept,
        ∃ q, Compile.queryLeaf field entry = .ok q ∧ q.Matches I d) ↔
      (∀ entry ∈ kept, ∃ q, Compile.queryLeaf field entry = .ok q ∧ q.Matches I d) ∧
        lower.IsLowerOf place (valueOf d) ∧ upper.IsUpperOf place (valueOf d) := by
  have hrange : ∀ entry : Entry, (Query.leaf (.range (entry.range field.name))).Matches I d ↔
      (entry.range field.name).Holds place (valueOf d) := by
    intro entry
    rw [Query.matches_leaf]
    exact hI _ d (Entry.field_range field.name entry)
  have hentry : ∀ entry ∈ intervalEntries lower upper,
      (∃ q, Compile.queryLeaf field entry = .ok q ∧ q.Matches I d) ↔
        (entry.range field.name).Holds place (valueOf d) := by
    intro entry hmem
    rw [queryLeaf_intervalEntries hlower hupper hbounded field hmem, ← hrange]
    simp only [Except.ok.injEq, exists_eq_left']
  rw [forall_mem_foldl_addEntry, ← holds_intervalEntries hlower hupper field.name place (valueOf d)]
  · exact and_congr_right fun _ => forall₂_congr hentry
  · rintro entry hmem other hbeq ⟨q, hq, hmatches⟩
    have hop : other.operator.isRange = true := by
      rw [← (Entry.beq_iff.1 hbeq).1]
      exact (intervalEntries_admits hlower hupper hbounded hmem).1
    rw [Compile.queryLeaf_eq_range hop hq, hrange] at hmatches
    exact (hentry entry hmem).2 ((Entry.holds_range_congr hplace hbeq field.name _).2 hmatches)

omit hlower hupper hbounded in
lemma queryEntries_addAll (lower upper : Bound) (n : Node) :
    (addAll (intervalEntries lower upper) n).queryEntries =
      n.queryEntries ++ Entry.firstOf n.queryEntries (intervalEntries lower upper) :=
  foldl_addEntry _ _

/-- No entry that an interval adds to a node is refused. -/
lemma findSome?_placed_addAll {n : Node} {field : Field} (hfield : n.field = some field) :
    ((addAll (intervalEntries lower upper) n).placed (·.queryEntries)).findSome?
        (PlacedEntry.refusal Compile.queryLeaf) =
      (n.placed (·.queryEntries)).findSome? (PlacedEntry.refusal Compile.queryLeaf) := by
  have hadded : ((Entry.firstOf n.queryEntries (intervalEntries lower upper)).map
      (⟨n.field, ·⟩ : Entry → PlacedEntry)).findSome? (PlacedEntry.refusal Compile.queryLeaf) =
        none := by
    rw [List.findSome?_eq_none_iff]
    rintro _ hplaced
    obtain ⟨entry, hentry, rfl⟩ := List.mem_map.1 hplaced
    rw [PlacedEntry.refusal, hfield]
    exact error?_eq_none_iff.2 ⟨_, queryLeaf_intervalEntries hlower hupper hbounded field
      (Entry.mem_of_mem_firstOf hentry)⟩
  have hsame : (addAll (intervalEntries lower upper) n).field = n.field := rfl
  rw [Node.placed, Node.placed, hsame, queryEntries_addAll, List.map_append, List.findSome?_append,
    hadded, Option.or_none]

omit hlower hupper hbounded in
/-- An interval has entries, so the node has some, be they new or not. -/
lemma queryEntries_addAll_ne_nil (lower upper : Bound) (n : Node) :
    (addAll (intervalEntries lower upper) n).queryEntries ≠ [] := by
  rw [queryEntries_addAll]
  intro hnil
  obtain ⟨hkept, hadded⟩ := List.append_eq_nil_iff.1 hnil
  rw [hkept, firstOf_nil_intervalEntries] at hadded
  exact intervalEntries_ne_nil lower upper hadded

/-- The leaves of a node with an interval added are those that were there and the new ranges. -/
lemma mapM_queryLeaf_addAll {n : Node} {field : Field} {leaves : List Query}
    (hleaves : n.queryEntries.mapM (Compile.queryLeaf field) = .ok leaves) :
    (addAll (intervalEntries lower upper) n).queryEntries.mapM (Compile.queryLeaf field) =
      .ok (leaves ++ ((Entry.firstOf n.queryEntries (intervalEntries lower upper)).map
        (Entry.range field.name)).map fun r => .leaf (.range r)) := by
  rw [queryEntries_addAll, List.map_map]
  exact mapM_append_eq_ok hleaves (mapM_eq_ok_map fun entry hentry =>
    queryLeaf_intervalEntries hlower hupper hbounded field (Entry.mem_of_mem_firstOf hentry))

/-- An interval narrows the node to which it is added. -/
lemma narrows_addAll (config : Config) {n : Node} {field : Field} (hfield : n.field = some field) :
    Node.Narrows.{u} config field lower upper n (addAll (intervalEntries lower upper) n) := by
  have hentries := queryEntries_addAll lower upper n
  have hne := queryEntries_addAll_ne_nil lower upper n
  constructor
  case entries =>
    refine ⟨_, by rw [← hentries]; rfl, fun _ => Entry.mem_of_mem_firstOf, fun _ h => ?_⟩
    rw [hentries]
    exact Entry.mem_firstOf_or_beq h
  case error =>
    rw [Pass.error?_ownClause, Pass.error?_ownClause]
    exact findSome?_placed_addAll hlower hupper hbounded hfield
  case clause =>
    intro leaves hleaves
    have hall := mapM_queryLeaf_addAll hlower hupper hbounded hleaves
    refine ⟨_, ?_, Pass.ownClause_of_leaves (.query config) hfield hne hall, ?_⟩
    · intro r hr
      obtain ⟨entry, -, rfl⟩ := List.mem_map.1 hr
      exact Entry.field_range field.name entry
    · intro α _ place hplace D I valueOf hI d
      rw [Clauses.matches_join I (ne_nil_of_mapM hall hne), forall_mem_of_mapM hall,
        forall_mem_of_mapM hleaves]
      exact matches_foldl_intervalEntries hlower hupper hbounded hplace hI n.queryEntries d

/-- Adding an interval to the last node of criteria makes them fail in no new way, and mends
nothing. -/
lemma error?_compileQuery_update (config : Config) (ns : List Node) {n : Node} {field : Field}
    (hfield : n.field = some field) :
    error? (compileQuery config ⟨ns ++ [addAll (intervalEntries lower upper) n]⟩).result =
      error? (compileQuery config ⟨ns ++ [n]⟩).result := by
  have hplaced := findSome?_placed_addAll hlower hupper hbounded hfield
  have hsubs : (addAll (intervalEntries lower upper) n).subCriteria = n.subCriteria := rfl
  rw [compileQuery, compileQuery, Compile.result_run, Compile.result_run, Pass.error?_compiled,
    Pass.error?_compiled, trail, trail, allNodes_mk, allNodes_mk, allNodesOf_append,
    allNodesOf_append, allNodesOf_cons, allNodesOf_cons, hsubs]
  simp only [List.flatMap_append, List.flatMap_cons, List.findSome?_append]
  rw [show (Pass.query config).entries = (·.queryEntries) from rfl,
    show (Pass.query config).leaf = Compile.queryLeaf from rfl, hplaced]

omit hlower hupper hbounded

/-- Between two ends at scalars, not both missing, lies an interval, and this is what it compiles
to: a range, or two ranges that have to match if both ends are there and one of them is excluded.
Under every order of the values, these hold exactly within the interval.  On a node with other
entries, the interval comes to them as a further condition: nothing else changes, neither on the
node nor in what the compilation fails on. -/
theorem betweenBounds_interval (config : Config) (field : Field) (lower upper : Bound)
    (hlower : lower.AtScalar) (hupper : upper.AtScalar)
    (hbounded : ¬(lower = .unbounded ∧ upper = .unbounded)) :
    (∃ q, (((on field).betweenBounds lower upper).compileQuery config).result = .ok (some q) ∧
      Query.IsInterval.{u} field.name lower upper
        (Reading.under config.nestedScoreMode field.path) q) ∧
    ∀ (c : Criteria) (n : Node), c.chain.getLast? = some n → n.field = some field →
      error? ((c.betweenBounds lower upper).compileQuery config).result =
        error? (c.compileQuery config).result ∧
      ∃ n', c.betweenBounds lower upper = ⟨c.chain.dropLast ++ [n']⟩ ∧
        Node.Narrows.{u} config field lower upper n n' := by
  refine ⟨⟨_, compileQuery_betweenBounds hlower hupper hbounded config field,
    isInterval_join hlower hupper hbounded field.name config.nestedScoreMode field.path⟩, ?_⟩
  rintro ⟨chain⟩ n hlast hfield
  obtain ⟨ns, rfl⟩ := List.getLast?_eq_some_iff.1 hlast
  have hc : betweenBounds ⟨ns ++ [n]⟩ lower upper =
      ⟨ns ++ [addAll (intervalEntries lower upper) n]⟩ := by
    rw [betweenBounds_eq_update, update, updateLast_concat]
    rfl
  refine ⟨?_, _, ?_, narrows_addAll hlower hupper hbounded config hfield⟩
  · rw [hc]
    exact error?_compileQuery_update hlower hupper hbounded config ns hfield
  · rw [hc, List.dropLast_concat]

/-- The place of an integer that is not negative; other values have none of their own. -/
def placeOfNatural : Value → Nat
  | .integer n => n.toInt.toNat
  | _ => 0

lemma respectsEquality_placeOfNatural : RespectsEquality placeOfNatural := by
  intro v w h
  cases v with
  | integer a =>
    cases w with
    | integer b => rw [eq_of_beq (show (a == b) = true from h)]
    | _ => cases h
  | _ => cases w <;> first | rfl | cases h

/-- Natural numbers as documents, which match the ranges that they are in and no other leaf
clause. -/
def naturalsInRanges : Interpretation Nat where
  leaf l d := ∃ r, l = .range r ∧ r.Holds placeOfNatural d
  nested _ p := p

/-- More than 1 and at most 5 are two ranges, which hold at 2 to 5.  Where a document has to be more
than 1 already, the upper end alone is new. -/
theorem betweenBounds_halfOpen :
    let price : Field := .named "price"
    let lower : Bound := .excluded (.integer 1)
    let upper : Bound := .included (.integer 5)
    let above : Criteria := (on price).compare .greater (.integer 1)
    lower.AtScalar ∧ upper.AtScalar ∧
      (∃ q, (((on price).betweenBounds lower upper).compileQuery {}).result = .ok (some q) ∧
        (∃ r r', q = .bool { must := [.leaf (.range r), .leaf (.range r')] } none) ∧
        ∀ x : Nat, (∀ r, .leaf (.range r) ∈ q.parts → r.Holds placeOfNatural x) ↔ 1 < x ∧ x ≤ 5) ∧
      ∃ n q, above.betweenBounds lower upper = ⟨[n]⟩ ∧
        n.queryEntries = [.of .greater (.integer 1), .of .lessEqual (.integer 5)] ∧
        (Pass.query {}).ownClause n = .ok (some q) ∧
        ∀ d : Nat, q.Matches naturalsInRanges d ↔
          (Query.leaf (.range ((RangeLeaf.unbounded "price").withGt (.integer 1)))).Matches
            naturalsInRanges d ∧ 1 < d ∧ d ≤ 5 := by
  intro price lower upper above
  have hlower : lower.AtScalar := .integer 1
  have hupper : upper.AtScalar := .integer 5
  obtain ⟨⟨q, hq, hinterval⟩, hnode⟩ :=
    betweenBounds_interval {} price lower upper hlower hupper nofun
  have htwo : ¬TakesOneRange lower upper := by
    simp [TakesOneRange, lower, upper, Bound.isExcluded]
  obtain ⟨r, r', hranges, -⟩ := hinterval.two htwo
  refine ⟨hlower, hupper, ⟨q, hq, ⟨r, r', hranges⟩, hinterval.holds Nat placeOfNatural⟩, ?_⟩
  obtain ⟨-, n, hn, hnarrows⟩ := hnode above _ rfl rfl
  have hreads : naturalsInRanges.ReadsRanges "price" placeOfNatural id := by
    intro r d _
    simp [naturalsInRanges]
  let first : Query := .leaf (.range ((RangeLeaf.unbounded "price").withGt (.integer 1)))
  obtain ⟨ranges, -, hown, hmatches⟩ := hnarrows.clause [first] rfl
  refine ⟨n, _, hn, ?_, hown, fun d => ?_⟩
  · obtain ⟨rfl⟩ := hn
    rfl
  · have h := hmatches Nat placeOfNatural respectsEquality_placeOfNatural Nat naturalsInRanges id
      hreads d
    rw [List.forall_mem_singleton] at h
    exact h

end Criteria

end SearchCriteria
