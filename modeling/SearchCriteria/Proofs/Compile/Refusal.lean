/-
# The entry that a compilation fails on

A compilation looks at the entries of a criteria in the order of the walk over its nodes, and
fails on the first one that is refused.  The *trail* of a criteria lists its entries in that
order, each with the field of its node; an entry without a field is refused because of that, any
other if there is no leaf for it.

Main statement: both compilations succeed if no entry of their trail is refused, and otherwise
fail with the error of the first one that is.  What follows that entry has no influence.
-/
import Mathlib.Tactic.SplitIfs
import SearchCriteria.Proofs.Compile.Visits

namespace SearchCriteria

open Outcome

/-! ## Trails -/

/-- An entry together with the field of the node that carries it. -/
structure PlacedEntry where
  /-- The field of the node. -/
  field : Option Field
  /-- The entry. -/
  entry : Entry

/-- The entries of a node in their place. -/
def Node.placed (entries : Node → List Entry) (node : Node) : List PlacedEntry :=
  (entries node).map (⟨node.field, ·⟩)

/-- The entries of the nodes at every depth, in the order of the walk. -/
def Criteria.trail (entries : Node → List Entry) (criteria : Criteria) : List PlacedEntry :=
  criteria.allNodes.flatMap (Node.placed entries)

/-- The error of an entry in its place, if it is refused. -/
def PlacedEntry.refusal (leaf : Field → Entry → Except CriteriaError Query)
    (placed : PlacedEntry) : Option CriteriaError :=
  match placed.field with
  | none => some (.invalidEntry "<none>" placed.entry.operator .noField)
  | some field => error? (leaf field placed.entry)

namespace Pass

variable (pass : Pass) (finish : Clauses Query → Option Query)

/-- The own clause of a node fails on the first of its entries that is refused. -/
lemma error?_ownClause (node : Node) :
    error? (pass.ownClause node) =
      (node.placed pass.entries).findSome? (PlacedEntry.refusal pass.leaf) := by
  rw [ownClause, Node.placed]
  cases pass.entries node with
  | nil => rfl
  | cons first rest =>
    -- Without a field the first entry is refused, whatever it is.
    cases hf : node.field with
    | none =>
      have hname : node.fieldName = "<none>" := by rw [Node.fieldName, hf]
      rw [hname]
      rfl
    | some field =>
      rw [error?_bind_ok, error?_mapM, List.findSome?_map]
      rfl

/-- Criteria attached to a node, given that each of them fails on its trail. -/
lemma error?_compiledAll (cs : List Criteria)
    (ih : ∀ c ∈ cs, error? (pass.compiled finish c) =
      (c.trail pass.entries).findSome? (PlacedEntry.refusal pass.leaf)) :
    error? (pass.compiledAll finish cs) =
      ((Criteria.allNodesIn cs).flatMap (Node.placed pass.entries)).findSome?
        (PlacedEntry.refusal pass.leaf) := by
  induction cs with
  | nil => rw [compiledAll_nil]; rfl
  | cons c cs ihs =>
    obtain ⟨hc, hcs⟩ := List.forall_mem_cons.1 ih
    rw [compiledAll_cons, error?_bind fun first => error?_bind_ok _ (first :: ·), ihs hcs, hc,
      Criteria.allNodesIn_cons, List.flatMap_append, List.findSome?_append, Criteria.trail]

/-- The visits of a chain, given that all criteria attached to its nodes fail on their trails. -/
lemma error?_visits (ns : List Node)
    (ih : ∀ n ∈ ns, ∀ c ∈ n.subCriteria, error? (pass.compiled finish c) =
      (c.trail pass.entries).findSome? (PlacedEntry.refusal pass.leaf)) :
    error? (pass.visits finish ns) =
      ((Criteria.allNodesOf ns).flatMap (Node.placed pass.entries)).findSome?
        (PlacedEntry.refusal pass.leaf) := by
  induction ns with
  | nil => rw [visits_nil]; rfl
  | cons n ns ihs =>
    obtain ⟨hn, hns⟩ := List.forall_mem_cons.1 ih
    rw [visits_cons, error?_bind fun own => error?_bind fun attached =>
        error?_bind_ok _ (n.visits own attached ++ ·),
      error?_ownClause, error?_compiledAll pass finish _ hn, ihs hns, Criteria.allNodesOf_cons,
      List.flatMap_cons, List.flatMap_append, List.findSome?_append, List.findSome?_append]

/-- A compilation fails on the first entry of the trail that is refused, and on nothing else. -/
theorem error?_compiled (c : Criteria) :
    error? (pass.compiled finish c) =
      (c.trail pass.entries).findSome? (PlacedEntry.refusal pass.leaf) := by
  induction c using Criteria.induction with
  | step ns ih =>
    rw [compiled_mk, error?_bind_ok, error?_visits pass finish ns ih, Criteria.trail,
      Criteria.allNodes_mk]

end Pass

/-! ## The errors of leaves -/

/-- A result that fails, if at all, with a complaint about an entry. -/
def ComplainsOnly {α : Type} (field : Field) (entry : Entry) (x : Except CriteriaError α) : Prop :=
  ∀ e, x = .error e → ∃ complaint, e = .invalidEntry field.name entry.operator complaint

namespace ComplainsOnly

variable {α β : Type} {field : Field} {entry : Entry}

lemma ok (a : α) : ComplainsOnly field entry (.ok a) := by
  intro e he
  cases he

lemma refuse (complaint : Complaint) :
    ComplainsOnly field entry (entry.refuse field complaint : Except CriteriaError α) := by
  intro e he
  exact ⟨complaint, (Except.error.inj he).symm⟩

lemma bind {x : Except CriteriaError α} {f : α → Except CriteriaError β}
    (hx : ComplainsOnly field entry x) (hf : ∀ a, ComplainsOnly field entry (f a)) :
    ComplainsOnly field entry (x >>= f) := by
  intro e he
  cases x with
  | error e' =>
    rw [error_bind] at he
    exact hx e (by rw [Except.error.inj he])
  | ok a => exact hf a e he

lemma requiredValue : ComplainsOnly field entry (entry.requiredValue field) := by
  unfold Entry.requiredValue
  split
  · exact ok _
  · exact refuse _

lemma textValue : ComplainsOnly field entry (entry.textValue field) := by
  refine bind requiredValue fun v => ?_
  split
  · exact ok _
  · exact refuse _

lemma scalarValue : ComplainsOnly field entry (entry.scalarValue field) := by
  refine bind requiredValue fun v => ?_
  split
  · exact ok _
  · exact refuse _

lemma itemTexts (vs : List Value) : ComplainsOnly field entry (entry.itemTexts field vs) := by
  induction vs with
  | nil => exact ok _
  | cons v vs ih =>
    unfold Entry.itemTexts
    split
    · exact bind ih fun _ => ok _
    · exact refuse _

lemma escapedLeaf (wrap : String → Query) :
    ComplainsOnly field entry (Compile.escapedLeaf field entry wrap) :=
  bind textValue fun _ => ok _

lemma textLeaf (wrap : String → Query) :
    ComplainsOnly field entry (Compile.textLeaf field entry wrap) :=
  bind textValue fun _ => ok _

lemma boundLeaf (set : RangeLeaf → Value → RangeLeaf) :
    ComplainsOnly field entry (Compile.boundLeaf field entry set) :=
  bind scalarValue fun _ => ok _

lemma rangeLeaf : ComplainsOnly field entry (Compile.rangeLeaf field entry) := by
  refine bind requiredValue fun v => ?_
  split
  · split_ifs
    · exact refuse _
    · exact refuse _
    · exact refuse _
    · exact ok _
  · exact refuse _

lemma valuesLeaf (negated : Bool) :
    ComplainsOnly field entry (Compile.valuesLeaf field entry negated) := by
  refine bind requiredValue fun v => ?_
  split
  · exact refuse _
  · refine bind (itemTexts _) fun texts => ?_
    by_cases h : field.isKeyword
    · rw [if_pos h]
      exact ok _
    · rw [if_neg h]
      exact ok _
  · exact refuse _

lemma presentLeaf : ComplainsOnly field entry (Compile.presentLeaf field entry) := by
  unfold Compile.presentLeaf
  split
  · exact ok _
  · exact ok _
  · exact ok _
  · exact refuse _

lemma pair : ComplainsOnly field entry (Compile.pair field entry) := by
  refine bind requiredValue fun v => ?_
  split
  · exact ok _
  · exact refuse _

lemma complain (x : Except GeoError α) :
    ComplainsOnly field entry (Compile.complain field entry x) := by
  unfold Compile.complain
  split
  · exact ok _
  · exact refuse _

lemma location (v : Value) : ComplainsOnly field entry (Compile.location field entry v) := by
  unfold Compile.location
  split
  · exact complain _
  · exact complain _
  · exact refuse _

lemma distance (v : Value) : ComplainsOnly field entry (Compile.distance field entry v) := by
  unfold Compile.distance
  split
  · split_ifs
    · exact refuse _
    · exact ok _
  · split_ifs
    · exact ok _
    · exact refuse _
  · exact refuse _

end ComplainsOnly

namespace Compile

/-- A query leaf that is refused is complained about, unless the operator is of the filter. -/
lemma complainsOnly_queryLeaf {field : Field} {entry : Entry}
    (h : entry.operator.isFilter = false) : ComplainsOnly field entry (queryLeaf field entry) := by
  unfold queryLeaf
  cases hop : entry.operator with
  | equals => exact .escapedLeaf _
  | contains => exact .escapedLeaf _
  | startsWith => exact .escapedLeaf _
  | endsWith => exact .escapedLeaf _
  | expression => exact .textLeaf _
  | less => exact .boundLeaf _
  | lessEqual => exact .boundLeaf _
  | greater => exact .boundLeaf _
  | greaterEqual => exact .boundLeaf _
  | between => exact .rangeLeaf
  | fuzzy => exact .textLeaf _
  | matchesAny => exact .textLeaf _
  | matchesAll => exact .textLeaf _
  | oneOf => exact .valuesLeaf _
  | noneOf => exact .valuesLeaf _
  | regexp => exact .textLeaf _
  | present => exact .presentLeaf
  | empty => exact .ok _
  | notEmpty => exact .ok _
  | within => simp [hop, Operator.isFilter] at h
  | boundingBox => simp [hop, Operator.isFilter] at h

lemma queryLeaf_of_isFilter {field : Field} {entry : Entry}
    (h : entry.operator.isFilter = true) :
    queryLeaf field entry = .error (.unsupported (.inQuery entry.operator field.name)) := by
  unfold queryLeaf
  cases hop : entry.operator <;> simp [hop, Operator.isFilter] at h <;> rfl

/-- A filter leaf that is refused is complained about, if the operator is of the filter. -/
lemma complainsOnly_filterLeaf {config : Config} {field : Field} {entry : Entry}
    (h : entry.operator.isFilter = true) :
    ComplainsOnly field entry (filterLeaf config field entry) := by
  unfold filterLeaf
  cases hop : entry.operator with
  | within =>
    refine .bind .pair fun items => ?_
    refine .bind (.location _) fun center => ?_
    exact .bind (.distance _) fun radius => .ok _
  | boundingBox =>
    refine .bind .pair fun items => ?_
    refine .bind (.location _) fun topLeft => ?_
    refine .bind (.location _) fun bottomRight => ?_
    exact .bind (.complain _) fun box => .ok _
  | _ => simp [hop, Operator.isFilter] at h

lemma filterLeaf_of_not_isFilter {config : Config} {field : Field} {entry : Entry}
    (h : entry.operator.isFilter = false) :
    filterLeaf config field entry =
      .error (.unsupported (.inFilter entry.operator field.name)) := by
  unfold filterLeaf
  cases hop : entry.operator <;> simp [hop, Operator.isFilter] at h <;> rfl

end Compile

/-! ## Failing fast -/

/-- What it means that a compilation fails on the first entry that is refused and on nothing
else.  The compilation looks at the given entries of a node and makes leaves of them; operators
that are `foreign` belong to the other compilation. -/
structure FailsFast (entries : Node → List Entry)
    (leaf : Field → Entry → Except CriteriaError Query) (foreign : Operator → Bool)
    (compile : Criteria → Except CriteriaError (Option Query)) : Prop where
  /-- It succeeds if every node with entries has a field, and all entries have leaves. -/
  ok_iff : ∀ c, (∃ r, compile c = .ok r) ↔
    ∀ n ∈ c.allNodes, entries n ≠ [] →
      ∃ field, n.field = some field ∧ ∀ entry ∈ entries n, ∃ q, leaf field entry = .ok q
  /-- Otherwise it fails with the error of the first entry that is refused. -/
  error_iff : ∀ c e, compile c = .error e ↔
    ∃ before placed after, c.trail entries = before ++ placed :: after ∧
      (∀ p ∈ before, p.refusal leaf = none) ∧ placed.refusal leaf = some e
  /-- What follows that entry is of no importance. -/
  error_eq_of_trail : ∀ c c' before placed after after',
    c.trail entries = before ++ placed :: after →
      c'.trail entries = before ++ placed :: after' →
        placed.refusal leaf ≠ none → compile c = compile c'
  /-- An entry without a field is refused because of that. -/
  refusal_of_no_field : ∀ entry, PlacedEntry.refusal leaf ⟨none, entry⟩ =
    some (.invalidEntry "<none>" entry.operator .noField)
  /-- Any other entry is refused if there is no leaf, with the error of the leaf. -/
  refusal_of_field : ∀ field entry e, PlacedEntry.refusal leaf ⟨some field, entry⟩ = some e ↔
    leaf field entry = .error e
  /-- Leaves complain about the entry, except that foreign operators are unsupported. -/
  leaf_error : ∀ field entry e, leaf field entry = .error e →
    (∃ complaint, e = .invalidEntry field.name entry.operator complaint) ∧
        foreign entry.operator = false ∨
      (∃ cause, e = .unsupported cause) ∧ foreign entry.operator = true
  /-- Entries with foreign operators are always refused. -/
  leaf_foreign : ∀ field entry, foreign entry.operator = true →
    ∃ cause, leaf field entry = .error (.unsupported cause)
  /-- No other kind of error arises. -/
  not_geo : ∀ c cause, compile c ≠ .error (.geo cause)

namespace Criteria

variable {leaf : Field → Entry → Except CriteriaError Query} {entries : Node → List Entry}

lemma mem_trail_iff {c : Criteria} {placed : PlacedEntry} :
    placed ∈ c.trail entries ↔
      ∃ n ∈ c.allNodes, placed.field = n.field ∧ placed.entry ∈ entries n := by
  rw [trail, List.mem_flatMap]
  constructor
  · rintro ⟨n, hn, hp⟩
    rw [Node.placed, List.mem_map] at hp
    obtain ⟨entry, he, rfl⟩ := hp
    exact ⟨n, hn, rfl, he⟩
  · rintro ⟨n, hn, hf, he⟩
    refine ⟨n, hn, ?_⟩
    rw [Node.placed, List.mem_map]
    exact ⟨placed.entry, he, by rw [← hf]⟩

/-- No entry of the trail is refused if every node with entries has a field and a leaf for each of
them. -/
lemma trail_accepted_iff {c : Criteria} :
    (∀ placed ∈ c.trail entries, placed.refusal leaf = none) ↔
      ∀ n ∈ c.allNodes, entries n ≠ [] →
        ∃ field, n.field = some field ∧ ∀ entry ∈ entries n, ∃ q, leaf field entry = .ok q := by
  constructor
  · intro h n hn hne
    obtain ⟨first, hfirst⟩ := List.exists_mem_of_ne_nil _ hne
    have accepted : ∀ entry ∈ entries n, PlacedEntry.refusal leaf ⟨n.field, entry⟩ = none :=
      fun entry he => h _ (mem_trail_iff.2 ⟨n, hn, rfl, he⟩)
    cases hf : n.field with
    | none =>
      have hnone := accepted first hfirst
      rw [hf] at hnone
      cases hnone
    | some field =>
      refine ⟨field, rfl, fun entry he => ?_⟩
      have hnone := accepted entry he
      rw [hf] at hnone
      exact error?_eq_none_iff.1 hnone
  · rintro h ⟨field, entry⟩ hp
    obtain ⟨n, hn, hf, he⟩ := mem_trail_iff.1 hp
    obtain ⟨f, hsome, hleaf⟩ := h n hn (List.ne_nil_of_mem he)
    simp only at hf he
    rw [hf, hsome]
    exact error?_eq_none_iff.2 (hleaf entry he)

end Criteria

/-- A pass succeeds if every node with entries has a field and a leaf for each of them. -/
lemma Pass.exists_ok_iff (pass : Pass) (c : Criteria) :
    (∃ r, (Compile.run pass c).result = .ok r) ↔
      ∀ n ∈ c.allNodes, pass.entries n ≠ [] →
        ∃ field, n.field = some field ∧
          ∀ entry ∈ pass.entries n, ∃ q, pass.leaf field entry = .ok q := by
  rw [← Criteria.trail_accepted_iff, Compile.result_run, ← error?_eq_none_iff,
    Pass.error?_compiled, List.findSome?_eq_none_iff]

/-- In a compilation that succeeds, a node with entries has a field, and each entry has a leaf. -/
lemma Pass.exists_leaves {pass : Pass} {c : Criteria} {r : Option Query}
    (h : (Compile.run pass c).result = .ok r) {n : Node} (hn : n ∈ c.allNodes)
    (hentries : pass.entries n ≠ []) : ∃ field leaves, n.field = some field ∧
      (pass.entries n).mapM (pass.leaf field) = .ok leaves := by
  obtain ⟨field, hfield, hleaf⟩ := (pass.exists_ok_iff c).1 ⟨r, h⟩ n hn hentries
  obtain ⟨leaves, hleaves⟩ := exists_mapM_eq_ok hleaf
  exact ⟨field, leaves, hfield, hleaves⟩

/-- Every pass fails fast whose leaves complain about entries and leave foreign operators to the
other compilation. -/
lemma Pass.failsFast (pass : Pass) {foreign : Operator → Bool}
    (hleaf : ∀ field entry, foreign entry.operator = false →
      ComplainsOnly field entry (pass.leaf field entry))
    (hforeign : ∀ field entry, foreign entry.operator = true →
      ∃ cause, pass.leaf field entry = .error (.unsupported cause)) :
    FailsFast pass.entries pass.leaf foreign fun c => (Compile.run pass c).result := by
  have herror : ∀ c e, (Compile.run pass c).result = .error e ↔
      (c.trail pass.entries).findSome? (PlacedEntry.refusal pass.leaf) = some e := by
    intro c e
    rw [Compile.result_run, ← Pass.error?_compiled pass Clauses.collapse, error?_eq_some_iff]
  have hkind : ∀ field entry e, pass.leaf field entry = .error e →
      (∃ complaint, e = .invalidEntry field.name entry.operator complaint) ∧
          foreign entry.operator = false ∨
        (∃ cause, e = .unsupported cause) ∧ foreign entry.operator = true := by
    intro field entry e he
    cases h : foreign entry.operator with
    | false => exact .inl ⟨hleaf field entry h e he, rfl⟩
    | true =>
      obtain ⟨cause, hcause⟩ := hforeign field entry h
      rw [hcause] at he
      exact .inr ⟨⟨cause, (Except.error.inj he).symm⟩, rfl⟩
  constructor
  case ok_iff => exact pass.exists_ok_iff
  case error_iff =>
    intro c e
    rw [herror, List.findSome?_eq_some_iff]
    constructor
    · rintro ⟨before, placed, after, htrail, hsome, hnone⟩
      exact ⟨before, placed, after, htrail, hnone, hsome⟩
    · rintro ⟨before, placed, after, htrail, hnone, hsome⟩
      exact ⟨before, placed, after, htrail, hsome, hnone⟩
  case error_eq_of_trail =>
    intro c c' before placed after after' hc hc' hplaced
    obtain ⟨e, he⟩ := Option.ne_none_iff_exists'.1 hplaced
    -- The first refused entry lies in front of the two remainders or is `placed` itself.
    have hfirst : ∃ e, ∀ rest,
        (before ++ placed :: rest).findSome? (PlacedEntry.refusal pass.leaf) = some e := by
      cases hbefore : before.findSome? (PlacedEntry.refusal pass.leaf) with
      | none => exact ⟨e, fun rest => by rw [List.findSome?_append, hbefore]; simp [he]⟩
      | some e' => exact ⟨e', fun rest => by rw [List.findSome?_append, hbefore]; rfl⟩
    obtain ⟨e', he'⟩ := hfirst
    rw [(herror c e').2 (by rw [hc, he']), (herror c' e').2 (by rw [hc', he'])]
  case refusal_of_no_field => exact fun _ => rfl
  case refusal_of_field => exact fun field entry e => error?_eq_some_iff
  case leaf_error => exact hkind
  case leaf_foreign => exact hforeign
  case not_geo =>
    intro c cause hgeo
    obtain ⟨⟨field, entry⟩, -, hsome⟩ := List.exists_of_findSome?_eq_some ((herror c _).1 hgeo)
    cases field with
    | none => cases hsome
    | some field =>
      have he := error?_eq_some_iff.1 hsome
      rcases hkind field entry _ he with ⟨⟨complaint, h⟩, -⟩ | ⟨⟨cause', h⟩, -⟩
      · cases h
      · cases h

/-- Both compilations fail fast: the one for the query on query entries, to which the operators of
the filter are foreign, and the one for the filter on filter entries, to which all others are.
Compiled together, the query comes first. -/
theorem Criteria.compile_failsFast (config : Config) :
    FailsFast (·.queryEntries) Compile.queryLeaf Operator.isFilter
        (fun c => (c.compileQuery config).result) ∧
      FailsFast (·.filterEntries) (Compile.filterLeaf config) (fun o => !o.isFilter)
        (fun c => (c.compileFilter config).result) ∧
      (∀ (c : Criteria) (e : CriteriaError), c.compile config = .error e ↔
        (c.compileQuery config).result = .error e ∨
          (∃ q, (c.compileQuery config).result = .ok q) ∧
            (c.compileFilter config).result = .error e) ∧
      Complaint.noField.message = "entries require a field" := by
  refine ⟨?_, ?_, ?_, rfl⟩
  · exact (Pass.query config).failsFast (fun _ _ h => Compile.complainsOnly_queryLeaf h)
      fun _ _ h => ⟨_, Compile.queryLeaf_of_isFilter h⟩
  · refine (Pass.filter config).failsFast (fun _ _ h => ?_) fun _ _ h => ?_
    · exact Compile.complainsOnly_filterLeaf (by simpa using h)
    · exact ⟨_, Compile.filterLeaf_of_not_isFilter (by simpa using h)⟩
  · intro c e
    unfold compile
    cases (c.compileQuery config).result with
    | error e' => simp
    | ok q =>
      cases (c.compileFilter config).result with
      | error e' => simp
      | ok f => simp

end SearchCriteria
