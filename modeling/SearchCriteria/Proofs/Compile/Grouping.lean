/-
# Groups

A group is a node without a field that holds other criteria.  What it holds is compiled on its own,
and goes where the node says.  So there are several ways to write the same criteria.

* `compiled_group`: a group alone is what it holds;
* `rel_visits_attach`: criteria attached to the last node are visited as a group behind it that has
  the conjunction and the negation of this node;
* `compiled_append_group_lone`: a lone node in a group is visited as the node itself, once a clause
  has been held back;
* `compile_grouping`: the laws for both compilations.
-/
import SearchCriteria.Proofs.Compile.Projection

namespace SearchCriteria

open Outcome

lemma Clauses.collapse_push_lone {o : Occur} (ho : o ≠ .mustNot) (q : Query) :
    (({} : Clauses Query).push o q).collapse = some q := by
  cases o with
  | must => rfl
  | should => rfl
  | mustNot => exact absurd rfl ho

namespace Pass

variable {pass : Pass} {finish : Clauses Query → Option Query}

/-! ## Chains and lists put together -/

lemma visits_append (ns ms : List Node) :
    pass.visits finish (ns ++ ms) =
      pass.visits finish ns >>= fun vs => pass.visits finish ms >>= fun ws => .ok (vs ++ ws) := by
  induction ns with
  | nil => rw [List.nil_append, visits_nil, ok_bind]; exact (bind_ok _).symm
  | cons n ns ih =>
    rw [List.cons_append, visits_cons, visits_cons, ih]
    simp only [bind_assoc, ok_bind, List.append_assoc]

lemma compiledAll_append (cs ds : List Criteria) :
    pass.compiledAll finish (cs ++ ds) = pass.compiledAll finish cs >>= fun rs =>
      pass.compiledAll finish ds >>= fun ss => .ok (rs ++ ss) := by
  induction cs with
  | nil => rw [List.nil_append, compiledAll_nil, ok_bind]; exact (bind_ok _).symm
  | cons c cs ih =>
    rw [List.cons_append, compiledAll_cons, compiledAll_cons, ih]
    simp only [bind_assoc, ok_bind, List.cons_append]

lemma compiledAll_singleton (c : Criteria) :
    pass.compiledAll finish [c] = pass.compiled finish c >>= fun r => .ok [r] := by
  rw [compiledAll_cons, compiledAll_nil]
  simp only [ok_bind]

lemma visits_singleton (n : Node) :
    pass.visits finish [n] = pass.ownClause n >>= fun own =>
      pass.compiledAll finish n.subCriteria >>= fun attached => .ok (n.visits own attached) := by
  rw [visits_cons, visits_nil]
  simp only [ok_bind, List.append_nil]

/-- Chains that begin alike and continue in visits that are put in the same places behind those of
the beginning have the same result. -/
lemma compiled_append_congr {ns ms ms' : List Node} {R : List Visit → List Visit → Prop}
    (hrest : Outcome.Rel R (pass.visits finish ms) (pass.visits finish ms'))
    (harrange : ∀ vs, pass.visits finish ns = .ok vs → ∀ ws ws', R ws ws' →
      pass.arrange (vs ++ ws) = pass.arrange (vs ++ ws')) :
    pass.compiled finish ⟨ns ++ ms⟩ = pass.compiled finish ⟨ns ++ ms'⟩ := by
  rw [compiled_mk, compiled_mk, visits_append, visits_append]
  cases hvs : pass.visits finish ns with
  | error e => rfl
  | ok vs =>
    generalize pass.visits finish ms = x at hrest
    generalize pass.visits finish ms' = y at hrest
    cases hrest with
    | error e => rfl
    | @ok ws ws' h => simp only [ok_bind, harrange vs hvs ws ws' h]

end Pass

/-! ## Nodes that group -/

/-- The node without a field that groups criteria. -/
def Node.group (conjunction : Conjunction) (negating : Bool) (g : Criteria) : Node :=
  { Node.bare none conjunction with negating := negating, subCriteria := [g] }

namespace Pass

/-- What a pass takes from a node: the own clause does not depend on how the node combines with
others nor on what is attached to it, there is none without entries, and the occurrence depends on
how the node combines only. -/
structure ReadsNodes (pass : Pass) : Prop where
  /-- The own clause is made of the other data. -/
  ownClause : ∀ n conjunction negating cs, pass.ownClause
    { n with conjunction := conjunction, negating := negating, subCriteria := cs } =
      pass.ownClause n
  /-- A group has no entries. -/
  group : ∀ conjunction negating g, pass.entries (.group conjunction negating g) = []
  /-- The conjunction and the negation decide about the occurrence. -/
  occur : ∀ n m, n.conjunction = m.conjunction → n.negating = m.negating →
    pass.occur n = pass.occur m
  /-- Without a negation, a clause has to match or may match. -/
  positive : ∀ n, n.negating = false → pass.occur n ≠ .mustNot

lemma query_readsNodes (config : Config) : (query config).ReadsNodes where
  ownClause _ _ _ _ := rfl
  group _ _ _ := rfl
  occur n m hconjunction hnegating := by
    have hisOr : n.isOr = m.isOr := by rw [Node.isOr, Node.isOr, hconjunction]
    simp only [query, hisOr, hnegating]
  positive n h := by
    simp only [query, h]
    cases n.isOr <;> simp

lemma filter_readsNodes (config : Config) : (filter config).ReadsNodes where
  ownClause _ _ _ _ := rfl
  group _ _ _ := rfl
  occur n m hconjunction hnegating := by
    have hisOr : n.isOr = m.isOr := by rw [Node.isOr, Node.isOr, hconjunction]
    simp only [filter, hisOr, hnegating]
  positive n h := by
    simp only [filter, h]
    cases n.isOr <;> simp

variable {pass : Pass} {finish : Clauses Query → Option Query}

section ReadsNodes

variable (hreads : pass.ReadsNodes)

include hreads

/-- The visits of a group are those of what it holds. -/
lemma visits_group (conjunction : Conjunction) (negating : Bool) (g : Criteria) :
    pass.visits finish [.group conjunction negating g] = pass.compiled finish g >>= fun r =>
      .ok ((Node.group conjunction negating g).visits none [r]) := by
  have hown := (pass.ownClause_eq_none_iff _).2 (hreads.group conjunction negating g)
  have hsub : (Node.group conjunction negating g).subCriteria = [g] := rfl
  rw [visits_singleton, hown, ok_bind, hsub, compiledAll_singleton]
  simp only [bind_assoc, ok_bind]

/-- A group that is not negated is what it holds. -/
lemma compiled_group (conjunction : Conjunction) (g : Criteria) :
    pass.compiled Clauses.collapse ⟨[.group conjunction false g]⟩ =
      pass.compiled Clauses.collapse g := by
  rw [compiled_mk, visits_group hreads]
  cases pass.compiled Clauses.collapse g with
  | error e => rfl
  | ok r =>
    cases r with
    | none => rfl
    | some q =>
      exact congrArg Except.ok
        (Clauses.collapse_push_lone (hreads.positive (.group conjunction false g) rfl) q)

/-- What is attached to a node is visited as a group behind the node, where the group combines with
others as the node does. -/
lemma rel_visits_attach (n : Node) (g : Criteria) :
    Outcome.Rel pass.SameMarks
      (pass.visits finish [{ n with subCriteria := n.subCriteria ++ [g] }])
      (pass.visits finish [n, .group n.conjunction n.negating g]) := by
  have hown : pass.ownClause { n with subCriteria := n.subCriteria ++ [g] } = pass.ownClause n :=
    hreads.ownClause n n.conjunction n.negating _
  have hmark : ∀ (m : Node) (isOwn : Bool) (q : Query), m.conjunction = n.conjunction →
      m.negating = n.negating → pass.mark ⟨m, isOwn, q⟩ = pass.mark ⟨n, isOwn, q⟩ := by
    intro m isOwn q hconjunction hnegating
    rw [mark, mark, hreads.occur m n hconjunction hnegating, hnegating]
  rw [visits_singleton, visits_cons, visits_group hreads, hown, compiledAll_append,
    compiledAll_singleton]
  simp only [bind_assoc, ok_bind]
  refine .bind_same (fun own => .bind_same (fun attached => .bind_same (fun r => .ok ?_) _) _) _
  -- The clauses are the same, and so is where they go.
  have hgroup := hmark (.group n.conjunction n.negating g) false
  have hnode := hmark { n with subCriteria := n.subCriteria ++ [g] }
  simp only [SameMarks, Node.visits, List.filterMap_append, List.map_append, List.map_map,
    Function.comp_def, hgroup _ rfl rfl, hnode _ _ rfl rfl, Option.toList_none, List.map_nil,
    List.nil_append, List.append_assoc]

/-! ## Lone nodes in groups -/

/-- A chain of one node that is not negated and has nothing attached to it ends in the own clause of
the node. -/
lemma compiled_lone {m : Node} (hnegating : m.negating = false) (hsubs : m.subCriteria = []) :
    pass.compiled Clauses.collapse ⟨[m]⟩ = pass.ownClause m := by
  rw [compiled_mk, visits_singleton, hsubs, compiledAll_nil]
  cases pass.ownClause m with
  | error e => rfl
  | ok own =>
    cases own with
    | none => rfl
    | some q =>
      have hpush := Clauses.collapse_push_lone (hreads.positive m hnegating) q
      simp only [ok_bind, Node.visits, Option.toList_some, List.filterMap_nil, List.map_nil,
        List.append_nil, List.map_cons, arrange, List.foldl_cons, List.foldl_nil, take]
      -- The clause may be held back, and comes to the clauses that have to match then.
      split
      case isTrue => rw [hnegating]; rfl
      case isFalse => exact congrArg Except.ok hpush

end ReadsNodes

/-- Once a clause has been held back, own clauses are put in their places as others are. -/
lemma take_eq_of_held {walk : Walk} (hheld : pass.holdsFirst = true → walk.held.isSome = true)
    {v w : Visit} (hclause : v.clause = w.clause)
    (hoccur : pass.occur v.owner = pass.occur w.owner) : pass.take walk v = pass.take walk w := by
  have hroute : ∀ isOwn : Bool, (isOwn && pass.holdsFirst && walk.held.isNone) = false := by
    intro isOwn
    cases hfirst : pass.holdsFirst with
    | false => simp
    | true =>
      obtain ⟨held, hsome⟩ := Option.isSome_iff_exists.1 (hheld hfirst)
      simp [hsome]
  rw [take, take, hroute, hroute, if_neg Bool.false_ne_true, if_neg Bool.false_ne_true, hclause,
    hoccur]

/-- A pass that holds back a clause has done so behind the own clause of some node. -/
lemma isSome_held_foldl_take (hold : pass.holdsFirst = true) {vs : List Visit}
    (hown : ∃ v ∈ vs, v.isOwn = true) : (vs.foldl pass.take {}).held.isSome = true := by
  obtain ⟨v, hv, hisOwn⟩ := hown
  have hfind : (vs.find? (·.isOwn)).isSome = true := List.find?_isSome.2 ⟨v, hv, hisOwn⟩
  rw [foldl_take_of_holdsFirst pass hold, Option.isSome_map]
  exact hfind

lemma exists_own_visit {ns : List Node} {vs : List Visit}
    (h : pass.visits finish ns = .ok vs) {n : Node} (hn : n ∈ ns) (hentries : pass.entries n ≠ []) :
    ∃ v ∈ vs, v.isOwn = true := by
  induction ns generalizing vs with
  | nil => cases hn
  | cons m ns ih =>
    rw [visits_cons] at h
    obtain ⟨own, hown, h⟩ := bind_eq_ok_iff.1 h
    obtain ⟨attached, -, h⟩ := bind_eq_ok_iff.1 h
    obtain ⟨later, hlater, h⟩ := bind_eq_ok_iff.1 h
    obtain rfl := Except.ok.inj h
    cases hn with
    | head =>
      cases own with
      | none => exact absurd ((pass.ownClause_eq_none_iff n).1 hown) hentries
      | some q =>
        exact ⟨⟨n, true, q⟩, List.mem_append_left _ (Node.mem_visits.2 ⟨rfl, .inl ⟨rfl, rfl⟩⟩), rfl⟩
    | tail _ hn =>
      obtain ⟨v, hv, hisOwn⟩ := ih hlater hn
      exact ⟨v, List.mem_append_right _ hv, hisOwn⟩

/-- Behind a node with entries, a lone node in a group is as good as the node itself; a pass that
holds back nothing does not ask for the node with entries. -/
lemma compiled_append_group_lone (hreads : pass.ReadsNodes) {ns : List Node}
    (hready : pass.holdsFirst = true → ∃ n ∈ ns, pass.entries n ≠ []) (conjunction : Conjunction)
    {m : Node} (hnegating : m.negating = false) (hsubs : m.subCriteria = []) :
    pass.compiled Clauses.collapse ⟨ns ++ [.group conjunction false ⟨[m]⟩]⟩ =
      pass.compiled Clauses.collapse ⟨ns ++ [{ m with conjunction := conjunction }]⟩ := by
  let grouped : Node := .group conjunction false ⟨[m]⟩
  let plain : Node := { m with conjunction := conjunction }
  have hoccur : pass.occur grouped = pass.occur plain := hreads.occur _ _ rfl hnegating.symm
  have hplain : pass.visits Clauses.collapse [plain] =
      pass.ownClause m >>= fun own => .ok (plain.visits own []) := by
    have hown : pass.ownClause plain = pass.ownClause m :=
      hreads.ownClause m conjunction m.negating m.subCriteria
    have hsubs' : plain.subCriteria = [] := hsubs
    rw [visits_singleton, hown, hsubs', compiledAll_nil]
    rfl
  refine compiled_append_congr (R := fun ws ws' => ∃ own : Option Query,
    ws = grouped.visits none [own] ∧ ws' = plain.visits own []) ?_ ?_
  · -- Both visit the own clause of the node, if there is one.
    rw [visits_group hreads, compiled_lone hreads hnegating hsubs, hplain]
    exact .bind_same (fun own => .ok ⟨own, rfl, rfl⟩) _
  · -- It is not held back, as another clause has been held back before.
    rintro vs hvs _ _ ⟨own, rfl, rfl⟩
    rw [arrange, arrange, List.foldl_append, List.foldl_append]
    cases own with
    | none => rfl
    | some q =>
      have hheld : pass.holdsFirst = true → (vs.foldl pass.take {}).held.isSome = true := by
        intro hold
        obtain ⟨n, hn, hentries⟩ := hready hold
        exact isSome_held_foldl_take hold (exists_own_visit hvs hn hentries)
      exact congrArg Walk.arranged
        (take_eq_of_held hheld (v := ⟨grouped, false, q⟩) (w := ⟨plain, true, q⟩) rfl hoccur)

/-- Attaching criteria to the last node of a chain is as good as appending a group that combines
with others as this node does. -/
lemma compiled_attach_last (hreads : pass.ReadsNodes) (ns : List Node) (last : Node)
    (g : Criteria) :
    pass.compiled finish ⟨ns ++ [{ last with subCriteria := last.subCriteria ++ [g] }]⟩ =
      pass.compiled finish
        ⟨ns ++ [last, .group last.conjunction last.negating g]⟩ := by
  refine compiled_append_congr (rel_visits_attach hreads last g) ?_
  intro vs _ ws ws' h
  exact arrange_congr (by rw [List.map_append, List.map_append, h])

end Pass

/-! ## The laws -/

namespace Criteria

/-- The criteria followed by a group that combines with others as a given node does. -/
def groupBeside (criteria : Criteria) (node : Node) (group : Criteria) : Criteria :=
  let grouped := if node.isOr then criteria.orGroup group else criteria.andGroup group
  if node.negating then grouped.not else grouped

lemma groupBeside_eq (c : Criteria) (n : Node) (g : Criteria) :
    c.groupBeside n g = ⟨c.chain ++ [.group n.conjunction n.negating g]⟩ := by
  cases hconjunction : n.conjunction <;> cases hnegating : n.negating <;>
    simp [groupBeside, orGroup, andGroup, append, not, update, Node.isOr, Node.group, Node.bare,
      hconjunction, hnegating]

/-- What holds of groups in a compilation.  Each law says that two ways to write criteria give the
same query, or none, or the same error. -/
structure GroupingLaws (compile : Criteria → Except CriteriaError (Option Query))
    (ready : Criteria → Prop) : Prop where
  /-- A root that only groups adds nothing. -/
  anchor : ∀ g, compile (anchor.attach [g]) = compile g
  /-- Nor does one that groups alternatives. -/
  anchorOr : ∀ g, compile (anchorOr.attach [g]) = compile g
  /-- What is attached to the last node may be appended as a group: with the conjunction of the
  node, and negated if the node is. -/
  attach : ∀ (c g : Criteria) (last : Node), c.chain.getLast? = some last →
    compile (c.attach [g]) = compile (c.groupBeside last g)
  /-- A lone node that has to match may be appended without a group. -/
  andGroup : ∀ (c : Criteria) (m : Node), ready c → m.negating = false → m.subCriteria = [] →
    compile (c.andGroup ⟨[m]⟩) = compile (c.append { m with conjunction := .and })
  /-- So may a lone node that may match instead. -/
  orGroup : ∀ (c : Criteria) (m : Node), ready c → m.negating = false → m.subCriteria = [] →
    compile (c.orGroup ⟨[m]⟩) = compile (c.append { m with conjunction := .or })

/-- The laws hold for a pass, where a clause has been held back if the pass does so. -/
lemma groupingLaws_of_readsNodes {pass : Pass} (hreads : pass.ReadsNodes) :
    GroupingLaws (pass.compiled Clauses.collapse)
      (fun c => pass.holdsFirst = true → ∃ n ∈ c.chain, pass.entries n ≠ []) where
  anchor g := Pass.compiled_group hreads .and g
  anchorOr g := Pass.compiled_group hreads .or g
  attach c g last hlast := by
    obtain ⟨ns, hns⟩ := List.getLast?_eq_some_iff.1 hlast
    rw [groupBeside_eq, Criteria.attach, update, hns, updateLast_concat, List.append_assoc]
    exact Pass.compiled_attach_last hreads ns last g
  andGroup c m hready hnegating hsubs :=
    Pass.compiled_append_group_lone hreads hready .and hnegating hsubs
  orGroup c m hready hnegating hsubs :=
    Pass.compiled_append_group_lone hreads hready .or hnegating hsubs

/-- The laws of groups hold for the query and for the filter, under every configuration.  For the
query, a lone node may leave its group only where some node of the chain has entries already. -/
theorem compile_grouping (config : Config) :
    GroupingLaws (fun c => (c.compileQuery config).result)
        (fun c => ∃ n ∈ c.chain, n.queryEntries ≠ []) ∧
      GroupingLaws (fun c => (c.compileFilter config).result) (fun _ => True) := by
  have hquery : (fun c : Criteria => (c.compileQuery config).result) =
      (Pass.query config).compiled Clauses.collapse :=
    funext fun c => Compile.result_run (.query config) c
  have hfilter : (fun c : Criteria => (c.compileFilter config).result) =
      (Pass.filter config).compiled Clauses.collapse :=
    funext fun c => Compile.result_run (.filter config) c
  have hq := groupingLaws_of_readsNodes (Pass.query_readsNodes config)
  have hf := groupingLaws_of_readsNodes (Pass.filter_readsNodes config)
  rw [hquery, hfilter]
  refine ⟨?_, ?_⟩
  · exact { hq with
      andGroup := fun c m hready => hq.andGroup c m fun _ => hready
      orGroup := fun c m hready => hq.orGroup c m fun _ => hready }
  · exact { hf with
      andGroup := fun c m _ => hf.andGroup c m nofun
      orGroup := fun c m _ => hf.orGroup c m nofun }

/-- Without a clause held back before, the node that leaves its group is held back itself, and goes
to the front. -/
example :
    let grouped := anchor.attach [on (.named "a") |>.present]
    let lone := Node.bare (some (.named "b")) .or |>.addQueryEntry (.flag .present)
    (compileQuery {} (grouped.orGroup ⟨[lone]⟩)).result = .ok (some (.bool {
        must := [.leaf (.present "a")], should := [.leaf (.present "b")] } none)) ∧
      (compileQuery {} (grouped.append lone)).result = .ok (some (.bool {
        must := [.leaf (.present "b"), .leaf (.present "a")] } none)) :=
  ⟨rfl, rfl⟩

end Criteria

end SearchCriteria
