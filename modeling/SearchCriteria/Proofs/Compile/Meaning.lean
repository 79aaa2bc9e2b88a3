/-
# The meaning of a compiled query

A chain is *homogeneous* if all its nodes join those before them, any of them negated, or if all
its nodes are alternatives and none is negated; the root of alternatives may also be a node that
joins, if no criteria attached to it carries query entries.  Such a chain has a natural meaning:
all its parts, the negated ones reversed, or one of its parts.  The parts of a chain are the own
clauses of its nodes and the meanings of the criteria attached to them.

Main statement: on criteria whose chains are homogeneous at every depth, a compiled query matches
the documents that the criteria mean, wherever the clauses were put and whether or not lone
clauses were unwrapped.
-/
import SearchCriteria.Proofs.Query.Matching

namespace SearchCriteria

/-! ## Homogeneous chains -/

/-- All nodes join those before them. -/
def IsAndChain (ns : List Node) : Prop :=
  ∀ n ∈ ns, n.isOr = false

/-- All nodes are alternatives, up to a root that only has a clause of its own. -/
structure IsOrChain (ns : List Node) : Prop where
  /-- No node is negated. -/
  positive : ∀ n ∈ ns, n.negating = false
  /-- Every node behind the root is an alternative. -/
  later : ∀ n ∈ ns.tail, n.isOr = true
  /-- The root is an alternative, or nothing attached to it carries query entries. -/
  root : ∀ n ∈ ns.head?,
    n.isOr = true ∨ ∀ m ∈ Criteria.allNodesIn n.subCriteria, m.queryEntries = []

/-- All chains are homogeneous, at every depth. -/
inductive Homogeneous : Criteria → Prop where
  /-- The chain is homogeneous, and so is every criteria attached to one of its nodes. -/
  | chain {ns : List Node} (kind : IsAndChain ns ∨ IsOrChain ns)
      (attached : ∀ n ∈ ns, ∀ c ∈ n.subCriteria, Homogeneous c) : Homogeneous ⟨ns⟩

variable {D : Type} (config : Config) (I : Interpretation D)

/-- What a part of a negated or of another node says. -/
def signed (negating : Bool) (p : D → Prop) (d : D) : Prop :=
  if negating then ¬p d else p d

namespace Criteria

mutual

/-- The natural meaning of criteria: all parts of the chain if all its nodes join those before
them, and else one of its parts; criteria without parts mean nothing. -/
def meaning : Criteria → Option (D → Prop)
  | ⟨chain⟩ =>
    let parts := meaningParts chain
    if parts.isEmpty then none
    else if chain.all (·.isAnd) then some fun d => ∀ p ∈ parts, p d
    else some fun d => ∃ p ∈ parts, p d

/-- The parts of a chain: of each node its own clause and what the criteria attached to it mean. -/
def meaningParts : List Node → List (D → Prop)
  | [] => []
  | ⟨field, conjunction, negating, boost, queryEntries, filterEntries, subs⟩ :: rest =>
    let node : Node :=
      ⟨field, conjunction, negating, boost, queryEntries, filterEntries, subs⟩
    let own := (Reading.ownClause config node).map (Query.Matches I)
    (own.toList ++ (meaningsIn subs).filterMap id).map (signed negating) ++ meaningParts rest

/-- The meanings of several criteria. -/
def meaningsIn : List Criteria → List (Option (D → Prop))
  | [] => []
  | criteria :: rest => meaning criteria :: meaningsIn rest

end

lemma meaningsIn_eq_map (cs : List Criteria) :
    meaningsIn config I cs = cs.map (meaning config I) := by
  induction cs with
  | nil => rw [meaningsIn, List.map_nil]
  | cons c cs ih => rw [meaningsIn, ih, List.map_cons]

lemma meaningParts_cons (node : Node) (rest : List Node) :
    meaningParts config I (node :: rest) =
      (((Reading.ownClause config node).map (Query.Matches I)).toList ++
        (meaningsIn config I node.subCriteria).filterMap id).map (signed node.negating) ++
        meaningParts config I rest := by
  cases node
  rw [meaningParts]

end Criteria

/-! ## What visits contribute -/

/-- What a visit says in a chain: its clause matches, or does not if the owner is negated. -/
def Visit.Holds (v : Visit) : D → Prop :=
  signed v.owner.negating (v.clause.Matches I)

namespace Reading

lemma count_queryClauses (vs : List Visit) : (queryClauses vs).count = vs.length := by
  rw [← arrange_query {}, Pass.count_arrange]

/-- The visits of a node say what its own clause and the criteria attached to it mean. -/
lemma holds_node_visits (node : Node) (own : Option Query) (attached : List (Option Query)) :
    (node.visits own attached).map (Visit.Holds I) =
      ((own.map (Query.Matches I)).toList ++
        (attached.map (Option.map (Query.Matches I))).filterMap id).map
          (signed node.negating) := by
  have hattached : (attached.map (Option.map (Query.Matches I))).filterMap id =
      (attached.filterMap id).map (Query.Matches I) := by
    rw [List.filterMap_map, List.map_filterMap]
    rfl
  have hholds : ∀ isOwn, Visit.Holds I ∘ (⟨node, isOwn, ·⟩ : Query → Visit) =
      signed node.negating ∘ Query.Matches I := fun _ => rfl
  rw [hattached, Node.visits, List.map_append, List.map_append, List.map_map, List.map_map,
    List.map_map, hholds, hholds]
  cases own <;> rfl

/-- Visits say the parts of the chain, if the criteria attached to its nodes are read as they are
meant. -/
lemma meaningParts_eq_holds {ns : List Node}
    (ih : ∀ n ∈ ns, ∀ c ∈ n.subCriteria,
      c.meaning config I = (c.queryReading config).map (Query.Matches I)) :
    Criteria.meaningParts config I ns =
      (visits (ownClause config) queryClauses ns).map (Visit.Holds I) := by
  induction ns with
  | nil => rw [Criteria.meaningParts, visits_nil, List.map_nil]
  | cons n ns ihs =>
    obtain ⟨hn, hns⟩ := List.forall_mem_cons.1 ih
    have hattached : Criteria.meaningsIn config I n.subCriteria =
        (readAll (ownClause config) queryClauses n.subCriteria).map
          (Option.map (Query.Matches I)) := by
      rw [Criteria.meaningsIn_eq_map, readAll_eq_map, List.map_map]
      exact List.map_congr_left hn
    rw [Criteria.meaningParts_cons, hattached, ← holds_node_visits, ihs hns, visits_cons,
      List.map_append]

lemma owner_mem_of_mem_visits {own : Node → Option Query} {arrange : List Visit → Clauses Query}
    {ns : List Node} {v : Visit} (hv : v ∈ visits own arrange ns) : v.owner ∈ ns := by
  obtain ⟨n, hn, hv⟩ := (mem_visits own arrange).1 hv
  rw [(Node.mem_visits.1 hv).1]
  exact hn

/-! ## Where the clauses of a chain are put -/

/-- Either no visit is an own clause, or the first one is set aside and the others are left. -/
lemma setAside_cases (vs : List Visit) :
    vs.find? (·.isOwn) = none ∧ vs.eraseP (·.isOwn) = vs ∨
      ∃ aside, vs.find? (·.isOwn) = some aside ∧
        ∀ v, v ∈ vs ↔ v = aside ∨ v ∈ vs.eraseP (·.isOwn) := by
  cases hfind : vs.find? (·.isOwn) with
  | none =>
    rw [List.find?_eq_none] at hfind
    exact .inl ⟨rfl, List.eraseP_of_forall_not hfind⟩
  | some aside =>
    obtain ⟨hown, before, after, rfl, hbefore⟩ := List.find?_eq_some_iff_append.1 hfind
    refine .inr ⟨aside, rfl, fun v => ?_⟩
    have hnone : ∀ a ∈ before, ¬a.isOwn = true := fun a ha => by simpa using hbefore a ha
    rw [List.eraseP_append_right _ hnone, List.eraseP_cons_of_pos hown]
    simp only [List.mem_append, List.mem_cons]
    tauto

/-- Clauses of nodes that all join are met by meeting what each visit says. -/
lemma match_queryClauses_and {vs : List Visit} (hand : ∀ v ∈ vs, v.owner.isOr = false) (d : D) :
    (queryClauses vs).Match I d ↔ ∀ v ∈ vs, v.Holds I d := by
  have hothers : ∀ v ∈ vs.eraseP (·.isOwn), v.owner.isOr = false :=
    fun v hv => hand v (List.mem_of_mem_eraseP hv)
  have hshould : (vs.eraseP (·.isOwn)).filter (fun v => v.owner.isOr) = [] := by
    rw [List.filter_eq_nil_iff]
    intro v hv
    simp [hothers v hv]
  -- The clauses left after the one set aside are met by meeting what their visits say.
  have hleft : (∀ q ∈ ((vs.eraseP (·.isOwn)).filter
        fun v => !v.owner.isOr && !v.owner.negating).map (·.clause), q.Matches I d) ∧
      (∀ q ∈ ((vs.eraseP (·.isOwn)).filter
        fun v => !v.owner.isOr && v.owner.negating).map (·.clause), ¬q.Matches I d) ↔
      ∀ v ∈ vs.eraseP (·.isOwn), v.Holds I d := by
    simp only [List.forall_mem_map, List.mem_filter, and_imp]
    rw [← forall₂_and]
    refine forall₂_congr fun v hv => ?_
    cases hn : v.owner.negating <;> simp [Visit.Holds, signed, hn, hothers v hv]
  obtain ⟨hfind, herase⟩ | ⟨aside, hfind, hmem⟩ := setAside_cases vs
  · rw [queryClauses, hfind, Clauses.match_of_should_nil I (by simp [hshould]), hleft, herase]
  · have hvs : (∀ v ∈ vs, v.Holds I d) ↔
        aside.Holds I d ∧ ∀ v ∈ vs.eraseP (·.isOwn), v.Holds I d := by
      simp only [hmem, forall_eq_or_imp]
    -- The clause set aside joins the others in front, by the sign of its owner.
    rw [hvs, ← hleft, queryClauses, hfind]
    simp only [hshould, List.map_nil, ne_eq, not_true_eq_false, false_and, if_false]
    cases hn : aside.owner.negating
    · rw [if_neg (by simp), Clauses.match_of_should_nil I rfl, List.forall_mem_cons, and_assoc]
      simp [Visit.Holds, signed, hn]
    · rw [if_pos rfl, Clauses.match_of_should_nil I rfl, List.forall_mem_cons, and_left_comm]
      simp [Visit.Holds, signed, hn]

/-- Clauses of alternatives, the one set aside being owned by any node, are met by meeting one of
them. -/
lemma match_queryClauses_or {vs : List Visit} (hne : vs ≠ [])
    (hpositive : ∀ v ∈ vs, v.owner.negating = false)
    (hor : ∀ v ∈ vs.eraseP (·.isOwn), v.owner.isOr = true) (d : D) :
    (queryClauses vs).Match I d ↔ ∃ v ∈ vs, v.Holds I d := by
  -- All that is left are alternatives.
  have hmust : (vs.eraseP (·.isOwn)).filter
      (fun v => !v.owner.isOr && !v.owner.negating) = [] := by
    rw [List.filter_eq_nil_iff]
    intro v hv
    simp [hor v hv]
  have hmustNot : (vs.eraseP (·.isOwn)).filter
      (fun v => !v.owner.isOr && v.owner.negating) = [] := by
    rw [List.filter_eq_nil_iff]
    intro v hv
    simp [hor v hv]
  have hshould : (vs.eraseP (·.isOwn)).filter (fun v => v.owner.isOr) = vs.eraseP (·.isOwn) :=
    List.filter_eq_self.2 hor
  have hholds : (∃ v ∈ vs, v.Holds I d) ↔ ∃ v ∈ vs, v.clause.Matches I d := by
    refine exists_congr fun v => and_congr_right fun hv => ?_
    simp [Visit.Holds, signed, hpositive v hv]
  rw [hholds, queryClauses]
  simp only [hmust, hmustNot, hshould, List.map_nil]
  obtain ⟨hfind, herase⟩ | ⟨aside, hfind, hmem⟩ := setAside_cases vs
  · rw [hfind, herase, Clauses.match_of_only_should I (by simpa using hne)]
    simp
  · rw [hfind]
    simp only [hmem, exists_eq_or_imp]
    by_cases hlone : vs.eraseP (·.isOwn) = []
    · -- The clause set aside is alone, and has to match.
      simp [hlone, hpositive aside ((hmem aside).2 (.inl rfl)), Clauses.match_of_must]
    · rw [if_pos (by simpa using hlone), Clauses.match_of_only_should I (List.cons_ne_nil _ _)]
      simp

/-! ## The clauses of homogeneous chains -/

lemma ownClause_of_no_entries {node : Node} (h : node.queryEntries = []) :
    ownClause config node = none := by
  rw [ownClause, h]
  cases node.field <;> rfl

lemma filterMap_readAll_eq_nil {own : Node → Option Query} {arrange : List Visit → Clauses Query}
    {cs : List Criteria} (h : ∀ c ∈ cs, read own arrange c = none) :
    (readAll own arrange cs).filterMap id = [] := by
  rw [readAll_eq_map, List.filterMap_eq_nil_iff]
  intro r hr
  obtain ⟨c, hc, rfl⟩ := List.mem_map.1 hr
  exact h c hc

lemma queryReading_eq_none {c : Criteria} (h : ∀ m ∈ c.allNodes, m.queryEntries = []) :
    c.queryReading config = none := by
  induction c using Criteria.induction with
  | step ns ih =>
    rw [Criteria.allNodes_mk] at h
    have hvisits : visits (ownClause config) queryClauses ns = [] := by
      induction ns with
      | nil => exact visits_nil _ _
      | cons n ns ihs =>
        obtain ⟨hn, hns⟩ := List.forall_mem_cons.1 ih
        simp only [Criteria.allNodesOf_cons, List.forall_mem_cons, List.forall_mem_append] at h
        obtain ⟨hentries, hattached, hlater⟩ := h
        have hnone : ∀ c ∈ n.subCriteria, read (ownClause config) queryClauses c = none :=
          fun c hc => hn c hc fun m hm =>
            hattached m (Criteria.mem_allNodesIn.2 ⟨c, hc, hm⟩)
        rw [visits_cons, ihs hns hlater, Node.visits, ownClause_of_no_entries config hentries,
          filterMap_readAll_eq_nil hnone]
        rfl
    rw [Criteria.queryReading, read_mk, hvisits, Clauses.outcome]
    exact if_pos (count_queryClauses [])

/-- What is left of alternatives when the first own clause is set aside are clauses of nodes that
are alternatives themselves. -/
lemma isOr_of_mem_eraseP {ns : List Node} (h : IsOrChain ns) :
    ∀ v ∈ (visits (ownClause config) queryClauses ns).eraseP (·.isOwn),
      v.owner.isOr = true := by
  cases ns with
  | nil => simp
  | cons root rest =>
    have hrest : ∀ v ∈ visits (ownClause config) queryClauses rest, v.owner.isOr = true :=
      fun v hv => h.later v.owner (owner_mem_of_mem_visits hv)
    obtain hroot | hroot := h.root root rfl
    · intro v hv
      have howner := owner_mem_of_mem_visits (List.mem_of_mem_eraseP hv)
      obtain heq | hmem := List.mem_cons.1 howner
      · rw [heq, hroot]
      · exact h.later v.owner hmem
    · -- A root that joins has at most its own clause, which is the one set aside.
      have hnone : ∀ c ∈ root.subCriteria, read (ownClause config) queryClauses c = none :=
        fun c hc => queryReading_eq_none config fun m hm =>
          hroot m (Criteria.mem_allNodesIn.2 ⟨c, hc, hm⟩)
      rw [visits_cons, Node.visits, filterMap_readAll_eq_nil hnone]
      cases ownClause config root with
      | none => exact fun v hv => hrest v (List.mem_of_mem_eraseP hv)
      | some q => exact hrest

end Reading

open Reading

namespace Criteria

lemma isAndChain_iff {ns : List Node} : IsAndChain ns ↔ ns.all (·.isAnd) = true := by
  rw [List.all_eq_true]
  refine forall₂_congr fun n _ => ?_
  cases h : n.conjunction <;> simp [Node.isAnd, Node.isOr, h]

lemma meaning_of_isAndChain {ns : List Node} (h : IsAndChain ns) :
    meaning config I ⟨ns⟩ =
      if (meaningParts config I ns).isEmpty then none
      else some fun d => ∀ p ∈ meaningParts config I ns, p d := by
  rw [meaning]
  simp only [isAndChain_iff.1 h, if_true]

/-- Alternatives mean one of their parts, also where all nodes of the chain join. -/
lemma meaning_of_isOrChain {ns : List Node} (h : IsOrChain ns)
    (ih : ∀ n ∈ ns, ∀ c ∈ n.subCriteria,
      c.meaning config I = (c.queryReading config).map (Query.Matches I)) :
    meaning config I ⟨ns⟩ =
      if (meaningParts config I ns).isEmpty then none
      else some fun d => ∃ p ∈ meaningParts config I ns, p d := by
  by_cases hand : IsAndChain ns
  · -- Every clause left behind the one set aside is of an alternative, so none is left.
    have hleft : (visits (ownClause config) queryClauses ns).eraseP (·.isOwn) = [] := by
      refine List.eq_nil_iff_forall_not_mem.2 fun v hv => ?_
      have hisOr := isOr_of_mem_eraseP config h v hv
      have hnot := hand v.owner (owner_mem_of_mem_visits (List.mem_of_mem_eraseP hv))
      rw [hnot] at hisOr
      cases hisOr
    rw [meaning_of_isAndChain config I hand, meaningParts_eq_holds config I ih]
    obtain hnil | ⟨v, -, hv⟩ := List.eraseP_eq_nil_iff.1 hleft
    · rw [hnil]
      rfl
    · rw [hv]
      simp
  · rw [isAndChain_iff] at hand
    rw [meaning]
    exact if_congr Iff.rfl rfl (if_neg hand)

/-- Homogeneous criteria are read as they are meant. -/
theorem meaning_eq_queryReading {c : Criteria} (hc : Homogeneous c) :
    c.meaning config I = (c.queryReading config).map (Query.Matches I) := by
  induction hc with
  | @chain ns kind _ ih =>
    rw [queryReading, read_mk, Clauses.map_matches_outcome, count_queryClauses]
    cases kind with
    | inl hand =>
      have howner : ∀ v ∈ visits (ownClause config) queryClauses ns, v.owner.isOr = false :=
        fun v hv => hand v.owner (owner_mem_of_mem_visits hv)
      rw [meaning_of_isAndChain config I hand, meaningParts_eq_holds config I ih]
      simp only [List.isEmpty_iff, List.map_eq_nil_iff, List.length_eq_zero_iff]
      refine if_congr Iff.rfl rfl (congrArg some (funext fun d => propext ?_))
      rw [match_queryClauses_and I howner, List.forall_mem_map]
    | inr hor =>
      have hsign : ∀ v ∈ visits (ownClause config) queryClauses ns, v.owner.negating = false :=
        fun v hv => hor.positive v.owner (owner_mem_of_mem_visits hv)
      rw [meaning_of_isOrChain config I hor ih, meaningParts_eq_holds config I ih]
      simp only [List.isEmpty_iff, List.map_eq_nil_iff, List.length_eq_zero_iff]
      by_cases hne : visits (ownClause config) queryClauses ns = []
      · rw [if_pos hne, if_pos hne]
      · rw [if_neg hne, if_neg hne]
        refine congrArg some (funext fun d => propext ?_)
        rw [match_queryClauses_or I hne hsign (isOr_of_mem_eraseP config hor)]
        simp

/-- A query that homogeneous criteria compile into matches the documents that they mean. -/
theorem compileQuery_matches_iff (criteria : Criteria) (h : Homogeneous criteria) (q : Query)
    (hq : (criteria.compileQuery config).result = .ok (some q)) :
    ∃ m, criteria.meaning config I = some m ∧ ∀ d, q.Matches I d ↔ m d := by
  have hread : some q = criteria.queryReading config := by
    rw [compileQuery, Compile.result_run] at hq
    exact read_of_compiled (fun _ _ => ownClause_of_compiled) (arrange_query config) hq
  refine ⟨q.Matches I, ?_, fun d => Iff.rfl⟩
  rw [meaning_eq_queryReading config I h, ← hread, Option.map_some]

/-- Something present and one of two others, and a fourth that is not. -/
def oneOfTwo : Criteria :=
  (((on (.named "a")).present.attach [((on (.named "b")).present.or (.named "c")).present]).and
    (.named "d")).present.not

/-- Documents as the lists of the fields that they have. -/
def fieldsPresent : Interpretation (List String) where
  leaf
    | .present field => fun fields => field ∈ fields
    | _ => fun _ => False
  nested _ p := p

lemma homogeneous_oneOfTwo : Homogeneous oneOfTwo := by
  have hgroup : Homogeneous ((on (.named "b")).present.or (.named "c")).present := by
    refine .chain (.inr ⟨by decide, by decide, ?_⟩) ?_
    · rintro n ⟨⟩
      exact .inr fun m hm => nomatch hm
    · exact List.forall_mem_cons.2 ⟨nofun, List.forall_mem_cons.2 ⟨nofun, nofun⟩⟩
  refine .chain (.inl ?_) ?_
  · unfold IsAndChain
    decide
  · exact List.forall_mem_cons.2 ⟨List.forall_mem_cons.2 ⟨hgroup, nofun⟩,
      List.forall_mem_cons.2 ⟨nofun, nofun⟩⟩

/-- The criteria mean what they say, and so does the query. -/
theorem compileQuery_oneOfTwo :
    Homogeneous oneOfTwo ∧ ∃ m, oneOfTwo.meaning {} fieldsPresent = some m ∧
      m ["a", "c"] ∧ ¬m ["a"] ∧ ¬m ["a", "c", "d"] := by
  have hrun : (oneOfTwo.compileQuery {}).result = .ok (some (.bool {
      must := [.leaf (.present "a"),
        .bool { should := [.leaf (.present "b"), .leaf (.present "c")] } none]
      mustNot := [.leaf (.present "d")] } none)) := rfl
  obtain ⟨m, hm, hiff⟩ :=
    compileQuery_matches_iff {} fieldsPresent oneOfTwo homogeneous_oneOfTwo _ hrun
  refine ⟨homogeneous_oneOfTwo, m, hm, ?_, ?_, ?_⟩ <;> rw [← hiff] <;>
    simp [Clauses.Match, fieldsPresent]

end Criteria

end SearchCriteria
