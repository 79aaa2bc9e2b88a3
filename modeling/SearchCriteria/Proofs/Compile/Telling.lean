/-
# What a compilation tells

The logs of chains are given by relations: one for chains that are compiled, one for chains on which
the compilation fails.  Here the logs that a pass writes are shown to be these.

* `written`: a chain is sorted with the log that is given for it;
* `exists_tells_or_breaksOff`: there is a log for every criteria, so no other is written;
* `isTrace_sorted`: the log of a chain has no other events than those of single clauses;
* `front_eq_nil_iff`: a clause is put in front of the others at most once, and in which chains.

Main statement: the log of both compilations tells exactly what they do.
-/
import SearchCriteria.Criteria.Builder
import SearchCriteria.Proofs.Compile.Log

namespace SearchCriteria

/-! ## The logs that are written -/

namespace Compile

variable (pass : Pass)

/-- The run that sorts the clauses of a chain. -/
def sorted (c : Criteria) : Run (Clauses Query) :=
  nodes pass c.chain {} >>= Walk.close

lemma chain_eq_sorted (c : Criteria) :
    chain pass c = sorted pass c >>= fun cs => pure cs.collapse := by
  cases c
  rw [chain, sorted, bind_assoc]

variable {pass} in
lemma chain_of_ok {c : Criteria} {log : List Event} {cs : Clauses Query}
    (h : sorted pass c = ⟨log, .ok cs⟩) : chain pass c = ⟨log, .ok cs.collapse⟩ := by
  rw [chain_eq_sorted, h, Run.ok_bind]
  exact congrArg (Run.mk · _) (List.append_nil log)

variable {pass} in
lemma chain_of_error {c : Criteria} {log : List Event} {e : CriteriaError}
    (h : sorted pass c = ⟨log, .error e⟩) : chain pass c = ⟨log, .error e⟩ := by
  rw [chain_eq_sorted, h, Run.error_bind]

lemma addOwn_eq (n : Node) (walk : Walk) (own : Option Query) :
    walk.addOwn pass n own =
      (own.toList.map (⟨n, none, ·⟩ : Query → Chapter)).foldlM pass.record walk := by
  cases own with
  | none => rfl
  | some clause =>
    simp only [Option.toList_some, List.map_singleton, List.foldlM_cons, List.foldlM_nil, bind_pure,
      Walk.addOwn, Pass.record, Pass.take, Chapter.visit, Chapter.isOwn, Chapter.told,
      Option.isNone_none, Option.getD_none, Bool.true_and, List.nil_append]
    split <;> rfl

/-- What a sub-criteria is compiled into is taken up as a chapter is recorded; where nothing comes
of it, nothing may have been told. -/
lemma addSub_eq (n : Node) (walk : Walk) (log : List Event) (sub : Option Query)
    (hquiet : sub = none → log = []) :
    ((⟨log, .ok sub⟩ : Run (Option Query)) >>= walk.addSub (pass.occur n)) =
      (sub.toList.map (⟨n, some log, ·⟩ : Query → Chapter)).foldlM pass.record walk := by
  cases sub with
  | none =>
    rw [hquiet rfl]
    rfl
  | some clause =>
    simp only [Option.toList_some, List.map_singleton, List.foldlM_cons, List.foldlM_nil, bind_pure]
    rfl

variable {pass}

/-- What a run does that is written as the relations say. -/
structure Written (pass : Pass) (c : Criteria) : Prop where
  /-- A chain that is compiled. -/
  ok : ∀ log cs, pass.Tells c log cs → sorted pass c = ⟨log, .ok cs⟩
  /-- A chain on which the compilation fails. -/
  error : ∀ log e, pass.BreaksOff c log e → sorted pass c = ⟨log, .error e⟩

/-- Criteria attached to a node that are compiled are recorded, and then the others follow. -/
lemma subCriteria_append (n : Node) {before : List Criteria}
    {attached : List (List Event × Clauses Query)}
    (compiled : List.Forall₂ (fun c told => pass.Tells c told.1 told.2) before attached)
    (hwritten : ∀ c ∈ before, Written pass c) (rest : List Criteria) (walk : Walk) :
    subCriteria pass (pass.occur n) (before ++ rest) walk =
      (n.chapters none attached).foldlM pass.record walk >>=
        subCriteria pass (pass.occur n) rest := by
  induction compiled generalizing walk with
  | nil => rfl
  | @cons c told before attached htold _ ih =>
    obtain ⟨hc, hbefore⟩ := List.forall_mem_cons.1 hwritten
    have hchapters : n.chapters none (told :: attached) =
        told.2.collapse.toList.map (⟨n, some told.1, ·⟩ : Query → Chapter) ++
          n.chapters none attached := rfl
    rw [List.cons_append, subCriteria, chain_of_ok (hc.ok _ _ htold), hchapters,
      List.foldlM_append, bind_assoc,
      ← addSub_eq pass n walk told.1 told.2.collapse htold.eq_nil_of_collapse, bind_assoc]
    exact bind_congr fun sub => bind_congr fun walk => ih hbefore walk

/-- A node whose entries are accepted is recorded with the criteria attached to it that are
compiled, and then come the others. -/
lemma nodes_cons_of_accepted {n : Node} {own : Option Query} {before after : List Criteria}
    {attached : List (List Event × Clauses Query)} (accepted : pass.ownClause n = .ok own)
    (split : n.subCriteria = before ++ after)
    (compiled : List.Forall₂ (fun c told => pass.Tells c told.1 told.2) before attached)
    (hwritten : ∀ c ∈ before, Written pass c) (rest : List Node) (walk : Walk) :
    nodes pass (n :: rest) walk = (n.chapters own attached).foldlM pass.record walk >>= fun walk =>
      subCriteria pass (pass.occur n) after walk >>= nodes pass rest := by
  have hown : Run.of (pass.ownClause n) = pure own := by
    rw [accepted]
    rfl
  have hchapters : n.chapters own attached =
      own.toList.map (⟨n, none, ·⟩ : Query → Chapter) ++ n.chapters none attached := rfl
  rw [nodes_cons, hown, pure_bind, addOwn_eq, hchapters, List.foldlM_append, bind_assoc, split]
  refine bind_congr fun walk => ?_
  rw [subCriteria_append n compiled hwritten, bind_assoc]

/-- Nodes that are gone through are recorded, and then the others follow. -/
lemma nodes_append {before : List Node} {chapters : List (List Chapter)}
    (h : List.Forall₂ pass.TellsNode before chapters)
    (hwritten : ∀ n ∈ before, ∀ c ∈ n.subCriteria, Written pass c) (rest : List Node)
    (walk : Walk) : nodes pass (before ++ rest) walk =
      chapters.flatten.foldlM pass.record walk >>= nodes pass rest := by
  induction h generalizing walk with
  | nil => rfl
  | cons hnode _ ih =>
    obtain ⟨hn, hbefore⟩ := List.forall_mem_cons.1 hwritten
    obtain ⟨accepted, compiled⟩ := hnode
    rw [List.cons_append, List.flatten_cons, List.foldlM_append, bind_assoc,
      nodes_cons_of_accepted accepted (List.append_nil _).symm compiled hn]
    exact bind_congr fun walk => ih hbefore walk

/-- The run ends on the first node that is not gone through. -/
lemma nodes_cons_of_breaksOff {n : Node} {last : List Chapter} {log : List Event}
    {e : CriteriaError} (h : pass.BreaksOffNode n last log e)
    (hwritten : ∀ c ∈ n.subCriteria, Written pass c) (rest : List Node) (walk : Walk) :
    nodes pass (n :: rest) walk =
      last.foldlM pass.record walk >>= fun _ => ⟨log, .error e⟩ := by
  cases h with
  | refused refused =>
    rw [nodes_cons, refused]
    rfl
  | attached accepted split compiled fails =>
    rw [split, List.forall_mem_append, List.forall_mem_cons] at hwritten
    obtain ⟨hbefore, hc, -⟩ := hwritten
    rw [nodes_cons_of_accepted accepted split compiled hbefore]
    refine bind_congr fun walk => ?_
    rw [subCriteria, chain_of_error (hc.error _ _ fails), Run.error_bind, Run.error_bind]

/-- Every run does as the relations say. -/
lemma written (c : Criteria) : Written pass c := by
  induction c using Criteria.induction with
  | step ns ih =>
    constructor
    case ok =>
      rintro log cs ⟨htells⟩
      have hnil : nodes pass [] = pure := rfl
      have hnodes := nodes_append htells ih [] {}
      rw [List.append_nil, hnil, bind_pure] at hnodes
      rw [sorted, hnodes, Pass.close_foldlM_record]
    case error =>
      rintro log e ⟨htells, hfails⟩
      rw [List.forall_mem_append, List.forall_mem_cons] at ih
      obtain ⟨hbefore, hn, -⟩ := ih
      -- The chapters in front of the node and those of the node itself are one walk, as the clause
      -- that is held back may belong to either.
      rw [sorted, nodes_append htells hbefore, funext (nodes_cons_of_breaksOff hfails hn _),
        ← bind_assoc, ← List.foldlM_append, Pass.foldlM_record, Run.ok_bind, Run.error_bind]

/-- A list is related to another element by element, or it has a first element without a related
one. -/
lemma forall₂_or_split {α β : Type} {r : α → β → Prop} {stuck : α → Prop} (xs : List α)
    (h : ∀ x ∈ xs, (∃ y, r x y) ∨ stuck x) :
    (∃ ys, List.Forall₂ r xs ys) ∨
      ∃ before x after ys, xs = before ++ x :: after ∧ List.Forall₂ r before ys ∧ stuck x := by
  induction xs with
  | nil => exact .inl ⟨[], .nil⟩
  | cons x xs ih =>
    obtain ⟨hx, hxs⟩ := List.forall_mem_cons.1 h
    obtain ⟨y, hy⟩ | hstuck := hx
    · obtain ⟨ys, hys⟩ | ⟨before, x', after, ys, rfl, hys, hstuck⟩ := ih hxs
      · exact .inl ⟨y :: ys, .cons hy hys⟩
      · exact .inr ⟨x :: before, x', after, y :: ys, rfl, .cons hy hys, hstuck⟩
    · exact .inr ⟨[], x, xs, [], rfl, .nil, hstuck⟩

variable (pass) in
/-- There is a log for every criteria. -/
lemma exists_tells_or_breaksOff (c : Criteria) :
    (∃ told : List Event × Clauses Query, pass.Tells c told.1 told.2) ∨
      ∃ log e, pass.BreaksOff c log e := by
  induction c using Criteria.induction with
  | step ns ih =>
    have hnode : ∀ n ∈ ns, (∃ chapters, pass.TellsNode n chapters) ∨
        ∃ last log e, pass.BreaksOffNode n last log e := by
      intro n hn
      cases hown : pass.ownClause n with
      | error e => exact .inr ⟨[], [], e, .refused hown⟩
      | ok own =>
        obtain ⟨attached, compiled⟩ |
          ⟨before, c, after, attached, split, compiled, log, e, fails⟩ :=
            forall₂_or_split n.subCriteria (ih n hn)
        · exact .inl ⟨_, .node hown compiled⟩
        · exact .inr ⟨_, log, e, .attached hown split compiled fails⟩
    obtain ⟨chapters, htells⟩ | ⟨before, n, after, chapters, rfl, htells, last, log, e, hfails⟩ :=
      forall₂_or_split ns hnode
    · exact .inl ⟨(_, _), .chain htells⟩
    · exact .inr ⟨_, e, .chain htells hfails⟩

/-- A chain is compiled with the log that the relation gives, and with no other. -/
lemma sorted_eq_ok_iff {c : Criteria} {log : List Event} {cs : Clauses Query} :
    sorted pass c = ⟨log, .ok cs⟩ ↔ pass.Tells c log cs := by
  refine ⟨fun h => ?_, (written c).ok log cs⟩
  obtain ⟨told, htold⟩ | ⟨log', e, hlog⟩ := exists_tells_or_breaksOff pass c
  · obtain ⟨rfl, hcs⟩ := Run.mk.inj (h.symm.trans ((written c).ok _ _ htold))
    obtain rfl := Except.ok.inj hcs
    exact htold
  · cases (Run.mk.inj (h.symm.trans ((written c).error _ _ hlog))).2

lemma sorted_eq_error_iff {c : Criteria} {log : List Event} {e : CriteriaError} :
    sorted pass c = ⟨log, .error e⟩ ↔ pass.BreaksOff c log e := by
  refine ⟨fun h => ?_, (written c).error log e⟩
  obtain ⟨told, htold⟩ | ⟨log', e', hlog⟩ := exists_tells_or_breaksOff pass c
  · cases (Run.mk.inj (h.symm.trans ((written c).ok _ _ htold))).2
  · obtain ⟨rfl, he⟩ := Run.mk.inj (h.symm.trans ((written c).error _ _ hlog))
    obtain rfl := Except.error.inj he
    exact hlog

end Compile

/-! ## Levels -/

namespace Run

variable {α β : Type}

/-- A run that tells of single clauses only. -/
def IsTrace (run : Run α) : Prop := ∀ event ∈ run.events, event.level = .trace

lemma isTrace_of (result : Except CriteriaError α) : (Run.of result).IsTrace := nofun

lemma isTrace_pure (a : α) : (pure a : Run α).IsTrace := nofun

lemma IsTrace.bind {run : Run α} {next : α → Run β} (hrun : run.IsTrace)
    (hnext : ∀ a, (next a).IsTrace) : (run >>= next).IsTrace := by
  obtain ⟨events, result⟩ := run
  cases result with
  | error e => exact hrun
  | ok a => exact List.forall_mem_append.2 ⟨hrun, hnext a⟩

end Run

namespace Walk

lemma isTrace_route (walk : Walk) (occur : Occur) (clause : Query) :
    (walk.route occur clause).IsTrace :=
  Run.IsTrace.bind (List.forall_mem_singleton.2 rfl) fun _ => Run.isTrace_pure _

lemma isTrace_addOwn (pass : Pass) (n : Node) (walk : Walk) (own : Option Query) :
    (walk.addOwn pass n own).IsTrace := by
  cases own with
  | none => exact Run.isTrace_pure walk
  | some clause =>
    rw [addOwn]
    split
    · exact Run.isTrace_pure _
    · exact walk.isTrace_route _ _

lemma isTrace_addSub (occur : Occur) (walk : Walk) (sub : Option Query) :
    (walk.addSub occur sub).IsTrace := by
  cases sub with
  | none => exact Run.isTrace_pure walk
  | some clause => exact walk.isTrace_route _ _

lemma isTrace_close (walk : Walk) : walk.close.IsTrace := by
  rw [close]
  split
  · exact Run.isTrace_pure _
  · exact Run.IsTrace.bind (List.forall_mem_singleton.2 rfl) fun _ => Run.isTrace_pure _

end Walk

namespace Compile

variable (pass : Pass)

lemma isTrace_subCriteria (occur : Occur) (cs : List Criteria) (walk : Walk)
    (h : ∀ c ∈ cs, (sorted pass c).IsTrace) : (subCriteria pass occur cs walk).IsTrace := by
  induction cs generalizing walk with
  | nil => exact Run.isTrace_pure walk
  | cons c cs ih =>
    obtain ⟨hc, hcs⟩ := List.forall_mem_cons.1 h
    rw [subCriteria, chain_eq_sorted]
    refine (hc.bind fun _ => Run.isTrace_pure _).bind fun sub => ?_
    exact (walk.isTrace_addSub occur sub).bind fun walk => ih walk hcs

lemma isTrace_nodes (ns : List Node) (walk : Walk)
    (h : ∀ n ∈ ns, ∀ c ∈ n.subCriteria, (sorted pass c).IsTrace) :
    (nodes pass ns walk).IsTrace := by
  induction ns generalizing walk with
  | nil => exact Run.isTrace_pure walk
  | cons n ns ih =>
    obtain ⟨hn, hns⟩ := List.forall_mem_cons.1 h
    rw [nodes_cons]
    refine (Run.isTrace_of _).bind fun own => (walk.isTrace_addOwn pass n own).bind fun walk => ?_
    exact (isTrace_subCriteria pass _ _ walk hn).bind fun walk => ih walk hns

/-- Between its start and its end a compilation tells of single clauses only. -/
lemma isTrace_sorted (c : Criteria) : (sorted pass c).IsTrace := by
  induction c using Criteria.induction with
  | step ns ih => exact (isTrace_nodes pass ns {} ih).bind fun walk => walk.isTrace_close

end Compile

/-! ## The clause in front -/

namespace Pass

variable {pass : Pass}

/-- A node has a chapter of its own if it has entries. -/
lemma TellsNode.exists_isOwn_iff {n : Node} {chapters : List Chapter}
    (h : pass.TellsNode n chapters) :
    (∃ chapter ∈ chapters, chapter.isOwn = true) ↔ pass.entries n ≠ [] := by
  cases h with
  | @node _ own attached accepted _ =>
    rw [Ne, ← ownClause_eq_none_iff, accepted]
    cases own with
    | none => simp [Node.chapters, Chapter.isOwn]
    | some clause => simp [Node.chapters, Chapter.isOwn]

lemma exists_isOwn_flatten_iff {ns : List Node} {chapters : List (List Chapter)}
    (h : List.Forall₂ pass.TellsNode ns chapters) :
    (∃ chapter ∈ chapters.flatten, chapter.isOwn = true) ↔ ∃ n ∈ ns, pass.entries n ≠ [] := by
  induction h with
  | nil => simp
  | cons hnode _ ih =>
    rw [List.flatten_cons, List.exists_mem_cons_iff, ← hnode.exists_isOwn_iff, ← ih]
    simp only [List.mem_append, or_and_right, exists_or]

/-- At most one clause is put in front. -/
lemma front_eq_nil_or_singleton (chapters : List Chapter) :
    pass.front chapters = [] ∨ ∃ o q, pass.front chapters = [.prepended o q] := by
  rw [front]
  cases pass.heldBack chapters with
  | none => exact .inl rfl
  | some chapter => exact .inr ⟨_, _, rfl⟩

lemma front_eq_nil_iff {chapters : List Chapter} : pass.front chapters = [] ↔
    ¬(pass.holdsFirst = true ∧ ∃ chapter ∈ chapters, chapter.isOwn = true) := by
  rw [front, List.map_eq_nil_iff, Option.toList_eq_nil_iff, heldBack]
  split
  case isTrue hfirst => simp [hfirst]
  case isFalse hfirst => simp [hfirst]

end Pass

/-! ## Logs of compilations -/

/-- An event as it is written: its level, its text and its data. -/
def Event.line (event : Event) : Level × String × List (String × String) :=
  (event.level, event.message, event.data)

/-- The log of a compilation tells what the compilation does.  The chains that put a clause in front
are those that `prepends` holds of. -/
structure TellsExactly (pass : Pass) (name : String) (prepends : List Node → Prop)
    (compile : Criteria → Run (Option Query)) : Prop where
  /-- A chain is compiled into the query of its lists. -/
  chain_eq : ∀ c, Compile.chain pass c =
    Compile.sorted pass c >>= fun cs => pure cs.collapse
  /-- Its lists are those that the insertions of its log make. -/
  sorted_iff : ∀ {c log cs}, Compile.sorted pass c = ⟨log, .ok cs⟩ ↔ pass.Tells c log cs
  /-- The log of a compilation that succeeds has a start and an end.  Between them is the log of the
  chain, with the lists that the result is made of. -/
  ok_iff : ∀ {c log r}, compile c = ⟨log, .ok r⟩ ↔
    ∃ told cs, pass.Tells c told cs ∧ cs.collapse = r ∧
      log = .started pass.target c.chain.length :: told ++ [.finished pass.target r]
  /-- The log of a compilation that fails has a start and no end. -/
  error_iff : ∀ {c log e}, compile c = ⟨log, .error e⟩ ↔
    ∃ told, pass.BreaksOff c told e ∧ log = .started pass.target c.chain.length :: told
  /-- Of a chain that is compiled only single clauses are told. -/
  trace_of_tells : ∀ {c log cs}, pass.Tells c log cs → ∀ event ∈ log, event.level = .trace
  /-- Of a chain on which the compilation fails only single clauses are told. -/
  trace_of_breaksOff : ∀ {c log e}, pass.BreaksOff c log e → ∀ event ∈ log, event.level = .trace
  /-- One clause is put in front of the others. -/
  front : ∀ {ns chapters}, List.Forall₂ pass.TellsNode ns chapters → prepends ns →
    ∃ o q, pass.front chapters.flatten = [.prepended o q]
  /-- No clause is put in front. -/
  no_front : ∀ {ns chapters}, List.Forall₂ pass.TellsNode ns chapters → ¬prepends ns →
    pass.front chapters.flatten = []
  /-- The start. -/
  started : ∀ n, (Event.started pass.target n).line =
    (.debug, "compiling criteria " ++ name, [("nodes", toString n)])
  /-- A clause that is put behind others. -/
  routed : ∀ o q, (Event.routed o q).line =
    (.trace, "routing clause", [("occur", o.label), ("query", q.toText)])
  /-- A clause that is put in front. -/
  prepended : ∀ o q, (Event.prepended o q).line =
    (.trace, "prepending first clause", [("occur", o.label), ("query", q.toText)])
  /-- The end, with a query. -/
  finished : ∀ q, (Event.finished pass.target (some q)).line =
    (.debug, "compiled criteria " ++ name, [("query_type", q.typeName), (name, q.toText)])
  /-- The end, with nothing to match. -/
  finished_empty : (Event.finished pass.target none).line =
    (.debug, "criteria carry no " ++ name ++ " entries", [])

namespace Compile

variable {pass : Pass}

lemma run_of_ok {c : Criteria} {told : List Event} {cs : Clauses Query}
    (h : sorted pass c = ⟨told, .ok cs⟩) : run pass c =
      ⟨.started pass.target c.chain.length :: told ++ [.finished pass.target cs.collapse],
        .ok cs.collapse⟩ := by
  rw [run, chain_of_ok h]
  rfl

lemma run_of_error {c : Criteria} {told : List Event} {e : CriteriaError}
    (h : sorted pass c = ⟨told, .error e⟩) :
    run pass c = ⟨.started pass.target c.chain.length :: told, .error e⟩ := by
  rw [run, chain_of_error h]
  rfl

lemma run_tellsExactly (prepends : List Node → Prop)
    (hprepends : ∀ ns, prepends ns ↔
      pass.holdsFirst = true ∧ ∃ n ∈ ns, pass.entries n ≠ []) :
    TellsExactly pass pass.target.name prepends (run pass) where
  chain_eq := chain_eq_sorted pass
  sorted_iff := sorted_eq_ok_iff
  ok_iff {c log r} := by
    constructor
    · intro h
      rcases hsorted : sorted pass c with ⟨told, e | cs⟩
      · rw [run_of_error hsorted] at h
        cases (Run.mk.inj h).2
      · rw [run_of_ok hsorted] at h
        obtain ⟨rfl, hr⟩ := Run.mk.inj h
        obtain rfl := Except.ok.inj hr
        exact ⟨told, cs, sorted_eq_ok_iff.1 hsorted, rfl, rfl⟩
    · rintro ⟨told, cs, htells, rfl, rfl⟩
      exact run_of_ok (sorted_eq_ok_iff.2 htells)
  error_iff {c log e} := by
    constructor
    · intro h
      rcases hsorted : sorted pass c with ⟨told, e' | cs⟩
      · rw [run_of_error hsorted] at h
        obtain ⟨rfl, he⟩ := Run.mk.inj h
        obtain rfl := Except.error.inj he
        exact ⟨told, sorted_eq_error_iff.1 hsorted, rfl⟩
      · rw [run_of_ok hsorted] at h
        cases (Run.mk.inj h).2
    · rintro ⟨told, hfails, rfl⟩
      exact run_of_error (sorted_eq_error_iff.2 hfails)
  trace_of_tells {c log cs} htells := by
    have htrace := isTrace_sorted pass c
    rwa [sorted_eq_ok_iff.2 htells] at htrace
  trace_of_breaksOff {c log e} hfails := by
    have htrace := isTrace_sorted pass c
    rwa [sorted_eq_error_iff.2 hfails] at htrace
  front {ns chapters} hnodes hns := by
    rw [hprepends, ← Pass.exists_isOwn_flatten_iff hnodes] at hns
    exact (Pass.front_eq_nil_or_singleton _).resolve_left fun h => Pass.front_eq_nil_iff.1 h hns
  no_front {ns chapters} hnodes hns := by
    rw [hprepends, ← Pass.exists_isOwn_flatten_iff hnodes] at hns
    exact Pass.front_eq_nil_iff.2 hns
  started n := rfl
  routed o q := rfl
  prepended o q := rfl
  finished q := rfl
  finished_empty := rfl

end Compile

/-- The log of both compilations tells exactly what they do.  The query puts a clause in front in
the chains that have a node with entries, the filter never does. -/
theorem Criteria.compile_tellsExactly (config : Config) :
    TellsExactly (.query config) "query" (fun ns => ∃ n ∈ ns, n.queryEntries ≠ [])
        (Criteria.compileQuery config) ∧
      TellsExactly (.filter config) "filter" (fun _ => False) (Criteria.compileFilter config) := by
  constructor
  · refine Compile.run_tellsExactly _ fun ns => ?_
    exact (and_iff_right rfl).symm
  · refine Compile.run_tellsExactly _ fun ns => ?_
    exact iff_of_false id fun h => Bool.false_ne_true h.1

/-- The chain of the attached criteria is told before the clause that comes of it is routed, and the
clause that the outer chain holds back comes last. -/
example :
    let group := ((Criteria.on (.named "b")).present.and (.named "c")).present
    (((Criteria.on (.named "a")).present.attach [group]).compileQuery {}).events =
      [.started .query 1,
        .routed .must (.leaf (.present "c")),
        .prepended .must (.leaf (.present "b")),
        .routed .must (.bool { must := [.leaf (.present "b"), .leaf (.present "c")] } none),
        .prepended .must (.leaf (.present "a")),
        .finished .query (some (.bool { must := [.leaf (.present "a"),
          .bool { must := [.leaf (.present "b"), .leaf (.present "c")] } none] } none))] := rfl

end SearchCriteria
