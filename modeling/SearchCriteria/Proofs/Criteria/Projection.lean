/-
# Projections of criteria

A view of criteria counts some of the entries of a node and sees some of its other data.  The
projection of criteria on a view takes out everything else: in each node what the view does not
see, and then, at every depth, each node and each attached criteria that carries no entry that
counts, neither itself nor below.

* `View.query` counts the entries for the query and sees all but the entries for the filter;
* `View.filter` counts the entries for the filter and sees neither the entries for the query nor
  boosts nor how text is compared;
* `View.Change` is a change somewhere in criteria that a view does not see, and
  `project_eq_of_change` says that the projection stays the same.
-/
import Mathlib.Logic.Relation
import SearchCriteria.Proofs.Criteria.Tree

namespace SearchCriteria

/-- Which `entries` of the nodes of criteria count, and what is left of a node if what is not seen
of it is erased. -/
structure View where
  entries : Node → List Entry
  erase : Node → Node
  /-- Criteria that are attached to a node are seen. -/
  erase_attach : ∀ n cs,
    erase { n with subCriteria := cs } = { erase n with subCriteria := cs } := by intros; rfl
  /-- Which entries count does not depend on the criteria attached to the node. -/
  entries_attach : ∀ n cs, entries { n with subCriteria := cs } = entries n := by intros; rfl
  /-- Entries that count are seen. -/
  entries_erase : ∀ n, entries (erase n) = entries n := by intros; rfl

namespace View

/-- The view that a query takes: entries for the filter are not seen. -/
def query : View where
  entries node := node.queryEntries
  erase node := { node with filterEntries := [] }

/-- The view that a filter takes: entries for the query, boosts and how text is compared with a
field are not seen. -/
def filter : View where
  entries node := node.filterEntries
  erase node := { node with
    field := node.field.map fun field => { field with kind := .analyzed }
    boost := none
    queryEntries := [] }

variable (view : View)

/-- Whether some node of the criteria carries an entry that counts, at any depth. -/
def carries (criteria : Criteria) : Bool :=
  criteria.allNodes.any fun node => !(view.entries node).isEmpty

/-- Whether a node carries an entry that counts, itself or in the criteria attached to it. -/
def carriesAt (node : Node) : Bool :=
  !(view.entries node).isEmpty || node.subCriteria.any view.carries

lemma carries_eq_false_iff {criteria : Criteria} :
    view.carries criteria = false ↔ ∀ n ∈ criteria.allNodes, view.entries n = [] := by
  simp [carries]

lemma carriesAt_eq_false_iff {node : Node} :
    view.carriesAt node = false ↔
      view.entries node = [] ∧ ∀ c ∈ node.subCriteria, view.carries c = false := by
  simp [carriesAt]

lemma carries_mk (ns : List Node) : view.carries ⟨ns⟩ = ns.any view.carriesAt := by
  rw [Bool.eq_iff_iff, ← Decidable.not_iff_not, Bool.not_eq_true, Bool.not_eq_true,
    carries_eq_false_iff, Criteria.forall_allNodes, List.any_eq_false]
  refine forall₂_congr fun n _ => ?_
  rw [Bool.not_eq_true, carriesAt_eq_false_iff]
  simp only [carries_eq_false_iff]

/-! ## The projection -/

mutual

/-- The projection of criteria: their chain without what is not seen and without the nodes that
carry no entry. -/
def project : Criteria → Criteria
  | ⟨chain⟩ => ⟨projectNodes chain⟩

def projectNodes : List Node → List Node
  | [] => []
  | ⟨field, conjunction, negating, boost, queryEntries, filterEntries, subs⟩ :: rest =>
    let node : Node :=
      ⟨field, conjunction, negating, boost, queryEntries, filterEntries, subs⟩
    if view.carriesAt node then
      { view.erase node with subCriteria := projectAll subs } :: projectNodes rest
    else projectNodes rest

def projectAll : List Criteria → List Criteria
  | [] => []
  | criteria :: rest =>
    if view.carries criteria then project criteria :: projectAll rest else projectAll rest

end

def projectAt (node : Node) : Node :=
  { view.erase node with subCriteria := view.projectAll node.subCriteria }

lemma project_mk (ns : List Node) : view.project ⟨ns⟩ = ⟨view.projectNodes ns⟩ := by
  rw [project]

@[simp] lemma projectNodes_nil : view.projectNodes [] = [] := by
  rw [projectNodes]

lemma projectNodes_cons (n : Node) (ns : List Node) :
    view.projectNodes (n :: ns) =
      if view.carriesAt n then view.projectAt n :: view.projectNodes ns
      else view.projectNodes ns := by
  cases n
  rw [projectNodes, projectAt]

@[simp] lemma projectAll_nil : view.projectAll [] = [] := by
  rw [projectAll]

lemma projectAll_cons (c : Criteria) (cs : List Criteria) :
    view.projectAll (c :: cs) =
      if view.carries c then view.project c :: view.projectAll cs else view.projectAll cs := by
  rw [projectAll]

lemma projectNodes_append (ns ms : List Node) :
    view.projectNodes (ns ++ ms) = view.projectNodes ns ++ view.projectNodes ms := by
  induction ns with
  | nil => simp
  | cons n ns ih => simp only [List.cons_append, projectNodes_cons, ih]; split <;> rfl

lemma projectAll_append (cs ds : List Criteria) :
    view.projectAll (cs ++ ds) = view.projectAll cs ++ view.projectAll ds := by
  induction cs with
  | nil => simp
  | cons c cs ih => simp only [List.cons_append, projectAll_cons, ih]; split <;> rfl

lemma projectNodes_isEmpty (ns : List Node) :
    (view.projectNodes ns).isEmpty = !ns.any view.carriesAt := by
  induction ns with
  | nil => simp
  | cons n ns ih =>
    rw [projectNodes_cons, List.any_cons]
    cases view.carriesAt n with
    | true => rfl
    | false => simpa using ih

lemma projectAll_isEmpty (cs : List Criteria) :
    (view.projectAll cs).isEmpty = !cs.any view.carries := by
  induction cs with
  | nil => simp
  | cons c cs ih =>
    rw [projectAll_cons, List.any_cons]
    cases view.carries c with
    | true => rfl
    | false => simpa using ih

/-! ## Changes that are not seen -/

/-- A change of criteria, at one place, that a view does not see. -/
inductive Change : Criteria → Criteria → Prop where
  /-- A node that carries no entry comes into the chain, in front, between or behind. -/
  | node (front back : List Node) {n : Node} (h : view.carriesAt n = false) :
      Change ⟨front ++ back⟩ ⟨front ++ n :: back⟩
  /-- A node gets other data that is not seen. -/
  | data (front back : List Node) {n m : Node} (h : view.erase n = view.erase m) :
      Change ⟨front ++ n :: back⟩ ⟨front ++ m :: back⟩
  /-- Criteria that carry no entry are attached to a node. -/
  | attached (front back : List Node) (n : Node) (left right : List Criteria) {c : Criteria}
      (h : view.carries c = false) :
      Change ⟨front ++ { n with subCriteria := left ++ right } :: back⟩
        ⟨front ++ { n with subCriteria := left ++ c :: right } :: back⟩
  /-- The change is in criteria that are attached to a node. -/
  | inside (front back : List Node) (n : Node) (left right : List Criteria) {c d : Criteria}
      (h : Change c d) :
      Change ⟨front ++ { n with subCriteria := left ++ c :: right } :: back⟩
        ⟨front ++ { n with subCriteria := left ++ d :: right } :: back⟩

variable {view}

lemma carries_eq_of_project_eq {c d : Criteria} (h : view.project c = view.project d) :
    view.carries c = view.carries d := by
  obtain ⟨ns⟩ := c
  obtain ⟨ms⟩ := d
  rw [project_mk, project_mk, Criteria.mk.injEq] at h
  have hany : (!ns.any view.carriesAt) = !ms.any view.carriesAt := by
    rw [← projectNodes_isEmpty, h, projectNodes_isEmpty]
  rw [carries_mk, carries_mk, Bool.not_inj hany]

/-- What stands in for one node of a chain may be projected alone. -/
lemma project_congr (front back ns ms : List Node)
    (h : view.projectNodes ns = view.projectNodes ms) :
    view.project ⟨front ++ (ns ++ back)⟩ = view.project ⟨front ++ (ms ++ back)⟩ := by
  rw [project_mk, project_mk, projectNodes_append, projectNodes_append, projectNodes_append,
    projectNodes_append, h]

/-- Nodes that look the same, but for what is attached to them, have one projection if what is
attached has. -/
lemma projectNodes_singleton_congr {n m : Node} (hentries : view.entries n = view.entries m)
    (herase : ∀ cs : List Criteria,
      { view.erase n with subCriteria := cs } = { view.erase m with subCriteria := cs })
    (hattached : view.projectAll n.subCriteria = view.projectAll m.subCriteria) :
    view.projectNodes [n] = view.projectNodes [m] := by
  have hany : (!n.subCriteria.any view.carries) = !m.subCriteria.any view.carries := by
    rw [← projectAll_isEmpty, hattached, projectAll_isEmpty]
  have hcarries : view.carriesAt n = view.carriesAt m := by
    rw [carriesAt, carriesAt, hentries, Bool.not_inj hany]
  have hat : view.projectAt n = view.projectAt m := by
    rw [projectAt, projectAt, hattached, herase]
  rw [projectNodes_cons, projectNodes_cons, hcarries, hat]

lemma subCriteria_erase (n : Node) : (view.erase n).subCriteria = n.subCriteria := by
  have h := congrArg Node.subCriteria (view.erase_attach n n.subCriteria)
  cases n
  exact h

/-- A node with other criteria attached has the same projection if these have. -/
lemma projectNodes_attach_congr (n : Node) {cs ds : List Criteria}
    (h : view.projectAll cs = view.projectAll ds) :
    view.projectNodes [{ n with subCriteria := cs }] =
      view.projectNodes [{ n with subCriteria := ds }] := by
  refine projectNodes_singleton_congr ?_ (fun es => ?_) h
  · rw [view.entries_attach, view.entries_attach]
  · rw [view.erase_attach, view.erase_attach]

/-- A change that is not seen does not change the projection. -/
theorem project_eq_of_change {c d : Criteria} (h : view.Change c d) :
    view.project c = view.project d := by
  induction h with
  | @node front back n hn =>
    refine project_congr front back [] [n] ?_
    rw [projectNodes_cons, hn, projectNodes_nil]
    rfl
  | @data front back n m herase =>
    refine project_congr front back [n] [m] ?_
    have hattached : n.subCriteria = m.subCriteria := by
      rw [← subCriteria_erase n, herase, subCriteria_erase]
    have hentries : view.entries n = view.entries m := by
      rw [← view.entries_erase n, herase, view.entries_erase m]
    exact projectNodes_singleton_congr hentries (fun cs => by rw [herase]) (by rw [hattached])
  | @attached front back n left right c hc =>
    refine project_congr front back [_] [_] (projectNodes_attach_congr n ?_)
    rw [projectAll_append, projectAll_append, projectAll_cons, hc]
    rfl
  | @inside front back n left right c d _ ih =>
    refine project_congr front back [_] [_] (projectNodes_attach_congr n ?_)
    rw [projectAll_append, projectAll_append, projectAll_cons, projectAll_cons, ih,
      carries_eq_of_project_eq ih]

end View

/-- The query projection of criteria: their query entries with all that a query makes of them. -/
def Criteria.queryProjection (criteria : Criteria) : Criteria := View.query.project criteria

/-- The filter projection of criteria: their filter entries with all that a filter makes of
them. -/
def Criteria.filterProjection (criteria : Criteria) : Criteria := View.filter.project criteria

end SearchCriteria
