/-
# Criteria as trees

The nodes of a criteria at every depth, in the order of a walk that takes a node before the
criteria attached to it and these before the next node of the chain, and the principle of
induction over the criteria attached to nodes.
-/
import Mathlib.Tactic.Lemma
import SearchCriteria.Criteria.Basic

namespace SearchCriteria

namespace Criteria

/-- Induction over criteria: what holds of a chain whenever it holds of all criteria attached to
the nodes of the chain holds of every criteria. -/
theorem induction {P : Criteria → Prop}
    (step : ∀ ns, (∀ n ∈ ns, ∀ c ∈ n.subCriteria, P c) → P ⟨ns⟩) (c : Criteria) : P c := by
  refine @Criteria.rec P (fun n => ∀ c ∈ n.subCriteria, P c)
    (fun ns => ∀ n ∈ ns, ∀ c ∈ n.subCriteria, P c) (fun cs => ∀ c ∈ cs, P c)
    ?chain ?node ?noNode ?nodes ?noCriteria ?all c
  case chain => exact fun ns ih => step ns ih
  case node => exact fun _ _ _ _ _ _ _ ih => ih
  case noNode => simp
  case nodes => exact fun _ _ ihn ihs => List.forall_mem_cons.2 ⟨ihn, ihs⟩
  case noCriteria => simp
  case all => exact fun _ _ ihc ihs => List.forall_mem_cons.2 ⟨ihc, ihs⟩

mutual

/-- The nodes of a criteria at every depth. -/
def allNodes : Criteria → List Node
  | ⟨chain⟩ => allNodesOf chain

/-- The nodes of a chain and of the criteria attached to them, at every depth. -/
def allNodesOf : List Node → List Node
  | [] => []
  | ⟨field, conjunction, negating, boost, queryEntries, filterEntries, subCriteria⟩ :: rest =>
    ⟨field, conjunction, negating, boost, queryEntries, filterEntries, subCriteria⟩ ::
      (allNodesIn subCriteria ++ allNodesOf rest)

/-- The nodes of several criteria at every depth. -/
def allNodesIn : List Criteria → List Node
  | [] => []
  | criteria :: rest => allNodes criteria ++ allNodesIn rest

end

lemma allNodes_mk (chain : List Node) : allNodes ⟨chain⟩ = allNodesOf chain := by
  rw [allNodes]

@[simp] lemma allNodesOf_nil : allNodesOf [] = [] := by
  rw [allNodesOf]

@[simp] lemma allNodesOf_cons (node : Node) (rest : List Node) :
    allNodesOf (node :: rest) =
      node :: (allNodesIn node.subCriteria ++ allNodesOf rest) := by
  cases node
  rw [allNodesOf]

lemma allNodesOf_append (ns ms : List Node) :
    allNodesOf (ns ++ ms) = allNodesOf ns ++ allNodesOf ms := by
  induction ns with
  | nil => rw [List.nil_append, allNodesOf_nil, List.nil_append]
  | cons n ns ih =>
    rw [List.cons_append, allNodesOf_cons, allNodesOf_cons, ih, List.cons_append, List.append_assoc]

@[simp] lemma allNodesIn_nil : allNodesIn [] = [] := by
  rw [allNodesIn]

@[simp] lemma allNodesIn_cons (criteria : Criteria) (rest : List Criteria) :
    allNodesIn (criteria :: rest) = allNodes criteria ++ allNodesIn rest := by
  rw [allNodesIn]

lemma mem_allNodesIn {m : Node} {cs : List Criteria} :
    m ∈ allNodesIn cs ↔ ∃ c ∈ cs, m ∈ allNodes c := by
  induction cs with
  | nil => simp
  | cons c cs ih => simp [ih]

lemma mem_allNodesOf {m : Node} {ns : List Node} :
    m ∈ allNodesOf ns ↔ ∃ n ∈ ns, m = n ∨ m ∈ allNodesIn n.subCriteria := by
  induction ns with
  | nil => simp
  | cons n ns ih =>
    simp [ih, or_assoc]

lemma mem_allNodes_of_chain {n : Node} {ns : List Node} (hn : n ∈ ns) :
    n ∈ allNodes ⟨ns⟩ := by
  rw [allNodes_mk]
  exact mem_allNodesOf.2 ⟨n, hn, .inl rfl⟩

lemma mem_allNodes_of_attached {n m : Node} {ns : List Node} {c : Criteria} (hn : n ∈ ns)
    (hc : c ∈ n.subCriteria) (hm : m ∈ c.allNodes) : m ∈ allNodes ⟨ns⟩ := by
  rw [allNodes_mk]
  exact mem_allNodesOf.2 ⟨n, hn, .inr (mem_allNodesIn.2 ⟨c, hc, hm⟩)⟩

/-- What is said of all nodes is said of each node of the chain and of all nodes of whatever is
attached to it. -/
lemma forall_allNodes {P : Node → Prop} {ns : List Node} :
    (∀ m ∈ allNodes ⟨ns⟩, P m) ↔
      ∀ n ∈ ns, P n ∧ ∀ c ∈ n.subCriteria, ∀ m ∈ c.allNodes, P m := by
  constructor
  · intro h n hn
    exact ⟨h n (mem_allNodes_of_chain hn), fun c hc m hm => h m (mem_allNodes_of_attached hn hc hm)⟩
  · intro h m hm
    rw [allNodes_mk] at hm
    obtain ⟨n, hn, rfl | hm⟩ := mem_allNodesOf.1 hm
    · exact (h m hn).1
    · obtain ⟨c, hc, hm⟩ := mem_allNodesIn.1 hm
      exact (h n hn).2 c hc m hm

/-- Every chain has a root, at every depth. -/
inductive Rooted : Criteria → Prop where
  /-- The chain has a root, and so has every criteria attached to one of its nodes. -/
  | chain {ns : List Node} (root : ns ≠ []) (attached : ∀ n ∈ ns, ∀ c ∈ n.subCriteria, Rooted c) :
    Rooted ⟨ns⟩

end Criteria

end SearchCriteria
