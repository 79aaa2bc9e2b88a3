/-
# Criteria of the same shape

Two criteria are *alike* if they are the same tree and their nodes are related one by one, whatever
the relation is.  Taking a function over the nodes of criteria gives criteria of the same shape.

* `Criteria.Alike` and `Node.Alike`: criteria and nodes that are related at every depth;
* `alike_self`: criteria are alike with themselves if each of their nodes is related to itself;
* `Criteria.mapNodes`: a function taken over the nodes at every depth, and `alike_mapNodes`.
-/
import Mathlib.Data.List.Forall2
import SearchCriteria.Proofs.Criteria.Tree

namespace SearchCriteria

mutual

/-- The nodes of the chains are alike, one by one. -/
inductive Criteria.Alike (R : Node → Node → Prop) : Criteria → Criteria → Prop where
  /-- Alike chains. -/
  | chain {ns ms : List Node} (nodes : List.Forall₂ (Node.Alike R) ns ms) :
    Criteria.Alike R ⟨ns⟩ ⟨ms⟩

/-- The nodes are related, and what is attached to them is alike. -/
inductive Node.Alike (R : Node → Node → Prop) : Node → Node → Prop where
  /-- Alike nodes. -/
  | node {n m : Node} (related : R n m)
    (attached : List.Forall₂ (Criteria.Alike R) n.subCriteria m.subCriteria) : Node.Alike R n m

end

namespace Criteria

variable {R : Node → Node → Prop}

lemma alike_mk_iff {ns ms : List Node} :
    Alike R ⟨ns⟩ ⟨ms⟩ ↔ List.Forall₂ (Node.Alike R) ns ms :=
  ⟨fun ⟨h⟩ => h, .chain⟩

lemma alike_self {c : Criteria} (h : ∀ n ∈ c.allNodes, R n n) : c.Alike R c := by
  induction c using Criteria.induction with
  | step ns ih =>
    rw [forall_allNodes] at h
    refine .chain (List.forall₂_same.2 fun n hn => .node (h n hn).1 ?_)
    exact List.forall₂_same.2 fun c hc => ih n hn c hc ((h n hn).2 c hc)

lemma Alike.mono {S : Node → Node → Prop} (hRS : ∀ n m, R n m → S n m) {c d : Criteria}
    (h : c.Alike R d) : c.Alike S d := by
  induction c using Criteria.induction generalizing d with
  | step ns ih =>
    obtain ⟨hnodes⟩ := h
    refine .chain (((List.forall₂_and_left _ _).2 ⟨ih, hnodes⟩).imp ?_)
    rintro n m ⟨ihn, hrelated, hattached⟩
    refine .node (hRS n m hrelated) (((List.forall₂_and_left _ _).2 ⟨ihn, hattached⟩).imp ?_)
    exact fun c d ⟨ihc, hcd⟩ => ihc hcd

/-! ## Functions over nodes -/

section MapNodes

variable (g : Node → Node)

mutual

/-- The criteria with `g` taken over all nodes; what is attached to a node stays attached. -/
def mapNodes : Criteria → Criteria
  | ⟨chain⟩ => ⟨mapChain chain⟩

/-- The nodes of a chain with `g` taken over them and over all nodes below. -/
def mapChain : List Node → List Node
  | [] => []
  | ⟨field, conjunction, negating, boost, queryEntries, filterEntries, subs⟩ :: rest =>
    { g ⟨field, conjunction, negating, boost, queryEntries, filterEntries, subs⟩ with
      subCriteria := mapAll subs } :: mapChain rest

/-- Several criteria with `g` taken over all nodes. -/
def mapAll : List Criteria → List Criteria
  | [] => []
  | criteria :: rest => mapNodes criteria :: mapAll rest

end

lemma mapAll_eq_map (cs : List Criteria) : mapAll g cs = cs.map (mapNodes g) := by
  induction cs with
  | nil => rw [mapAll, List.map_nil]
  | cons c cs ih => rw [mapAll, ih, List.map_cons]

lemma mapNodes_mk (ns : List Node) : mapNodes g ⟨ns⟩ =
    ⟨ns.map fun n => { g n with subCriteria := n.subCriteria.map (mapNodes g) }⟩ := by
  rw [mapNodes]
  congr 1
  induction ns with
  | nil => rw [mapChain, List.map_nil]
  | cons n ns ih =>
    cases n
    rw [mapChain, ih, List.map_cons, mapAll_eq_map]

variable {g}

/-- Criteria are alike with what a function makes of them if each node is related to what it makes
of the node. -/
lemma alike_mapNodes {c : Criteria}
    (h : ∀ n ∈ c.allNodes, ∀ cs, R n { g n with subCriteria := cs }) :
    c.Alike R (c.mapNodes g) := by
  induction c using Criteria.induction with
  | step ns ih =>
    rw [forall_allNodes] at h
    rw [mapNodes_mk, alike_mk_iff, List.forall₂_map_right_iff, List.forall₂_same]
    refine fun n hn => .node ((h n hn).1 _) ?_
    rw [List.forall₂_map_right_iff, List.forall₂_same]
    exact fun c hc => ih n hn c hc ((h n hn).2 c hc)

end MapNodes

end Criteria

end SearchCriteria
