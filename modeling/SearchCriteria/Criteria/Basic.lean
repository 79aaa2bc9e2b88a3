/-
# Criteria

A criteria is a chain of nodes.  Each node is about one field, or about none if it only groups;
it says how it combines with the nodes before it, and carries entries and criteria of its own.
The first node of a chain is its root, and new entries go to the last one.
-/
import SearchCriteria.Entry
import SearchCriteria.Field

namespace SearchCriteria

open Numeric

/-- How a node combines with the nodes before it. -/
inductive Conjunction where
  /-- Both have to match. -/
  | and
  /-- Either may match. -/
  | or
deriving DecidableEq, Repr

/-- The name of a conjunction. -/
def Conjunction.name : Conjunction → String
  | and => "and"
  | or => "or"

mutual

/-- A chain of nodes, the root first. -/
structure Criteria where
  /-- The nodes. -/
  chain : List Node

/-- One element of a chain. -/
structure Node where
  /-- The field that the entries are about; a node that only groups has none. -/
  field : Option Field
  /-- How the node combines with the nodes before it. -/
  conjunction : Conjunction
  /-- Whether the node is negated. -/
  negating : Bool
  /-- The weight of the node's entries in the score. -/
  boost : Option Binary32
  /-- The entries that are compiled into the query. -/
  queryEntries : List Entry
  /-- The entries that are compiled into the filter. -/
  filterEntries : List Entry
  /-- The criteria attached to the node. -/
  subCriteria : List Criteria

end

namespace Node

/-- The node that holds nothing yet. -/
def bare (field : Option Field) (conjunction : Conjunction) : Node :=
  ⟨field, conjunction, false, none, [], [], []⟩

/-- The name of the field, or a stand-in for it. -/
def fieldName (node : Node) : String :=
  match node.field with
  | some field => field.name
  | none => "<none>"

/-- Whether the node is an alternative to the nodes before it. -/
def isOr (node : Node) : Bool := node.conjunction == .or

/-- Whether the node has to match together with the nodes before it. -/
def isAnd (node : Node) : Bool := node.conjunction == .and

end Node

namespace Criteria

mutual

/-- Whether no node carries any entry, at any depth. -/
def isEmpty : Criteria → Bool
  | ⟨chain⟩ => nodesEmpty chain

/-- Whether none of the nodes carries any entry. -/
def nodesEmpty : List Node → Bool
  | [] => true
  | ⟨_, _, _, _, queryEntries, filterEntries, subCriteria⟩ :: nodes =>
    queryEntries.isEmpty && filterEntries.isEmpty && allEmpty subCriteria && nodesEmpty nodes

/-- Whether all of the criteria are empty. -/
def allEmpty : List Criteria → Bool
  | [] => true
  | criteria :: rest => isEmpty criteria && allEmpty rest

end

mutual

/-- Equality of criteria: equal chains, with values and boosts compared as numbers. -/
protected def beq : Criteria → Criteria → Bool
  | ⟨as⟩, ⟨bs⟩ => Criteria.beqNodes as bs

/-- Equality of chains, node by node. -/
protected def beqNodes : List Node → List Node → Bool
  | [], [] => true
  | ⟨field, conjunction, negating, boost, queryEntries, filterEntries, subCriteria⟩ :: as,
      b :: bs =>
    field == b.field && conjunction == b.conjunction && negating == b.negating &&
      boost == b.boost && queryEntries == b.queryEntries && filterEntries == b.filterEntries &&
      Criteria.beqAll subCriteria b.subCriteria && Criteria.beqNodes as bs
  | _, _ => false

/-- Equality of lists of criteria, one by one. -/
protected def beqAll : List Criteria → List Criteria → Bool
  | [], [] => true
  | a :: as, b :: bs => Criteria.beq a b && Criteria.beqAll as bs
  | _, _ => false

end

instance : BEq Criteria := ⟨Criteria.beq⟩

end Criteria

end SearchCriteria
