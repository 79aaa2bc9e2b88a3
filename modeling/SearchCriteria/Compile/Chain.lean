/-
# Compiling chains

A chain is compiled node by node.  The clauses of a node are its own clause, which joins its
entries, and what its sub-criteria are compiled into; each goes to the occurrence that the node
has.  There are two passes over criteria, one for the query and one for the filter.  They differ
in the entries they look at and in two rules:

* in the query an alternative may match even if it is negated, in the filter a negated node may
  not match even if it is an alternative;
* the query holds back the first clause that comes from entries until the end of the chain.  It
  goes in front, and it becomes an alternative itself if all other clauses are.
-/
import SearchCriteria.Compile.FilterLeaf
import SearchCriteria.Compile.Run
import SearchCriteria.Criteria.Basic

namespace SearchCriteria

open Numeric

namespace Clauses

/-- The query that a list of clauses amounts to: none without clauses, a lone clause that has to
match or may match as it is, and a combination otherwise. -/
def collapse (cs : Clauses Query) : Option Query :=
  match cs with
  | ⟨[], [], []⟩ => none
  | ⟨[q], [], []⟩ => some q
  | ⟨[], [q], []⟩ => some q
  | cs => some (.bool cs none)

end Clauses

/-- What a compilation does with the parts of a criteria. -/
structure Pass where
  /-- What the criteria are compiled into. -/
  target : Target
  /-- The entries of a node that are compiled. -/
  entries : Node → List Entry
  /-- The clause of one entry. -/
  leaf : Field → Entry → Except CriteriaError Query
  /-- The boost that a node's own clause gets. -/
  boost : Node → Option Binary32
  /-- The occurrence of a node's clauses. -/
  occur : Node → Occur
  /-- Whether the first own clause is held back. -/
  holdsFirst : Bool
  /-- The score mode of nested clauses. -/
  mode : ScoreMode

namespace Pass

/-- The pass that compiles the query. -/
def query (config : Config) : Pass where
  target := .query
  entries node := node.queryEntries
  leaf := Compile.queryLeaf
  boost node := node.boost
  occur node := if node.isOr then .should else if node.negating then .mustNot else .must
  holdsFirst := true
  mode := config.nestedScoreMode

/-- The pass that compiles the filter. -/
def filter (config : Config) : Pass where
  target := .filter
  entries node := node.filterEntries
  leaf := Compile.filterLeaf config
  boost _ := none
  occur node := if node.negating then .mustNot else if node.isOr then .should else .must
  holdsFirst := false
  mode := config.nestedScoreMode

/-- Clauses that all have to match; a lone one stays as it is. -/
def join : List Query → Query
  | [q] => q
  | qs => .bool { must := qs } none

/-- The clause of a node whose entries have the given clauses. -/
def finish (pass : Pass) (node : Node) (field : Field) (leaves : List Query) : Query :=
  let clause := match pass.boost node with
    | some b => (join leaves).withBoost b
    | none => join leaves
  match field.path with
  | some path => .nested path clause pass.mode
  | none => clause

/-- The clause of a node's own entries, if it has any. -/
def ownClause (pass : Pass) (node : Node) : Except CriteriaError (Option Query) :=
  match pass.entries node with
  | [] => .ok none
  | first :: rest =>
    match node.field with
    | none => .error (.invalidEntry node.fieldName first.operator .noField)
    | some field => do
      let leaves ← (first :: rest).mapM (pass.leaf field)
      .ok (some (pass.finish node field leaves))

end Pass

/-- The clauses of a chain so far, and the clause that is held back with the negation of its
node. -/
structure Walk where
  /-- The clause that is held back. -/
  held : Option (Query × Bool) := none
  /-- The clauses. -/
  clauses : Clauses Query := {}

namespace Walk

/-- Puts a clause behind those of its occurrence. -/
def route (walk : Walk) (occur : Occur) (clause : Query) : Run Walk := do
  Run.tell (.routed occur clause)
  pure { walk with clauses := walk.clauses.push occur clause }

/-- Takes up a node's own clause: the first one is held back if the pass says so. -/
def addOwn (pass : Pass) (node : Node) (walk : Walk) : Option Query → Run Walk
  | none => pure walk
  | some clause =>
    if pass.holdsFirst && walk.held.isNone then
      pure { walk with held := some (clause, node.negating) }
    else walk.route (pass.occur node) clause

/-- Takes up what a sub-criteria is compiled into. -/
def addSub (occur : Occur) (walk : Walk) : Option Query → Run Walk
  | none => pure walk
  | some clause => walk.route occur clause

/-- The occurrence of the clause that was held back. -/
def heldOccur (walk : Walk) (negating : Bool) : Occur :=
  if walk.clauses.isShouldOnly then .should else if negating then .mustNot else .must

/-- All clauses, with the one that was held back in front. -/
def close (walk : Walk) : Run (Clauses Query) :=
  match walk.held with
  | none => pure walk.clauses
  | some (clause, negating) => do
    let occur := walk.heldOccur negating
    Run.tell (.prepended occur clause)
    pure (walk.clauses.prepend occur clause)

end Walk

namespace Compile

mutual

/-- Compiles a chain. -/
def chain (pass : Pass) : Criteria → Run (Option Query)
  | ⟨ns⟩ => do
    let walk ← nodes pass ns {}
    let clauses ← walk.close
    pure clauses.collapse

/-- Walks over the nodes of a chain. -/
def nodes (pass : Pass) : List Node → Walk → Run Walk
  | [], walk => pure walk
  | ⟨field, conjunction, negating, boost, queryEntries, filterEntries, subs⟩ :: rest, walk => do
    let node : Node :=
      ⟨field, conjunction, negating, boost, queryEntries, filterEntries, subs⟩
    let own ← Run.of (pass.ownClause node)
    let walk ← walk.addOwn pass node own
    let walk ← subCriteria pass (pass.occur node) subs walk
    nodes pass rest walk

/-- Walks over the criteria attached to a node. -/
def subCriteria (pass : Pass) (occur : Occur) : List Criteria → Walk → Run Walk
  | [], walk => pure walk
  | criteria :: rest, walk => do
    let sub ← chain pass criteria
    let walk ← walk.addSub occur sub
    subCriteria pass occur rest walk

end

/-- Compiles a criteria, and tells when it starts and when it is done. -/
def run (pass : Pass) (criteria : Criteria) : Run (Option Query) := do
  Run.tell (.started pass.target criteria.chain.length)
  let result ← chain pass criteria
  Run.tell (.finished pass.target result)
  pure result

end Compile

/-- What criteria are compiled into, for the score and for filtering. -/
structure Compiled where
  /-- The query, if there are entries for it. -/
  query : Option Query
  /-- The filter, if there are entries for it. -/
  filter : Option Query
deriving BEq

/-- Whether there is neither a query nor a filter. -/
def Compiled.isEmpty (compiled : Compiled) : Bool :=
  compiled.query.isNone && compiled.filter.isNone

namespace Criteria

/-- Compiles the entries for the query. -/
def compileQuery (config : Config) (criteria : Criteria) : Run (Option Query) :=
  Compile.run (.query config) criteria

/-- Compiles the entries for the filter. -/
def compileFilter (config : Config) (criteria : Criteria) : Run (Option Query) :=
  Compile.run (.filter config) criteria

/-- Compiles the query and then the filter. -/
def compile (config : Config) (criteria : Criteria) : Except CriteriaError Compiled := do
  let query ← (criteria.compileQuery config).result
  let filter ← (criteria.compileFilter config).result
  .ok ⟨query, filter⟩

end Criteria

end SearchCriteria
