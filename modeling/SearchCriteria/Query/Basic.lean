/-
# Queries

A query is a leaf clause, a combination of clauses by occurrence, or a query on the nested
documents under a path.
-/
import SearchCriteria.Query.Leaf

namespace SearchCriteria

open Numeric

/-- What a clause means for the match of the combination that it belongs to. -/
inductive Occur where
  /-- The clause has to match. -/
  | must
  /-- The clause may match. -/
  | should
  /-- The clause may not match. -/
  | mustNot
deriving DecidableEq, Repr

/-- The name of an occurrence in JSON. -/
def Occur.name : Occur → String
  | must => "must"
  | should => "should"
  | mustNot => "must_not"

/-- All occurrences, in the order in which they are listed. -/
def Occur.all : List Occur := [must, should, mustNot]

/-- The name of an occurrence in the log. -/
def Occur.label : Occur → String
  | must => "Must"
  | should => "Should"
  | mustNot => "MustNot"

/-- Clauses sorted by their occurrence, in order. -/
structure Clauses (α : Type) where
  /-- The clauses that have to match. -/
  must : List α := []
  /-- The clauses that may match. -/
  should : List α := []
  /-- The clauses that may not match. -/
  mustNot : List α := []
deriving BEq

namespace Clauses

variable {α : Type}

/-- The clauses of one occurrence. -/
def of (cs : Clauses α) : Occur → List α
  | .must => cs.must
  | .should => cs.should
  | .mustNot => cs.mustNot

/-- Adds a clause behind those of its occurrence. -/
def push (cs : Clauses α) : Occur → α → Clauses α
  | .must, a => { cs with must := cs.must ++ [a] }
  | .should, a => { cs with should := cs.should ++ [a] }
  | .mustNot, a => { cs with mustNot := cs.mustNot ++ [a] }

/-- Adds a clause in front of those of its occurrence. -/
def prepend (cs : Clauses α) : Occur → α → Clauses α
  | .must, a => { cs with must := a :: cs.must }
  | .should, a => { cs with should := a :: cs.should }
  | .mustNot, a => { cs with mustNot := a :: cs.mustNot }

/-- The number of clauses. -/
def count (cs : Clauses α) : Nat :=
  cs.must.length + cs.should.length + cs.mustNot.length

/-- Whether there are clauses, and all of them may match. -/
def isShouldOnly (cs : Clauses α) : Bool :=
  !cs.should.isEmpty && cs.mustNot.isEmpty && cs.must.isEmpty

@[simp] theorem of_push_self (cs : Clauses α) (o : Occur) (a : α) :
    (cs.push o a).of o = cs.of o ++ [a] := by
  cases o <;> rfl

theorem of_push_ne (cs : Clauses α) {o o' : Occur} (h : o' ≠ o) (a : α) :
    (cs.push o a).of o' = cs.of o' := by
  cases o <;> cases o' <;> first | rfl | exact absurd rfl h

@[simp] theorem count_push (cs : Clauses α) (o : Occur) (a : α) :
    (cs.push o a).count = cs.count + 1 := by
  cases o <;> simp [push, count] <;> omega

@[simp] theorem count_prepend (cs : Clauses α) (o : Occur) (a : α) :
    (cs.prepend o a).count = cs.count + 1 := by
  cases o <;> simp [prepend, count] <;> omega

end Clauses

/-- A query expression. -/
inductive Query where
  /-- A leaf clause. -/
  | leaf (leaf : Leaf)
  /-- A combination of clauses. -/
  | bool (clauses : Clauses Query) (boost : Option Binary32)
  /-- A query on each of the nested documents under a path. -/
  | nested (path : String) (query : Query) (mode : ScoreMode)

namespace Query

/-- The name of the kind of query. -/
def typeName : Query → String
  | leaf l => l.typeName
  | bool _ _ => "bool"
  | nested _ _ _ => "nested"

/-- Whether the query holds no other queries. -/
def isLeaf : Query → Bool
  | leaf _ => true
  | _ => false

/-- The boost, if the query has one. -/
def boost : Query → Option Binary32
  | leaf l => l.boost
  | bool _ b => b
  | nested _ _ _ => none

/-- Gives a boost to a query that can carry one; others stay as they are. -/
def withBoost (b : Binary32) : Query → Query
  | leaf l => leaf (l.setBoost (some b))
  | bool cs _ => bool cs (some b)
  | nested path q mode => nested path q mode

/-- The clauses, if the query combines some. -/
def clauses? : Query → Option (Clauses Query)
  | bool cs _ => some cs
  | _ => none

/-- Adds a clause to a combination; other queries stay as they are. -/
def addClause (q : Query) (o : Occur) (clause : Query) : Query :=
  match q with
  | bool cs b => bool (cs.push o clause) b
  | q => q

mutual

/-- Equality of queries, with values and boosts compared as numbers. -/
protected def beq : Query → Query → Bool
  | leaf a, leaf b => a == b
  | bool ⟨must, should, mustNot⟩ b, bool cs' b' =>
    Query.beqAll must cs'.must && Query.beqAll should cs'.should &&
      Query.beqAll mustNot cs'.mustNot && b == b'
  | nested path q mode, nested path' q' mode' => path == path' && Query.beq q q' && mode == mode'
  | _, _ => false

/-- Equality of lists of queries, one by one. -/
protected def beqAll : List Query → List Query → Bool
  | [], [] => true
  | a :: as, b :: bs => Query.beq a b && Query.beqAll as bs
  | _, _ => false

end

instance : BEq Query := ⟨Query.beq⟩

mutual

/-- The text of a query: a plus marks what has to match, a minus what may not. -/
def toText : Query → String
  | leaf l => l.toText
  | bool ⟨must, should, mustNot⟩ b =>
    let parts := textsOf "+" must ++ textsOf "" should ++ textsOf "-" mustNot
    "(" ++ String.intercalate " " parts ++ ")" ++ boostText b
  | nested path q mode => "nested(" ++ path ++ ", " ++ toText q ++ ", " ++ mode.name ++ ")"

/-- The texts of queries, each behind a mark. -/
def textsOf (mark : String) : List Query → List String
  | [] => []
  | q :: qs => (mark ++ toText q) :: textsOf mark qs

end

instance : ToString Query := ⟨toText⟩

end Query

end SearchCriteria
