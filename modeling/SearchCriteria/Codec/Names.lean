/-
# Names in JSON

The types that are written as the name of one of their values.
-/
import SearchCriteria.Criteria.Basic
import SearchCriteria.Json.Reader
import SearchCriteria.Query.Basic

namespace SearchCriteria

/-- Reads the name of one of the values. -/
def readName {α : Type} (name : α → String) (all : List α) : Reader α :=
  readChoice (all.map fun a => Variant.bare (name a) a)

/-- The name of a field kind in JSON. -/
def FieldKind.name : FieldKind → String
  | analyzed => "default"
  | keyword => "keyword"

/-- All field kinds, in the order in which they are listed. -/
def FieldKind.all : List FieldKind := [analyzed, keyword]

/-- Reads a field kind. -/
def FieldKind.read : Reader FieldKind := readName name all

/-- All conjunctions, in the order in which they are listed. -/
def Conjunction.all : List Conjunction := [and, or]

/-- Reads a conjunction. -/
def Conjunction.read : Reader Conjunction := readName name all

/-- Reads an operator. -/
def Operator.read : Reader Operator := readName name all

/-- Reads a match operator. -/
def MatchOperator.read : Reader MatchOperator := readName name all

/-- Reads a score mode. -/
def ScoreMode.read : Reader ScoreMode := readName name all

/-- Reads a distance type. -/
def DistanceType.read : Reader DistanceType := readName name all

/-- Reads an occurrence. -/
def Occur.read : Reader Occur := readName name all

/-- All units, in the order in which they are listed. -/
def DistanceUnit.all : List DistanceUnit := [kilometers, miles]

/-- Reads a unit. -/
def DistanceUnit.read : Reader DistanceUnit := readName name all

end SearchCriteria
