/-
# Configuration and version

What the compiled clauses take from the configuration and not from the criteria, and the version
that the library gives itself.
-/

namespace SearchCriteria

/-- The version of the library, as a program can ask for it. -/
def version : String := "0.1.0"

/-- How the scores of the nested documents that match are combined. -/
inductive ScoreMode where
  /-- Their average. -/
  | avg
  /-- The highest. -/
  | max
  /-- The lowest. -/
  | min
  /-- Their sum. -/
  | sum
  /-- They do not count. -/
  | none
deriving DecidableEq, Repr

/-- The name of a score mode. -/
def ScoreMode.name : ScoreMode → String
  | avg => "avg"
  | max => "max"
  | min => "min"
  | sum => "sum"
  | none => "none"

/-- All score modes, in the order in which they are listed. -/
def ScoreMode.all : List ScoreMode := [avg, max, min, sum, none]

/-- How distances on the earth are calculated. -/
inductive DistanceType where
  /-- As if the earth were flat, which is fast. -/
  | plane
  /-- Along great circles. -/
  | arc
deriving DecidableEq, Repr

/-- The name of a distance type. -/
def DistanceType.name : DistanceType → String
  | plane => "plane"
  | arc => "arc"

/-- All distance types, in the order in which they are listed. -/
def DistanceType.all : List DistanceType := [plane, arc]

/-- The configuration of the compilation. -/
structure Config where
  /-- The score mode of every nested clause. -/
  nestedScoreMode : ScoreMode := .avg
  /-- The distance type of every geographic distance clause. -/
  geoDistanceType : DistanceType := .plane
deriving DecidableEq, Repr

end SearchCriteria
