/-
# Clauses of filter entries

Both operators of the filter take a list of two items: a location and a distance, or the two
corners of a box.  Locations and distances are given as texts or as typed values.
-/
import SearchCriteria.Compile.QueryLeaf

namespace SearchCriteria

open Text

namespace Compile

/-- The two items of an entry's value. -/
def pair (field : Field) (entry : Entry) : Except CriteriaError (Value × Value) := do
  match ← entry.requiredValue field with
  | .list [first, second] => .ok (first, second)
  | v => entry.refuse field (.unexpected .pair v.typeName)

/-- Passes a geographic error on as the complaint about an entry. -/
def complain {α : Type} (field : Field) (entry : Entry) (result : Except GeoError α) :
    Except CriteriaError α :=
  match result with
  | .ok a => .ok a
  | .error cause => entry.refuse field (.geo cause)

/-- The location that a value stands for. -/
def location (field : Field) (entry : Entry) : Value → Except CriteriaError Location
  | .text s => complain field entry (Location.ofText s)
  | .point p => complain field entry ((GeoPoint.checked p.lat p.lon).map .point)
  | v => entry.refuse field (.unexpected .location v.typeName)

/-- The distance text that a value stands for. -/
def distance (field : Field) (entry : Entry) : Value → Except CriteriaError String
  | .text s =>
    if allBlank s then entry.refuse field (.unexpected .distance (Value.text s).typeName)
    else .ok s
  | .distance d => if d.isUsable then .ok d.toText else entry.refuse field (.badAmount d.value)
  | v => entry.refuse field (.unexpected .distance v.typeName)

/-- The clause of an entry for the filter. -/
def filterLeaf (config : Config) (field : Field) (entry : Entry) : Except CriteriaError Query :=
  match entry.operator with
  | .within => do
    let (center, radius) ← pair field entry
    let center ← location field entry center
    let radius ← distance field entry radius
    .ok (.leaf (.geoDistance ⟨field.name, radius, config.geoDistanceType, center⟩))
  | .boundingBox => do
    let (topLeft, bottomRight) ← pair field entry
    let topLeft ← location field entry topLeft
    let bottomRight ← location field entry bottomRight
    let box ← complain field entry (GeoBoxLeaf.checked field.name topLeft bottomRight)
    .ok (.leaf (.geoBox box))
  | operator => .error (.unsupported (.inFilter operator field.name))

end Compile

end SearchCriteria
