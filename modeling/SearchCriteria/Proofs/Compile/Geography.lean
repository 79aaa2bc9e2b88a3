/-
# Geography in filters

A filter is about places on the earth, at every depth, and a criteria whose entries all ask for
places is compiled.

* `asksForPlaces_of_compileFilter`: what every clause of a compiled filter asks for;
* `exists_compileFilter_iff`: which criteria are compiled.
-/
import SearchCriteria.Proofs.Compile.NormalForm
import SearchCriteria.Proofs.Compile.Refusal

namespace SearchCriteria

open Numeric Outcome

namespace Criteria

variable {config : Config} {c : Criteria}

lemma asksForPlaces_of_compileFilter {f : Query} {l : Leaf}
    (h : (c.compileFilter config).result = .ok (some f)) (hl : .leaf l ∈ f.parts) :
    l.AsksForPlaces config :=
  (places_of_compileFilter h _ hl).2

lemma exists_compileFilter_iff : (∃ r, (c.compileFilter config).result = .ok r) ↔
    ∀ n ∈ c.allNodes, n.filterEntries ≠ [] → ∃ field, n.field = some field ∧
      ∀ entry ∈ n.filterEntries, ∃ l, entry.Places config field.name l := by
  rw [compileFilter, Pass.exists_ok_iff]
  refine forall₃_congr fun n hn hne => exists_congr fun field => and_congr_right fun hfield => ?_
  refine forall₂_congr fun entry hentry => ?_
  constructor
  · rintro ⟨q, hq⟩
    obtain ⟨l, hplaces, -⟩ := Compile.filterLeaf_eq_ok_iff.1 hq
    exact ⟨l, hplaces⟩
  · rintro ⟨l, hplaces⟩
    exact ⟨_, Compile.filterLeaf_eq_ok_iff.2 ⟨l, hplaces, rfl⟩⟩

/-- Every clause of a compiled filter, at every depth, asks for places on the earth.  There is a
clause for an entry if and only if its parts stand for places and distances, and corners are in
order.  A filter is compiled if and only if there are clauses for all entries, all of them on
fields: nothing else is refused. -/
theorem compileFilter_geography (config : Config) (c : Criteria) :
    (∀ f, (c.compileFilter config).result = .ok (some f) →
      ∀ l, .leaf l ∈ f.parts → l.AsksForPlaces config) ∧
    (∀ field entry q, Compile.filterLeaf config field entry = .ok q ↔
      ∃ l, entry.Places config field.name l ∧ q = .leaf l) ∧
    ((∃ r, (c.compileFilter config).result = .ok r) ↔
      ∀ n ∈ c.allNodes, n.filterEntries ≠ [] → ∃ field, n.field = some field ∧
        ∀ entry ∈ n.filterEntries, ∃ l, entry.Places config field.name l) :=
  ⟨fun _ hf _ hl => asksForPlaces_of_compileFilter hf hl,
    fun _ _ _ => Compile.filterLeaf_eq_ok_iff, exists_compileFilter_iff⟩

/-- Near an office, and in a box from a point down to a geohash cell. -/
def nearOffice : Criteria :=
  ⟨[{ Node.bare (some (.named "place")) .and with
      filterEntries := [
        .of .within (.list [.text "45.78, 3.09", .distance ⟨.ofInt .binary64 20, .miles⟩]),
        .of .boundingBox
          (.list [.point ⟨.ofInt .binary64 46, .ofInt .binary64 3⟩, .text "u0qvy"])] }]⟩

/-- Near a place beyond the pole. -/
def beyondPole : Criteria :=
  (on (.named "place")).within (.text "91,0") (.text "1km")

/-- The places near an office are filtered, and those beyond the pole are refused. -/
theorem compileFilter_nearOffice : (∃ r, (nearOffice.compileFilter {}).result = .ok r) ∧
    ¬∃ r, (beyondPole.compileFilter {}).result = .ok r := by
  constructor
  · refine (compileFilter_geography {} nearOffice).2.2.2 fun n hn _ => ?_
    obtain rfl : n = _ := List.mem_singleton.1 hn
    have hread : (Location.ofText "45.78, 3.09").toOption.isSome = true := by decide +kernel
    obtain ⟨center, hcenter⟩ := Option.isSome_iff_exists.1 hread
    have hradius : (⟨.ofInt .binary64 20, .miles⟩ : Distance).isUsable = true := by decide +kernel
    have hcorner : (⟨.ofInt .binary64 46, .ofInt .binary64 3⟩ : GeoPoint).InRange := by
      constructor <;> decide +kernel
    have hinOrder : CornersInOrder (.point ⟨.ofInt .binary64 46, .ofInt .binary64 3⟩)
        (.geohash "u0qvy") := by
      rintro _ _ _ ⟨⟩
    refine ⟨.named "place", rfl,
      List.forall_mem_cons.2 ⟨?within, List.forall_mem_singleton.2 ?box⟩⟩
    case within =>
      exact ⟨_, .within (.text (eq_ok_of_toOption hcenter))
        (.distance (Distance.isUsable_iff.1 hradius))⟩
    case box =>
      exact ⟨_, .boundingBox (.point (GeoPoint.inRange_iff.1 hcorner)) (.text rfl) hinOrder⟩
  · intro h
    obtain ⟨field, -, hentries⟩ := (compileFilter_geography {} beyondPole).2.2.1 h _
      (mem_allNodes_of_chain (List.mem_singleton_self _)) (List.cons_ne_nil _ _)
    obtain ⟨l, hplaces⟩ := hentries _ (List.mem_singleton_self _)
    have hrefused : (Location.ofText "91,0").toOption.isNone = true := by decide +kernel
    cases hplaces with
    | within locates measures =>
      cases locates with
      | text reads =>
        rw [reads] at hrefused
        cases hrefused

end Criteria

end SearchCriteria
