/-
# Values that are read

What has been read is *stable*: it is read back from what it is written as.  Its numbers are
finite, because JSON has no others.  A text in it reads as no moment and a list looks like neither a
point nor a distance, or it would have been read as one in the first place.

Main statements: `yields_value` for values, `yields_location` for locations.  Neither is written
with more levels than it was read from.
-/
import SearchCriteria.Proofs.Codec.Query
import SearchCriteria.Proofs.Json.Readers
import SearchCriteria.Proofs.Numeric.Rounding

namespace SearchCriteria

open Numeric Time Outcome

/-! ## Numbers and pairs -/

/-- A number that a text holds is finite. -/
lemma Json.isFinite_of_number? {j : Json} {levels : Nat} {x : Binary64} (hfits : j.Fits levels)
    (h : j.number? = some x) : x.isFinite = true := by
  cases j with
  | integer n =>
    rw [Json.Fits] at hfits
    rw [← Option.some.inj h]
    exact Binary.isFinite_ofInt (by omega)
  | float y =>
    rw [Json.Fits] at hfits
    rwa [← Option.some.inj h]
  | single y =>
    rw [Json.Fits] at hfits
    exact hfits.elim
  | _ => cases h

lemma Json.mem_of_only? {key : String} {ms : List (String × Json)} {j : Json}
    (h : Json.only? key ms = some j) : ∃ m ∈ ms, m.2 = j := by
  unfold Json.only? at h
  split at h
  case h_1 k value heq =>
    refine ⟨(k, value), List.mem_of_mem_filter (heq ▸ List.mem_singleton_self _), ?_⟩
    exact Option.some.inj h
  case h_2 => cases h

/-- Both members of a pair fit one level less. -/
lemma Json.fits_of_two? {first second : String} {j a b : Json} {levels : Nat}
    (hfits : j.Fits levels) (h : j.two? first second = some (a, b)) :
    ∃ below, levels = below + 1 ∧ a.Fits below ∧ b.Fits below := by
  unfold Json.two? at h
  split at h
  case h_1 =>
    obtain ⟨rfl, rfl⟩ := Prod.mk.inj (Option.some.inj h)
    rw [Json.Fits] at hfits
    obtain ⟨below, hlevels, hitems⟩ := hfits
    rw [Json.fitAll_iff] at hitems
    exact ⟨below, hlevels, hitems _ (by simp), hitems _ (by simp)⟩
  case h_2 members =>
    obtain ⟨a', ha, h⟩ := Option.bind_eq_some_iff.1 h
    obtain ⟨b', hb, h⟩ := Option.bind_eq_some_iff.1 h
    obtain ⟨rfl, rfl⟩ := Prod.mk.inj (Option.some.inj h)
    rw [Json.Fits] at hfits
    obtain ⟨below, hlevels, hmembers⟩ := hfits
    rw [Json.fitMembers_iff] at hmembers
    obtain ⟨m, hm, rfl⟩ := Json.mem_of_only? ha
    obtain ⟨m', hm', rfl⟩ := Json.mem_of_only? hb
    exact ⟨below, hlevels, hmembers m hm, hmembers m' hm'⟩
  case h_3 => cases h

lemma GeoPoint.fits_of_ofJson? {j : Json} {levels : Nat} {p : GeoPoint} (hfits : j.Fits levels)
    (h : ofJson? j = some p) :
    p.lat.isFinite = true ∧ p.lon.isFinite = true ∧ 1 ≤ levels := by
  obtain ⟨⟨a, b⟩, htwo, h⟩ := Option.bind_eq_some_iff.1 h
  obtain ⟨lat, hlat, h⟩ := Option.bind_eq_some_iff.1 h
  obtain ⟨lon, hlon, h⟩ := Option.bind_eq_some_iff.1 h
  obtain ⟨below, rfl, ha, hb⟩ := Json.fits_of_two? hfits htwo
  rw [← Option.some.inj h]
  exact ⟨Json.isFinite_of_number? ha hlat, Json.isFinite_of_number? hb hlon, by omega⟩

lemma Distance.fits_of_ofJson? {j : Json} {levels : Nat} {d : Distance} (hfits : j.Fits levels)
    (h : ofJson? j = some d) : d.value.isFinite = true ∧ 1 ≤ levels := by
  obtain ⟨⟨a, b⟩, htwo, h⟩ := Option.bind_eq_some_iff.1 h
  obtain ⟨value, hvalue, h⟩ := Option.bind_eq_some_iff.1 h
  obtain ⟨unit, -, h⟩ := Option.bind_eq_some_iff.1 h
  obtain ⟨below, rfl, ha, -⟩ := Json.fits_of_two? hfits htwo
  rw [← Option.some.inj h]
  exact ⟨Json.isFinite_of_number? ha hvalue, by omega⟩

namespace Value

/-! ## Values read from JSON values -/

/-- What is read is stable and written with no more levels than there are. -/
def IsRead (levels : Nat) (v : Value) : Prop :=
  v.IsStable ∧ v.encode.depth ≤ levels

/-- A point or a distance that is read has finite numbers. -/
lemma isRead_of_ofGeo? {j : Json} {levels : Nat} {v : Value} (hfits : j.Fits levels)
    (h : ofGeo? j = some v) : v.IsRead levels := by
  rcases ofGeo?_eq_some h with ⟨p, hp, rfl⟩ | ⟨d, hd, rfl⟩
  · obtain ⟨hlat, hlon, hlevels⟩ := GeoPoint.fits_of_ofJson? hfits hp
    refine ⟨isStable_of_not_list rfl (by simp [isPortable, hlat, hlon]), ?_⟩
    simpa [encode, GeoPoint.encode, Json.depth, Json.depthOfMembers] using hlevels
  · obtain ⟨hvalue, hlevels⟩ := Distance.fits_of_ofJson? hfits hd
    refine ⟨isStable_of_not_list rfl hvalue, ?_⟩
    simpa [encode, Distance.encode, Json.depth, Json.depthOfMembers] using hlevels

/-- A whole number beyond 64 bits with a sign is read as a finite number. -/
lemma isRead_ofInt {n : Int} {levels : Nat} (h : (Json.integer n).Fits levels) :
    (ofInt n).IsRead levels := by
  have hfinite := Json.isFinite_of_number? h rfl
  unfold ofInt
  split
  · exact ⟨isStable_of_not_list rfl rfl, Nat.zero_le _⟩
  · exact ⟨isStable_of_not_list rfl hfinite, Nat.zero_le _⟩

/-- A text that is read as a text reads as no moment. -/
lemma isRead_ofText (s : String) (levels : Nat) : (ofText s).IsRead levels := by
  unfold ofText
  split
  case h_1 t _ => exact ⟨isStable_of_not_list rfl rfl, Nat.zero_le _⟩
  case h_2 hmoment =>
    refine ⟨isStable_of_not_list rfl ?_, Nat.zero_le _⟩
    simp [isPortable, hmoment]

/-- A point or a distance is neither a number nor the name of a unit. -/
lemma isNumber_of_ofGeo? {j : Json} {v : Value} (h : ofGeo? j = some v) :
    v.isNumber = false ∧ v.isUnit = false := by
  rcases ofGeo?_eq_some h with ⟨p, -, rfl⟩ | ⟨d, -, rfl⟩
  · exact ⟨rfl, rfl⟩
  · exact ⟨rfl, rfl⟩

/-- An array is read as a point or a distance, or else as a list. -/
lemma ofJson?_array_eq_some {js : List Json} {v : Value} (h : ofJson? (.array js) = some v) :
    ofGeo? (.array js) = some v ∨
      ofGeo? (.array js) = none ∧ ∃ vs, ofJsons? js = some vs ∧ v = list vs := by
  rw [ofJson?] at h
  cases hgeo : ofGeo? (.array js) with
  | some w =>
    rw [hgeo] at h
    exact .inl h
  | none =>
    rw [hgeo] at h
    obtain ⟨vs, hvs, rfl⟩ := Option.map_eq_some_iff.1 h
    exact .inr ⟨rfl, vs, hvs, rfl⟩

/-- What is read as a number is a number in JSON, and what is read as the name of a unit is one. -/
lemma isSome_of_ofJson? {j : Json} {v : Value} (h : ofJson? j = some v) :
    (v.isNumber = true → j.number?.isSome = true) ∧
      (v.isUnit = true → (DistanceUnit.ofJson? j).isSome = true) := by
  have hno : ∀ {P : Prop}, false = true → P := fun h => absurd h Bool.false_ne_true
  have hcontainer : v.isNumber = false ∧ v.isUnit = false →
      (v.isNumber = true → j.number?.isSome = true) ∧
        (v.isUnit = true → (DistanceUnit.ofJson? j).isSome = true) := by
    rintro ⟨hnumber, hunit⟩
    rw [hnumber, hunit]
    exact ⟨hno, hno⟩
  cases j with
  | null =>
    rw [ofJson?] at h
    exact hcontainer (Option.some.inj h ▸ ⟨rfl, rfl⟩)
  | bool b =>
    rw [ofJson?] at h
    exact hcontainer (Option.some.inj h ▸ ⟨rfl, rfl⟩)
  | integer n =>
    rw [ofJson?, ofInt] at h
    rw [← Option.some.inj h]
    exact ⟨fun _ => rfl, by split <;> exact hno⟩
  | float x =>
    rw [ofJson?] at h
    rw [← Option.some.inj h]
    exact ⟨fun _ => rfl, hno⟩
  | single x =>
    rw [ofJson?, ofSingle] at h
    rw [← Option.some.inj h]
    exact ⟨fun _ => rfl, hno⟩
  | text s =>
    rw [ofJson?, ofText] at h
    rw [← Option.some.inj h]
    constructor
    · split <;> exact hno
    · split
      · exact hno
      · exact id
  | array js =>
    rcases ofJson?_array_eq_some h with hgeo | ⟨-, vs, -, rfl⟩
    · exact hcontainer (isNumber_of_ofGeo? hgeo)
    · exact hcontainer ⟨rfl, rfl⟩
  | object ms =>
    rw [ofJson?] at h
    exact hcontainer (isNumber_of_ofGeo? h)

/-- What was read as a list does not look like a point or a distance: it would have been read as
one. -/
lemma looksGeographic_of_ofGeo? {js : List Json} {vs : List Value}
    (hgeo : ofGeo? (.array js) = none) (hread : ofJsons? js = some vs) :
    (list vs).looksGeographic = false := by
  match js, hread with
  | [], hread =>
    rw [ofJsons?] at hread
    rw [← Option.some.inj hread]
    rfl
  | [j], hread =>
    obtain ⟨v, ws, -, hws, rfl⟩ := ofJsons?_cons_eq_some hread
    rw [ofJsons?] at hws
    rw [← Option.some.inj hws]
    rfl
  | [i, j], hread =>
    obtain ⟨v, ws, hv, hws, rfl⟩ := ofJsons?_cons_eq_some hread
    obtain ⟨w, us, hw, hus, rfl⟩ := ofJsons?_cons_eq_some hws
    rw [ofJsons?] at hus
    rw [← Option.some.inj hus]
    obtain ⟨hnumber, -⟩ := isSome_of_ofJson? hv
    obtain ⟨hnumber', hunit⟩ := isSome_of_ofJson? hw
    rw [Bool.eq_false_iff]
    intro hlooks
    rw [looksGeographic, Bool.and_eq_true, Bool.or_eq_true] at hlooks
    obtain ⟨hfirst, hsecond⟩ := hlooks
    obtain ⟨x, hx⟩ := Option.isSome_iff_exists.1 (hnumber hfirst)
    rcases hsecond with hsecond | hsecond
    · obtain ⟨y, hy⟩ := Option.isSome_iff_exists.1 (hnumber' hsecond)
      simp [ofGeo?, GeoPoint.ofJson?, Json.two?, hx, hy] at hgeo
    · obtain ⟨u, hu⟩ := Option.isSome_iff_exists.1 (hunit hsecond)
      cases hy : j.number? <;>
        simp [ofGeo?, GeoPoint.ofJson?, Distance.ofJson?, Json.two?, hx, hy, hu] at hgeo
  | i :: j :: k :: js, hread =>
    obtain ⟨v, ws, -, hws, rfl⟩ := ofJsons?_cons_eq_some hread
    obtain ⟨w, us, -, hus, rfl⟩ := ofJsons?_cons_eq_some hws
    obtain ⟨u, ts, -, -, rfl⟩ := ofJsons?_cons_eq_some hus
    rfl

mutual

/-- A value that is read from a JSON value that fits is stable. -/
theorem isRead_of_ofJson? : ∀ (j : Json) (levels : Nat) (v : Value), j.Fits levels →
    ofJson? j = some v → v.IsRead levels
  | .null, _, _, _, h => by
    rw [ofJson?] at h
    rw [← Option.some.inj h]
    exact ⟨isStable_of_not_list rfl rfl, Nat.zero_le _⟩
  | .bool _, _, _, _, h => by
    rw [ofJson?] at h
    rw [← Option.some.inj h]
    exact ⟨isStable_of_not_list rfl rfl, Nat.zero_le _⟩
  | .integer n, _, _, hfits, h => by
    rw [ofJson?] at h
    rw [← Option.some.inj h]
    exact isRead_ofInt hfits
  | .float x, _, _, hfits, h => by
    rw [ofJson?] at h
    rw [← Option.some.inj h]
    exact ⟨isStable_of_not_list rfl (Json.isFinite_of_number? hfits rfl), Nat.zero_le _⟩
  | .single _, _, _, hfits, _ => by
    rw [Json.Fits] at hfits
    exact hfits.elim
  | .text s, levels, _, _, h => by
    rw [ofJson?] at h
    rw [← Option.some.inj h]
    exact isRead_ofText s levels
  | .array js, levels, v, hfits, h => by
    rcases ofJson?_array_eq_some h with hgeo | ⟨hgeo, vs, hvs, rfl⟩
    · exact isRead_of_ofGeo? hfits hgeo
    · rw [Json.Fits] at hfits
      obtain ⟨below, rfl, hjs⟩ := hfits
      have hread := isRead_of_ofJsons? js below vs hjs hvs
      refine ⟨isStable_list (looksGeographic_of_ofGeo? hgeo hvs) fun v hv => (hread v hv).1, ?_⟩
      rw [encode, encodeAll_eq_map]
      exact Json.depth_array_le (List.forall_mem_map.2 fun v hv => (hread v hv).2)
  | .object ms, levels, v, hfits, h => by
    rw [ofJson?] at h
    exact isRead_of_ofGeo? hfits h

theorem isRead_of_ofJsons? : ∀ (js : List Json) (levels : Nat) (vs : List Value),
    Json.FitAll levels js → ofJsons? js = some vs → ∀ v ∈ vs, v.IsRead levels
  | [], _, _, _, h => by
    rw [ofJsons?] at h
    rw [← Option.some.inj h]
    exact List.forall_mem_nil _
  | j :: js, levels, _, hfits, h => by
    rw [Json.FitAll] at hfits
    obtain ⟨v, vs, hv, hvs, rfl⟩ := ofJsons?_cons_eq_some h
    exact List.forall_mem_cons.2 ⟨isRead_of_ofJson? j levels v hfits.1 hv,
      isRead_of_ofJsons? js levels vs hfits.2 hvs⟩

end

lemma ofJson?_of_read {d : Draft} {v : Value} (h : read d = .ok v) :
    ∃ j, readJson d = .ok j ∧ ofJson? j = some v := by
  obtain ⟨j, hj, h⟩ := bind_eq_ok_iff.1 h
  refine ⟨j, hj, ?_⟩
  cases hv : ofJson? j with
  | none =>
    rw [hv] at h
    cases h
  | some w =>
    rw [hv] at h
    rw [Except.ok.inj h]

/-- A value that is read is stable. -/
theorem yields_value : Yields Value.read fun levels v => v.IsRead levels := by
  intro levels d v hd h
  obtain ⟨j, hj, hv⟩ := ofJson?_of_read h
  exact isRead_of_ofJson? j levels v (yields_readJson levels d j hd hj) hv

lemma eq_null_of_ofJson? {j : Json} (h : ofJson? j = some null) : j = .null := by
  have hgeo : ∀ j : Json, ofGeo? j ≠ some null := by
    intro j hj
    rcases ofGeo?_eq_some hj with ⟨p, -, hp⟩ | ⟨d, -, hd⟩
    · cases hp
    · cases hd
  cases j with
  | null => rfl
  | array js =>
    rcases ofJson?_array_eq_some h with h | ⟨-, vs, -, hnull⟩
    · exact absurd h (hgeo _)
    · cases hnull
  | object ms =>
    rw [ofJson?] at h
    exact absurd h (hgeo _)
  | integer n =>
    rw [ofJson?, ofInt] at h
    split at h <;> cases h
  | text s =>
    rw [ofJson?, ofText] at h
    split at h <;> cases h
  | bool b =>
    rw [ofJson?] at h
    cases h
  | float x =>
    rw [ofJson?] at h
    cases h
  | single x =>
    rw [ofJson?] at h
    cases h

/-- An optional value that is there is not null. -/
lemma yields_optionalValue : Yields (readOption Value.read) fun levels o =>
    ∀ v, o = some v → v ≠ .null ∧ v.IsRead levels := by
  rintro levels d o hd h v rfl
  obtain ⟨hnull, hread⟩ := eq_ok_of_readOption h
  refine ⟨?_, yields_value levels d v hd hread⟩
  rintro rfl
  obtain ⟨j, hj, hv⟩ := ofJson?_of_read hread
  rw [eq_null_of_ofJson? hv] at hj
  exact hnull (eq_null_of_readJson hj)

end Value

/-! ## Locations -/

/-- A location that is read has finite coordinates, and it is written with one level. -/
theorem yields_location :
    Yields Location.read fun levels l => l.IsFinite ∧ l.encode.depth ≤ levels := by
  intro levels d l hd h
  obtain ⟨j, hj, h⟩ := bind_eq_ok_iff.1 h
  have hfits := yields_readJson levels d j hd hj
  unfold Location.ofJson? at h
  cases hpoint : GeoPoint.ofJson? j with
  | some p =>
    rw [hpoint] at h
    obtain ⟨hlat, hlon, hlevels⟩ := GeoPoint.fits_of_ofJson? hfits hpoint
    rw [← Except.ok.inj h]
    refine ⟨⟨hlat, hlon⟩, ?_⟩
    simpa [Location.encode, GeoPoint.encode, Json.depth, Json.depthOfMembers] using hlevels
  | none =>
    rw [hpoint] at h
    cases hhash : Location.geohash? j with
    | none =>
      simp only [hhash] at h
      cases h
    | some l' =>
      simp only [hhash] at h
      rw [← Except.ok.inj h]
      unfold Location.geohash? at hhash
      split at hhash
      case h_1 members =>
        obtain ⟨hash, -, hhash⟩ := Option.bind_eq_some_iff.1 hhash
        obtain ⟨s, -, hhash⟩ := Option.bind_eq_some_iff.1 hhash
        rw [Json.Fits] at hfits
        obtain ⟨below, rfl, -⟩ := hfits
        rw [← Option.some.inj hhash]
        exact ⟨trivial, by simp [Location.encode, Json.depth, Json.depthOfMembers]⟩
      case h_2 => cases hhash

end SearchCriteria
