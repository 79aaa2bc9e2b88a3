/-
# The places that entries ask for

Locations are given as points, as texts with coordinates or as geohashes, and distances as texts or
as amounts.  What an entry is given is checked when its clause is made, and nothing else is.

* `Location.isValid_iff`: a location is valid if it is a point whose coordinates are degrees, or a
  geohash;
* `Value.Locates`, `Value.Measures`: which location and which distance a value stands for;
* `filterLeaf_eq_ok_iff`: the clause of an entry is there if and only if its parts stand for
  locations and distances, and the corners of a box are in order.
-/
import SearchCriteria.Proofs.Compile.Accepted
import SearchCriteria.Proofs.Numeric.Rational

namespace SearchCriteria

open Numeric Outcome Text

/-! ## Places on the earth -/

/-- The coordinates of a point are rational numbers, degrees of latitude and of longitude. -/
structure GeoPoint.OnEarth (p : GeoPoint) : Prop where
  /-- The latitude lies between the poles. -/
  lat : ∃ q : ℚ, p.lat.toRat? = some q ∧ -90 ≤ q ∧ q ≤ 90
  /-- The longitude goes half around the earth either way. -/
  lon : ∃ q : ℚ, p.lon.toRat? = some q ∧ -180 ≤ q ∧ q ≤ 180

lemma GeoPoint.inRange_iff {p : GeoPoint} : p.InRange ↔ p.OnEarth := by
  have hlat := Binary.isBetween_neg_iff (x := p.lat) (show (90 : ℤ) < 2 ^ 128 by decide)
  have hlon := Binary.isBetween_neg_iff (x := p.lon) (show (180 : ℤ) < 2 ^ 128 by decide)
  exact ⟨fun h => ⟨hlat.1 h.1, hlon.1 h.2⟩, fun h => ⟨hlat.2 h.lat, hlon.2 h.lon⟩⟩

lemma GeoPoint.checked_eq_ok_iff {lat lon : Binary64} {p : GeoPoint} :
    checked lat lon = .ok p ↔ p.OnEarth ∧ p = ⟨lat, lon⟩ := by
  rw [← inRange_iff, InRange]
  unfold checked
  split_ifs with hlat hlon
  · simp only [false_iff]
    rintro ⟨⟨h, -⟩, rfl⟩
    simp [h] at hlat
  · simp only [false_iff]
    rintro ⟨⟨-, h⟩, rfl⟩
    simp [h] at hlon
  · simp only [Bool.not_eq_true, Bool.not_eq_false'] at hlat hlon
    constructor
    · rintro ⟨⟩
      exact ⟨⟨hlat, hlon⟩, rfl⟩
    · rintro ⟨-, rfl⟩
      rfl

/-- A location on the earth: a point, or one to twelve digits of a geohash. -/
def Location.OnEarth : Location → Prop
  | point p => p.OnEarth
  | geohash hash =>
    1 ≤ hash.toList.length ∧ hash.toList.length ≤ 12 ∧ ∀ c ∈ hash.toList, c ∈ geohashDigits

lemma isGeohash_iff {hash : String} : isGeohash hash = true ↔
    1 ≤ hash.toList.length ∧ hash.toList.length ≤ 12 ∧ ∀ c ∈ hash.toList, c ∈ geohashDigits := by
  rw [Nat.succ_le_iff, List.length_pos_iff]
  simp only [isGeohash, Bool.and_eq_true, decide_eq_true_eq, List.all_eq_true,
    List.contains_iff_mem, and_assoc]
  rfl

lemma Location.isValid_iff {l : Location} : l.IsValid ↔ l.OnEarth := by
  cases l with
  | point p => exact GeoPoint.inRange_iff
  | geohash hash => exact isGeohash_iff

/-- If both corners of a box are points, the top lies not below the bottom. -/
def CornersInOrder (topLeft bottomRight : Location) : Prop :=
  ∀ top bottom, topLeft = .point top → bottomRight = .point bottom →
    ∃ a b : ℚ, top.lat.toRat? = some a ∧ bottom.lat.toRat? = some b ∧ b ≤ a

lemma GeoPoint.OnEarth.lt_eq_false_iff {top bottom : GeoPoint} (htop : top.OnEarth)
    (hbottom : bottom.OnEarth) : top.lat.lt bottom.lat = false ↔
      ∃ a b : ℚ, top.lat.toRat? = some a ∧ bottom.lat.toRat? = some b ∧ b ≤ a := by
  obtain ⟨a, ha, -⟩ := htop.lat
  obtain ⟨b, hb, -⟩ := hbottom.lat
  rw [Binary.lt_eq_false_iff ha hb]
  constructor
  · exact fun h => ⟨a, b, ha, hb, h⟩
  · rintro ⟨a', b', ha', hb', h⟩
    rw [ha] at ha'
    rw [hb] at hb'
    rwa [Option.some.inj ha', Option.some.inj hb']

/-- A box is made of two locations on the earth if and only if the corners are in order. -/
lemma GeoBoxLeaf.checked_eq_ok_iff {name : String} {topLeft bottomRight : Location}
    {box : GeoBoxLeaf} (htop : topLeft.OnEarth) (hbottom : bottomRight.OnEarth) :
    checked name topLeft bottomRight = .ok box ↔
      CornersInOrder topLeft bottomRight ∧ box = ⟨name, topLeft, bottomRight⟩ := by
  -- Only two points are compared.
  cases topLeft with
  | geohash hash =>
    have horder : CornersInOrder (.geohash hash) bottomRight := by
      rintro top bottom ⟨⟩
    simp [checked, Location.point?, horder, eq_comm]
  | point top =>
    cases bottomRight with
    | geohash hash =>
      have horder : CornersInOrder (.point top) (.geohash hash) := by
        rintro _ bottom _ ⟨⟩
      simp [checked, Location.point?, horder, eq_comm]
    | point bottom =>
      have horder : CornersInOrder (.point top) (.point bottom) ↔
          top.lat.lt bottom.lat = false := by
        rw [GeoPoint.OnEarth.lt_eq_false_iff htop hbottom]
        constructor
        · exact fun h => h top bottom rfl rfl
        · rintro h _ _ ⟨⟩ ⟨⟩
          exact h
      rw [horder]
      cases hlt : top.lat.lt bottom.lat <;> simp [checked, Location.point?, hlt, eq_comm]

/-! ## What values stand for -/

/-- The location that a value stands for: a point on the earth is one itself, and a text is read. -/
inductive Value.Locates : Value → Location → Prop where
  /-- A point. -/
  | point {p : GeoPoint} (onEarth : p.OnEarth) : Locates (.point p) (.point p)
  /-- A text that is read as a location. -/
  | text {s : String} {l : Location} (reads : Location.ofText s = .ok l) : Locates (.text s) l

/-- The distance that a value stands for: a text that is not blank is one itself, and an amount that
is finite and not negative is written. -/
inductive Value.Measures : Value → String → Prop where
  /-- A text. -/
  | text {s : String} (notBlank : allBlank s = false) : Measures (.text s) s
  /-- An amount. -/
  | distance {d : Distance} (amount : ∃ q : ℚ, d.value.toRat? = some q ∧ 0 ≤ q) :
    Measures (.distance d) d.toText

lemma Value.Locates.onEarth {v : Value} {l : Location} (h : v.Locates l) : l.OnEarth := by
  cases h with
  | point onEarth => exact onEarth
  | text reads => exact Location.isValid_iff.1 (Location.isValid_of_ofText reads)

lemma Distance.isUsable_iff {d : Distance} :
    d.isUsable = true ↔ ∃ q : ℚ, d.value.toRat? = some q ∧ 0 ≤ q := by
  have hzero : (Binary.ofInt .binary64 0).toRat? = some 0 := by
    have hofInt : Binary.ofInt .binary64 0 =
        .finite false 0 0 ⟨by decide, by decide, .inl rfl⟩ := by decide +kernel
    rw [hofInt, Binary.toRat?_zero]
  rw [isUsable, Bool.and_eq_true, Bool.not_eq_true', Binary.isFinite_iff]
  constructor
  · rintro ⟨⟨q, hq⟩, hlt⟩
    exact ⟨q, hq, (Binary.lt_eq_false_iff hq hzero).1 hlt⟩
  · rintro ⟨q, hq, hle⟩
    exact ⟨⟨q, hq⟩, (Binary.lt_eq_false_iff hq hzero).2 hle⟩

/-- An amount is not written as a blank text: its unit is there. -/
lemma Distance.toText_notBlank (d : Distance) : allBlank d.toText = false := by
  have hunit : allBlank d.unit.abbreviation = false := by
    cases d.unit <;> decide
  rw [allBlank, List.all_eq_false] at hunit ⊢
  obtain ⟨c, hc, hblank⟩ := hunit
  refine ⟨c, ?_, hblank⟩
  simp [toText, toString, String.toList_append, hc]

lemma Value.Measures.notBlank {v : Value} {s : String} (h : v.Measures s) : allBlank s = false := by
  cases h with
  | text notBlank => exact notBlank
  | distance => exact Distance.toText_notBlank _

/-! ## Clauses of entries -/

/-- The clause of an entry that asks for a place. -/
inductive Entry.Places (config : Config) (name : String) : Entry → Leaf → Prop where
  /-- A location and a distance from it. -/
  | within {center radius : Value} {l : Location} {distance : String}
    (locates : center.Locates l) (measures : radius.Measures distance) :
    Places config name (.of .within (.list [center, radius]))
      (.geoDistance ⟨name, distance, config.geoDistanceType, l⟩)
  /-- The corners of a box. -/
  | boundingBox {first second : Value} {topLeft bottomRight : Location}
    (locatesTop : first.Locates topLeft) (locatesBottom : second.Locates bottomRight)
    (inOrder : CornersInOrder topLeft bottomRight) :
    Places config name (.of .boundingBox (.list [first, second]))
      (.geoBox ⟨name, topLeft, bottomRight⟩)

namespace Compile

variable {field : Field} {entry : Entry}

/-- A value is accepted as the location that it stands for. -/
lemma location_eq_ok_iff {v : Value} {l : Location} :
    location field entry v = .ok l ↔ v.Locates l := by
  constructor
  · intro h
    cases v with
    | text s => exact .text (complain_eq_ok_iff.1 h)
    | point p =>
      obtain ⟨q, hq, rfl⟩ := map_eq_ok_iff.1 (complain_eq_ok_iff.1 h)
      obtain ⟨honEarth, rfl⟩ := GeoPoint.checked_eq_ok_iff.1 hq
      exact .point honEarth
    | _ => exact absurd h (Entry.refuse_ne_ok _ _)
  · rintro (honEarth | hreads)
    · exact complain_eq_ok_iff.2
        (map_eq_ok_iff.2 ⟨_, GeoPoint.checked_eq_ok_iff.2 ⟨honEarth, rfl⟩, rfl⟩)
    · exact complain_eq_ok_iff.2 hreads

/-- A value is accepted as the distance that it stands for. -/
lemma distance_eq_ok_iff {v : Value} {s : String} :
    distance field entry v = .ok s ↔ v.Measures s := by
  constructor
  · intro h
    cases v with
    | text t =>
      rw [distance] at h
      split_ifs at h with hblank
      · exact absurd h (Entry.refuse_ne_ok _ _)
      · obtain rfl := Except.ok.inj h
        exact .text (Bool.eq_false_iff.2 hblank)
    | distance d =>
      rw [distance] at h
      split_ifs at h with husable
      · obtain rfl := Except.ok.inj h
        exact .distance (Distance.isUsable_iff.1 husable)
      · exact absurd h (Entry.refuse_ne_ok _ _)
    | _ => exact absurd h (Entry.refuse_ne_ok _ _)
  · rintro (hnotBlank | hamount)
    · rw [distance, if_neg (by simp [hnotBlank])]
    · rw [distance, if_pos (Distance.isUsable_iff.2 hamount)]

lemma pair_eq_ok_iff {first second : Value} :
    pair field entry = .ok (first, second) ↔ entry.value = some (.list [first, second]) := by
  rw [pair, bind_eq_ok_iff]
  simp only [Entry.requiredValue_eq_ok_iff]
  constructor
  · rintro ⟨v, hv, h⟩
    split at h
    case h_1 a b =>
      obtain ⟨rfl, rfl⟩ := Prod.mk.inj (Except.ok.inj h)
      exact hv
    case h_2 => exact absurd h (Entry.refuse_ne_ok _ _)
  · exact fun h => ⟨_, h, rfl⟩

/-- There is a clause for a filter entry if and only if it asks for a place, and it is the clause
that asks for this place. -/
theorem filterLeaf_eq_ok_iff {config : Config} {q : Query} :
    filterLeaf config field entry = .ok q ↔
      ∃ l, entry.Places config field.name l ∧ q = .leaf l := by
  obtain ⟨operator, value⟩ := entry
  constructor
  · intro h
    unfold filterLeaf at h
    split at h
    case h_1 hwithin =>
      obtain ⟨⟨center, radius⟩, hpair, hrest⟩ := bind_eq_ok_iff.1 h
      obtain ⟨l, hcenter, hrest'⟩ := bind_eq_ok_iff.1 hrest
      obtain ⟨s, hradius, hclause⟩ := bind_eq_ok_iff.1 hrest'
      cases hwithin
      cases pair_eq_ok_iff.1 hpair
      exact ⟨_, .within (location_eq_ok_iff.1 hcenter) (distance_eq_ok_iff.1 hradius),
        (Except.ok.inj hclause).symm⟩
    case h_2 hbox =>
      obtain ⟨⟨first, second⟩, hpair, hrest⟩ := bind_eq_ok_iff.1 h
      obtain ⟨topLeft, htop, hrest'⟩ := bind_eq_ok_iff.1 hrest
      obtain ⟨bottomRight, hbottom, hrest''⟩ := bind_eq_ok_iff.1 hrest'
      obtain ⟨box, hchecked, hclause⟩ := bind_eq_ok_iff.1 hrest''
      cases hbox
      cases pair_eq_ok_iff.1 hpair
      rw [location_eq_ok_iff] at htop hbottom
      rw [complain_eq_ok_iff, GeoBoxLeaf.checked_eq_ok_iff htop.onEarth hbottom.onEarth] at hchecked
      obtain ⟨hinOrder, rfl⟩ := hchecked
      exact ⟨_, .boundingBox htop hbottom hinOrder, (Except.ok.inj hclause).symm⟩
    case h_3 => cases h
  · rintro ⟨l, hplaces, rfl⟩
    cases hplaces with
    | within locates measures =>
      refine bind_eq_ok_iff.2 ⟨_, pair_eq_ok_iff.2 rfl, ?_⟩
      refine bind_eq_ok_iff.2 ⟨_, location_eq_ok_iff.2 locates, ?_⟩
      exact bind_eq_ok_iff.2 ⟨_, distance_eq_ok_iff.2 measures, rfl⟩
    | @boundingBox first second topLeft bottomRight locatesTop locatesBottom inOrder =>
      have hchecked : GeoBoxLeaf.checked field.name topLeft bottomRight =
          .ok ⟨field.name, topLeft, bottomRight⟩ :=
        (GeoBoxLeaf.checked_eq_ok_iff locatesTop.onEarth locatesBottom.onEarth).2 ⟨inOrder, rfl⟩
      refine bind_eq_ok_iff.2 ⟨_, pair_eq_ok_iff.2 rfl, ?_⟩
      refine bind_eq_ok_iff.2 ⟨_, location_eq_ok_iff.2 locatesTop, ?_⟩
      refine bind_eq_ok_iff.2 ⟨_, location_eq_ok_iff.2 locatesBottom, ?_⟩
      exact bind_eq_ok_iff.2 ⟨_, complain_eq_ok_iff.2 hchecked, rfl⟩

end Compile

/-- What is asked of the clauses of a filter: they ask for places on the earth. -/
def Leaf.AsksForPlaces (config : Config) : Leaf → Prop
  | geoDistance q =>
    q.location.OnEarth ∧ allBlank q.distance = false ∧ q.distanceType = config.geoDistanceType
  | geoBox q => q.topLeft.OnEarth ∧ q.bottomRight.OnEarth ∧ CornersInOrder q.topLeft q.bottomRight
  | _ => False

lemma Entry.Places.asksForPlaces {config : Config} {name : String} {entry : Entry} {l : Leaf}
    (h : entry.Places config name l) : l.AsksForPlaces config := by
  cases h with
  | within locates measures => exact ⟨locates.onEarth, measures.notBlank, rfl⟩
  | boundingBox locatesTop locatesBottom inOrder =>
    exact ⟨locatesTop.onEarth, locatesBottom.onEarth, inOrder⟩

end SearchCriteria
