/-
# The texts of locations

A location has one of two texts.  A point is written as two numbers with a comma between them, a
geohash as itself; since a geohash has no comma, no text is read both ways.

* `LocationText`: what a text says, whether it is a place on the earth or not;
* `ofText_eq_ok_iff`: the reader accepts exactly the texts of places on the earth;
* `ofText_toText`: a point that is written is read as its two numbers, whatever these are;
* `ofText_codec`: reading and writing places on the earth are inverse to each other.
-/
import SearchCriteria.Proofs.Compile.Places
import SearchCriteria.Proofs.Numeric.Literals
import SearchCriteria.Proofs.Text.Blank

namespace SearchCriteria

open Numeric Outcome Text

/-! ## Texts with a comma -/

lemma splitAtComma?_eq_some_iff {text before after : List Char} :
    splitAtComma? text = some (before, after) ↔ text = before ++ ',' :: after ∧ ',' ∉ before := by
  constructor
  · intro h
    induction text generalizing before with
    | nil => cases h
    | cons c rest ih =>
      rw [splitAtComma?] at h
      split at h
      case isTrue hcomma =>
        cases h
        exact ⟨by rw [hcomma, List.nil_append], List.not_mem_nil⟩
      case isFalse hcomma =>
        obtain ⟨⟨front, back⟩, hrest, hparts⟩ := Option.map_eq_some_iff.1 h
        cases hparts
        obtain ⟨rfl, hfront⟩ := ih hrest
        refine ⟨rfl, fun hmem => ?_⟩
        obtain rfl | hmem := List.mem_cons.1 hmem
        · exact hcomma rfl
        · exact hfront hmem
  · rintro ⟨rfl, hbefore⟩
    induction before with
    | nil => simp [splitAtComma?]
    | cons c front ih =>
      obtain ⟨hc, hfront⟩ := not_or.1 (mt List.mem_cons.2 hbefore)
      rw [List.cons_append, splitAtComma?, if_neg (Ne.symm hc), ih hfront]
      rfl

lemma exists_splitAtComma {text : List Char} (h : ',' ∈ text) :
    ∃ before after, text = before ++ ',' :: after ∧ ',' ∉ before :=
  List.eq_append_cons_of_mem h

lemma comma_mem_of_split {text before after : List Char} (h : text = before ++ ',' :: after) :
    ',' ∈ text := by
  rw [h]
  exact List.mem_append_right _ List.mem_cons_self

/-! ## Points -/

lemma Numeric.NumberText.comma_not_mem {f : Format} {text : List Char} {x : Binary f}
    (h : NumberText text x) : ',' ∉ text :=
  fun hmem => absurd (h.isNumberChar _ hmem) (by decide)

lemma Numeric.NumberText.trim_eq_self {f : Format} {text : List Char} {x : Binary f}
    (h : NumberText text x) : trim text = text := by
  refine trim_of_forall fun c hc => ?_
  obtain ⟨hlow, hhigh⟩ := toNat_of_isNumberChar (h.isNumberChar c hc)
  exact isBlank_of_visible hlow hhigh

namespace GeoPoint

/-- A coordinate is a number text with blanks around it. -/
lemma coordinate?_eq_some_iff {text : List Char} {x : Binary64} :
    coordinate? text = some x ↔ NumberText (trim text) x := by
  rw [coordinate?, Binary.ofText?_eq_some_iff, String.toList_ofList]

lemma coordinate?_toText (x : Binary64) : coordinate? x.toText.toList = some x := by
  rw [coordinate?_eq_some_iff, x.numberText_toText.trim_eq_self]
  exact x.numberText_toText

lemma toList_toText (p : GeoPoint) :
    p.toText.toList = p.lat.toText.toList ++ ',' :: p.lon.toText.toList := by
  simp [toText, toString, String.toList_append]

/-- A point that is written is read as its two numbers, and these are checked. -/
theorem ofText_toText (p : GeoPoint) : ofText p.toText = checked p.lat p.lon := by
  have hsplit : splitAtComma? p.toText.toList =
      some (p.lat.toText.toList, p.lon.toText.toList) :=
    splitAtComma?_eq_some_iff.2 ⟨p.toList_toText, p.lat.numberText_toText.comma_not_mem⟩
  simp only [ofText, hsplit, coordinate?_toText]

/-- A text is accepted as a point if two numbers on the earth stand around its first comma. -/
lemma ofText_eq_ok_iff {text : String} {before after : List Char} {p : GeoPoint}
    (hsplit : text.toList = before ++ ',' :: after) (hfirst : ',' ∉ before) :
    ofText text = .ok p ↔
      NumberText (trim before) p.lat ∧ NumberText (trim after) p.lon ∧ p.OnEarth := by
  rw [ofText, splitAtComma?_eq_some_iff.2 ⟨hsplit, hfirst⟩, ← coordinate?_eq_some_iff,
    ← coordinate?_eq_some_iff]
  constructor
  · intro h
    simp only at h
    split at h
    case h_1 lat lon hlat hlon =>
      obtain ⟨honEarth, rfl⟩ := checked_eq_ok_iff.1 h
      exact ⟨hlat, hlon, honEarth⟩
    case h_2 => cases h
  · rintro ⟨hlat, hlon, honEarth⟩
    simp only [hlat, hlon]
    exact checked_eq_ok_iff.2 ⟨honEarth, rfl⟩

end GeoPoint

/-! ## Locations -/

/-- What a text says about a place, wherever the place is. -/
inductive LocationText : String → Location → Prop where
  /-- Two numbers around the first comma, with blanks around each of them. -/
  | point {text : String} {before after : List Char} {p : GeoPoint}
    (split : text.toList = before ++ ',' :: after) (isFirst : ',' ∉ before)
    (isLat : NumberText (trim before) p.lat) (isLon : NumberText (trim after) p.lon) :
    LocationText text (.point p)
  /-- A geohash. -/
  | geohash {hash : String} (noComma : ',' ∉ hash.toList) : LocationText hash (.geohash hash)

namespace Location

/-- A text with a comma is only read as a point. -/
lemma ofText_of_comma {text : String} (h : ',' ∈ text.toList) :
    ofText text = (GeoPoint.ofText text).map point :=
  if_pos (List.contains_iff_mem.2 h)

/-- A text without a comma is only read as a geohash. -/
lemma ofText_of_no_comma {text : String} (h : ',' ∉ text.toList) : ofText text =
    if isGeohash text then .ok (geohash text) else .error (.invalidGeohash text) :=
  if_neg (mt List.contains_iff_mem.1 h)

/-- A text is accepted as a location if it says that the location is there, on the earth. -/
theorem ofText_eq_ok_iff {text : String} {l : Location} :
    ofText text = .ok l ↔ LocationText text l ∧ l.OnEarth := by
  constructor
  · intro h
    by_cases hcomma : ',' ∈ text.toList
    · rw [ofText_of_comma hcomma] at h
      obtain ⟨p, hp, rfl⟩ := map_eq_ok_iff.1 h
      obtain ⟨before, after, hsplit, hfirst⟩ := exists_splitAtComma hcomma
      obtain ⟨hlat, hlon, honEarth⟩ := (GeoPoint.ofText_eq_ok_iff hsplit hfirst).1 hp
      exact ⟨.point hsplit hfirst hlat hlon, honEarth⟩
    · rw [ofText_of_no_comma hcomma] at h
      split at h
      case isTrue hgeohash =>
        cases h
        exact ⟨.geohash hcomma, isGeohash_iff.1 hgeohash⟩
      case isFalse => cases h
  · rintro ⟨htext, honEarth⟩
    cases htext with
    | point split isFirst isLat isLon =>
      rw [ofText_of_comma (comma_mem_of_split split),
        (GeoPoint.ofText_eq_ok_iff split isFirst).2 ⟨isLat, isLon, honEarth⟩]
      rfl
    | geohash noComma => rw [ofText_of_no_comma noComma, if_pos (isGeohash_iff.2 honEarth)]

lemma ofText_point_toText (p : GeoPoint) :
    ofText p.toText = (GeoPoint.checked p.lat p.lon).map point := by
  rw [ofText_of_comma (comma_mem_of_split p.toList_toText), p.ofText_toText]

lemma comma_not_mem_of_onEarth {hash : String} (h : (geohash hash).OnEarth) :
    ',' ∉ hash.toList :=
  fun hmem => absurd (h.2.2 _ hmem) (by decide)

/-- A place on the earth that is written is read back. -/
theorem ofText_toText {l : Location} (h : l.OnEarth) : ofText l.toText = .ok l := by
  cases l with
  | point p =>
    rw [toText, ofText_point_toText, GeoPoint.checked_eq_ok_iff.2 ⟨h, rfl⟩]
    rfl
  | geohash hash => exact ofText_eq_ok_iff.2 ⟨.geohash (comma_not_mem_of_onEarth h), h⟩

/-- A text with a comma is read as the point whose coordinates stand around its first comma. -/
lemma ofText_eq_ok_iff_of_split {text : String} {before after : List Char} {l : Location}
    (hsplit : text.toList = before ++ ',' :: after) (hfirst : ',' ∉ before) :
    ofText text = .ok l ↔ ∃ lat lon, NumberText (trim before) lat ∧
      NumberText (trim after) lon ∧ GeoPoint.OnEarth ⟨lat, lon⟩ ∧ l = .point ⟨lat, lon⟩ := by
  rw [ofText_of_comma (comma_mem_of_split hsplit), map_eq_ok_iff]
  constructor
  · rintro ⟨⟨lat, lon⟩, hp, rfl⟩
    obtain ⟨hlat, hlon, honEarth⟩ := (GeoPoint.ofText_eq_ok_iff hsplit hfirst).1 hp
    exact ⟨lat, lon, hlat, hlon, honEarth, rfl⟩
  · rintro ⟨lat, lon, hlat, hlon, honEarth, rfl⟩
    exact ⟨_, (GeoPoint.ofText_eq_ok_iff hsplit hfirst).2 ⟨hlat, hlon, honEarth⟩, rfl⟩

/-- A text is read in one way: as a point if it has a comma, as a geohash otherwise. -/
lemma kind_of_ofText {text : String} {l : Location} (h : ofText text = .ok l) :
    (',' ∈ text.toList → ∃ p, l = .point p) ∧ (',' ∉ text.toList → l = .geohash text) := by
  obtain ⟨htext, -⟩ := ofText_eq_ok_iff.1 h
  cases htext with
  | @point _ _ p hsplit =>
    exact ⟨fun _ => ⟨p, rfl⟩, fun hcomma => absurd (comma_mem_of_split hsplit) hcomma⟩
  | geohash noComma => exact ⟨fun hcomma => absurd hcomma noComma, fun _ => rfl⟩

/-- Texts of locations are read and written faithfully.

* What is read from a text is on the earth, a geohash is the text itself, and what is read is
  written as a text from which it is read again.
* A location on the earth is written as a text from which it is read.
* A text with a comma is read as a point or not at all, a text without a comma as a geohash or not
  at all.
* A text with a comma is read if and only if what stands around its first comma is, up to blanks,
  two number texts, for the latitude and the longitude of a point on the earth. -/
theorem ofText_codec :
    (∀ text l, ofText text = .ok l →
      l.OnEarth ∧ (∀ hash, l = .geohash hash → hash = text) ∧ ofText l.toText = .ok l) ∧
    (∀ l, OnEarth l → ofText l.toText = .ok l) ∧
    (∀ text l, ofText text = .ok l →
      (',' ∈ text.toList → ∃ p, l = .point p) ∧ (',' ∉ text.toList → l = .geohash text)) ∧
    (∀ text, ',' ∈ text.toList → ∃ before after,
      text.toList = before ++ ',' :: after ∧ ',' ∉ before ∧
      ∀ l, ofText text = .ok l ↔ ∃ lat lon, NumberText (trim before) lat ∧
        NumberText (trim after) lon ∧ GeoPoint.OnEarth ⟨lat, lon⟩ ∧ l = .point ⟨lat, lon⟩) := by
  refine ⟨fun text l h => ?read, fun l h => ofText_toText h, fun text l h => kind_of_ofText h,
    fun text hcomma => ?point⟩
  case read =>
    obtain ⟨htext, honEarth⟩ := ofText_eq_ok_iff.1 h
    refine ⟨honEarth, ?_, ofText_toText honEarth⟩
    rintro hash rfl
    cases htext
    rfl
  case point =>
    obtain ⟨before, after, hsplit, hfirst⟩ := exists_splitAtComma hcomma
    exact ⟨before, after, hsplit, hfirst, fun _ => ofText_eq_ok_iff_of_split hsplit hfirst⟩

/-- A pole, written with blanks, a sign, an exponent and no digit in front of a point, is read as a
point and read back from its own text; a geohash is read as itself. -/
theorem ofText_pole :
    (∃ l, ofText " +9e1 ,\t-.5e-1" = .ok l ∧ l.OnEarth ∧ (∃ p, l = .point p) ∧
      ofText l.toText = .ok l) ∧ ofText "u0qvy" = .ok (.geohash "u0qvy") := by
  have hread : (ofText " +9e1 ,\t-.5e-1").toOption.isSome = true := by decide +kernel
  obtain ⟨l, hl⟩ := Option.isSome_iff_exists.1 hread
  have htext := eq_ok_of_toOption hl
  obtain ⟨honEarth, -, hback⟩ := ofText_codec.1 _ l htext
  have hpoint := (ofText_codec.2.2.1 _ l htext).1 (by decide)
  have hgeohash : (geohash "u0qvy").OnEarth := isGeohash_iff.1 (by decide)
  exact ⟨⟨l, htext, honEarth, hpoint, hback⟩, ofText_codec.2.1 _ hgeohash⟩

end Location

end SearchCriteria
