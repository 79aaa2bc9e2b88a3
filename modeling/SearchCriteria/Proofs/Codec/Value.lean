/-
# Values read back

A value is written without the name of its shape, so that reading has to recognise it.  Three
things get in the way.  A number that is not finite is written as `null`.  A text may read as a
moment.  And an array of two items reads as a point or a distance if its items allow it, because
these are tried before lists.

Main statements: if the first two do not occur in a value, it is read back, with every list that
looks like a point or a distance turned into one.  And whatever is read back is equal to the value
only if none of the three occurs in it, at any depth.
-/
import SearchCriteria.Codec.Value
import SearchCriteria.Proofs.Json.Draft
import SearchCriteria.Proofs.Time.ReadBack

namespace SearchCriteria

open Numeric Time Outcome

namespace Value

/-! ## The values in a value -/

mutual

/-- A value and the values in it, at every depth. -/
def parts : Value → List Value
  | list values => list values :: partsOf values
  | v => [v]

/-- The values in several values, and these themselves. -/
def partsOf : List Value → List Value
  | [] => []
  | v :: vs => parts v ++ partsOf vs

end

/-- Whether a text has the words of a unit. -/
def isUnit : Value → Bool
  | text s => (DistanceUnit.ofName? s).isSome
  | _ => false

/-- Whether the value is a number. -/
def isNumber : Value → Bool
  | integer _ => true
  | float _ => true
  | _ => false

/-- Whether the value is a list that reads as a point, two numbers, or as a distance, a number and
a unit. -/
def looksGeographic : Value → Bool
  | list [a, b] => a.isNumber && (b.isNumber || b.isUnit)
  | _ => false

/-- Whether all numbers of the value are finite, apart from the values in it, and it is no text
that reads as a moment. -/
def isPortable : Value → Bool
  | float x => x.isFinite
  | text s => (DateTime.ofText? s).isNone
  | point p => p.lat.isFinite && p.lon.isFinite
  | distance d => d.value.isFinite
  | _ => true

lemma self_mem_parts (v : Value) : v ∈ v.parts := by
  cases v <;> simp [parts]

lemma mem_partsOf {v : Value} {vs : List Value} (h : v ∈ vs) : v ∈ partsOf vs := by
  induction vs with
  | nil => cases h
  | cons w ws ih =>
    rw [partsOf, List.mem_append]
    obtain rfl | h := List.mem_cons.1 h
    · exact .inl (self_mem_parts v)
    · exact .inr (ih h)

/-! ## Reading scalars -/

lemma ofInt_toInt (n : Int64) : ofInt n.toInt = integer n := by
  rw [ofInt, if_pos ⟨Int64.minValue_le_toInt n, n.toInt_le⟩, Int64.ofInt_toInt]

lemma ofText_toJsonText (t : DateTime) : ofText t.toJsonText = dateTime t := by
  rw [ofText, DateTime.ofText?_toJsonText]

lemma ofText_eq_text_iff (s : String) : ofText s = text s ↔ (DateTime.ofText? s).isNone := by
  rw [ofText]
  cases DateTime.ofText? s <;> simp

/-! ## Reading points and distances -/

/-- The JSON value that a value is read from: what JSON cannot carry is `null`. -/
def carried (v : Value) : Json :=
  v.encode.widen

/-- Of the portable values, only null is carried as `null`. -/
lemma eq_null_of_carried {v : Value} (h : v.carried = .null) (hportable : v.isPortable = true) :
    v = null := by
  cases v with
  | null => rfl
  | float x =>
    have hfinite : x.isFinite = true := hportable
    rw [carried, encode, Json.widen, if_pos hfinite] at h
    cases h
  | list values =>
    rw [carried, encode, Json.widen] at h
    cases h
  | _ => cases h

/-- The names of units do not read as moments. -/
lemma ofText?_of_isSome_ofName? {s : String} (h : (DistanceUnit.ofName? s).isSome = true) :
    DateTime.ofText? s = none := by
  unfold DistanceUnit.ofName? at h
  split at h
  · decide
  · decide
  · cases h

lemma ofName?_toJsonText (t : DateTime) : DistanceUnit.ofName? t.toJsonText = none := by
  cases h : DistanceUnit.ofName? t.toJsonText with
  | none => rfl
  | some unit =>
    have hnone := ofText?_of_isSome_ofName? (s := t.toJsonText) (by rw [h]; rfl)
    rw [DateTime.ofText?_toJsonText] at hnone
    cases hnone

lemma number?_carried_isSome {v : Value} (h : v.isPortable = true) :
    v.carried.number?.isSome = v.isNumber := by
  cases v <;> simp_all [carried, encode, Json.widen, Json.number?, isNumber, isPortable,
    GeoPoint.encode, Distance.encode]

lemma unit_carried_isSome (v : Value) :
    (DistanceUnit.ofJson? v.carried).isSome = v.isUnit := by
  cases v with
  | text s => rw [carried, encode, Json.widen, DistanceUnit.ofJson?, isUnit]
  | dateTime t =>
    rw [carried, encode, Json.widen, DistanceUnit.ofJson?, ofName?_toJsonText]
    rfl
  | float x =>
    rw [carried, encode, Json.widen]
    split <;> rfl
  | point p =>
    simp [carried, encode, GeoPoint.encode, Json.widen, Json.widenMembers, DistanceUnit.ofJson?,
      isUnit]
  | distance d =>
    simp [carried, encode, Distance.encode, Json.widen, Json.widenMembers, DistanceUnit.ofJson?,
      isUnit]
  | _ => rfl

/-- A list is read as a point or a distance if and only if it looks like one. -/
lemma ofGeo?_carried_eq_none_iff {values : List Value}
    (h : ∀ v ∈ values, v.isPortable = true) :
    ofGeo? (.array (values.map carried)) = none ↔ (list values).looksGeographic = false := by
  match values, h with
  | [], _ => simp [ofGeo?, GeoPoint.ofJson?, Distance.ofJson?, Json.two?, looksGeographic]
  | [_], _ => simp [ofGeo?, GeoPoint.ofJson?, Distance.ofJson?, Json.two?, looksGeographic]
  | _ :: _ :: _ :: _, _ =>
    simp [ofGeo?, GeoPoint.ofJson?, Distance.ofJson?, Json.two?, looksGeographic]
  | [a, b], h =>
    have ha := number?_carried_isSome (h a (by simp))
    have hb := number?_carried_isSome (h b (by simp))
    have hunit := unit_carried_isSome b
    rw [looksGeographic, ← ha, ← hb, ← hunit]
    cases hna : a.carried.number? <;> cases hnb : b.carried.number? <;>
      cases hu : DistanceUnit.ofJson? b.carried <;>
      simp [ofGeo?, GeoPoint.ofJson?, Distance.ofJson?, Json.two?, hna, hnb, hu]

/-! ## Values read back -/

lemma widenItems_encodeAll (values : List Value) :
    Json.widenItems (encodeAll values) = values.map carried := by
  induction values with
  | nil => rw [encodeAll, Json.widenItems, List.map_nil]
  | cons v vs ih => rw [encodeAll, Json.widenItems, ih, List.map_cons, carried]

lemma number?_carried_float (x : Binary64) :
    (float x).carried.number? = if x.isFinite then some x else none := by
  rw [carried, encode, Json.widen]
  split <;> rfl

lemma ofJson?_carried_float {x : Binary64} (h : x.isFinite = true) :
    ofJson? (float x).carried = some (float x) := by
  rw [carried, encode, Json.widen, if_pos h, ofJson?]

lemma carried_point (p : GeoPoint) : (point p).carried =
    .object [("lat", (float p.lat).carried), ("lon", (float p.lon).carried)] := by
  simp [carried, encode, GeoPoint.encode, Json.widen, Json.widenMembers]

lemma carried_distance (d : Distance) : (distance d).carried =
    .object [("value", (float d.value).carried), ("unit", .text d.unit.name)] := by
  simp [carried, encode, Distance.encode, Json.widen, Json.widenMembers]

/-- A point is read back as itself, or not at all. -/
lemma ofJson?_carried_point (p : GeoPoint) :
    ofJson? (point p).carried = if (point p).isPortable then some (point p) else none := by
  rw [carried_point, ofJson?, ofGeo?]
  cases hlat : p.lat.isFinite <;> cases hlon : p.lon.isFinite <;>
    simp [GeoPoint.ofJson?, Distance.ofJson?, Json.two?, Json.only?, number?_carried_float,
      isPortable, hlat, hlon]

lemma ofJson?_carried_distance (d : Distance) :
    ofJson? (distance d).carried =
      if (distance d).isPortable then some (distance d) else none := by
  have hunit : DistanceUnit.ofName? d.unit.name = some d.unit := by cases d.unit <;> rfl
  rw [carried_distance, ofJson?, ofGeo?]
  cases hvalue : d.value.isFinite <;>
    simp [GeoPoint.ofJson?, Distance.ofJson?, Json.two?, Json.only?, number?_carried_float,
      DistanceUnit.ofJson?, isPortable, hunit, hvalue]

lemma ofJson?_carried_list (values : List Value) :
    ofJson? (list values).carried =
      (ofGeo? (.array (values.map carried))).or ((ofJsons? (values.map carried)).map list) := by
  rw [carried, encode, Json.widen, widenItems_encodeAll, ofJson?]
  cases ofGeo? (.array (values.map carried)) <;> rfl

mutual

/-- The value as it is read back: lists that look like points or distances are such. -/
def reread : Value → Value
  | list values => (ofGeo? (.array (values.map carried))).getD (list (rereadAll values))
  | v => v

/-- The values as they are read back. -/
def rereadAll : List Value → List Value
  | [] => []
  | v :: vs => reread v :: rereadAll vs

end

lemma reread_of_not_list {v : Value} (h : v.list? = none) : v.reread = v := by
  cases v <;> simp_all [reread, list?]

mutual

/-- If all numbers in a value are finite and no text in it reads as a moment, it is read back. -/
theorem ofJson?_carried : ∀ v : Value, (∀ w ∈ v.parts, w.isPortable = true) →
    ofJson? v.carried = some v.reread
  | null, _ => by
    rw [reread_of_not_list rfl, carried, encode, Json.widen, ofJson?]
  | bool b, _ => by
    rw [reread_of_not_list rfl, carried, encode, Json.widen, ofJson?]
  | integer n, _ => by
    rw [reread_of_not_list rfl, carried, encode, Json.widen, ofJson?, ofInt_toInt]
  | float x, h => by
    rw [reread_of_not_list rfl, ofJson?_carried_float (h _ (self_mem_parts _))]
  | dateTime t, _ => by
    rw [reread_of_not_list rfl, carried, encode, Json.widen, ofJson?, ofText_toJsonText]
  | text s, h => by
    rw [reread_of_not_list rfl, carried, encode, Json.widen, ofJson?,
      (ofText_eq_text_iff s).2 (h _ (self_mem_parts _))]
  | point p, h => by
    rw [reread_of_not_list rfl, ofJson?_carried_point, if_pos (h _ (self_mem_parts _))]
  | distance d, h => by
    rw [reread_of_not_list rfl, ofJson?_carried_distance, if_pos (h _ (self_mem_parts _))]
  | list values, h => by
    have hitems : ∀ w ∈ partsOf values, w.isPortable = true :=
      fun w hw => h w (by rw [parts]; exact List.mem_cons_of_mem _ hw)
    rw [ofJson?_carried_list, ofJsons?_carried values hitems, reread]
    cases ofGeo? (.array (values.map carried)) <;> rfl

theorem ofJsons?_carried : ∀ vs : List Value, (∀ w ∈ partsOf vs, w.isPortable = true) →
    ofJsons? (vs.map carried) = some (rereadAll vs)
  | [], _ => by rw [List.map_nil, ofJsons?, rereadAll]
  | v :: vs, h => by
    rw [partsOf, List.forall_mem_append] at h
    rw [List.map_cons, ofJsons?, ofJson?_carried v h.1, ofJsons?_carried vs h.2, rereadAll]
    rfl

end

mutual

/-- A value in which no list looks like a point or a distance is read back as itself. -/
theorem reread_eq_self : ∀ v : Value, (∀ w ∈ v.parts, w.isPortable = true) →
    (∀ w ∈ v.parts, w.looksGeographic = false) → v.reread = v
  | null, _, _ => reread_of_not_list rfl
  | bool _, _, _ => reread_of_not_list rfl
  | integer _, _, _ => reread_of_not_list rfl
  | float _, _, _ => reread_of_not_list rfl
  | dateTime _, _, _ => reread_of_not_list rfl
  | text _, _, _ => reread_of_not_list rfl
  | point _, _, _ => reread_of_not_list rfl
  | distance _, _, _ => reread_of_not_list rfl
  | list values, hportable, hlooks => by
    rw [parts] at hportable hlooks
    obtain ⟨-, hportable⟩ := List.forall_mem_cons.1 hportable
    obtain ⟨hlist, hlooks⟩ := List.forall_mem_cons.1 hlooks
    have hgeo := (ofGeo?_carried_eq_none_iff fun v hv => hportable v (mem_partsOf hv)).2 hlist
    rw [reread, hgeo, Option.getD_none, rereadAll_eq_self values hportable hlooks]

theorem rereadAll_eq_self : ∀ vs : List Value, (∀ w ∈ partsOf vs, w.isPortable = true) →
    (∀ w ∈ partsOf vs, w.looksGeographic = false) → rereadAll vs = vs
  | [], _, _ => by rw [rereadAll]
  | v :: vs, hportable, hlooks => by
    rw [partsOf, List.forall_mem_append] at hportable hlooks
    rw [rereadAll, reread_eq_self v hportable.1 hlooks.1, rereadAll_eq_self vs hportable.2 hlooks.2]

end

/-- A value is stable if all numbers in it are finite, no text in it reads as a moment, and no list
in it looks like a point or a distance. -/
def IsStable (v : Value) : Prop :=
  ∀ w ∈ v.parts, w.isPortable = true ∧ w.looksGeographic = false

lemma isStable_of_not_list {v : Value} (hlist : v.list? = none) (hportable : v.isPortable = true) :
    v.IsStable := by
  have hself : v.parts = [v] ∧ v.looksGeographic = false := by
    cases v with
    | list values => cases hlist
    | _ => exact ⟨by rw [parts]; simp, rfl⟩
  intro w hw
  rw [hself.1, List.mem_singleton] at hw
  rw [hw]
  exact ⟨hportable, hself.2⟩

lemma isStable_of_isScalar {v : Value} (hscalar : v.isScalar = true)
    (hportable : v.isPortable = true) : v.IsStable := by
  refine isStable_of_not_list ?_ hportable
  cases v with
  | list values => cases hscalar
  | _ => rfl

/-- A list is stable if its items are and it looks neither like a point nor like a distance. -/
lemma isStable_list {vs : List Value} (hlooks : (list vs).looksGeographic = false)
    (h : ∀ v ∈ vs, v.IsStable) : (list vs).IsStable := by
  have hparts : ∀ w ∈ partsOf vs, w.isPortable = true ∧ w.looksGeographic = false := by
    clear hlooks
    induction vs with
    | nil => simp [partsOf]
    | cons v vs ih =>
      obtain ⟨hv, hvs⟩ := List.forall_mem_cons.1 h
      rw [partsOf]
      exact List.forall_mem_append.2 ⟨hv, ih hvs⟩
  rw [IsStable, parts]
  exact List.forall_mem_cons.2 ⟨⟨rfl, hlooks⟩, hparts⟩

/-! ## Values equal to what is read back -/

lemma ofGeo?_eq_some {j : Json} {v : Value} (h : ofGeo? j = some v) :
    (∃ p, GeoPoint.ofJson? j = some p ∧ v = point p) ∨
      ∃ d, Distance.ofJson? j = some d ∧ v = distance d := by
  unfold ofGeo? at h
  split at h
  case h_1 p hp => exact .inl ⟨p, hp, (Option.some.inj h).symm⟩
  case h_2 =>
    obtain ⟨d, hd, rfl⟩ := Option.map_eq_some_iff.1 h
    exact .inr ⟨d, hd, rfl⟩

/-- What is read as a point or a distance is equal to no list. -/
lemma ofGeo?_bne_list {j : Json} {v : Value} (h : ofGeo? j = some v) (values : List Value) :
    (v == list values) = false := by
  rcases ofGeo?_eq_some h with ⟨p, -, rfl⟩ | ⟨d, -, rfl⟩
  · rfl
  · rfl

lemma list_beq_list (vs ws : List Value) : (list vs == list ws) = (vs == ws) := by
  change Value.beqList vs ws = (vs == ws)
  induction vs generalizing ws with
  | nil => cases ws <;> rfl
  | cons v vs ih =>
    cases ws with
    | nil => rfl
    | cons w ws =>
      rw [Value.beqList, ih, List.cons_beq_cons]
      rfl

lemma ofJsons?_cons_eq_some {j : Json} {js : List Json} {ws : List Value}
    (h : ofJsons? (j :: js) = some ws) :
    ∃ v vs, ofJson? j = some v ∧ ofJsons? js = some vs ∧ ws = v :: vs := by
  rw [ofJsons?] at h
  cases hj : ofJson? j <;> cases hjs : ofJsons? js <;> simp_all

mutual

/-- A value is equal to what is read back only if all numbers in it are finite, no text in it reads
as a moment, and no list in it looks like a point or a distance. -/
theorem portable_of_read_beq : ∀ v v' : Value, ofJson? v.carried = some v' → (v' == v) = true →
    ∀ w ∈ v.parts, w.isPortable = true ∧ w.looksGeographic = false
  | null, _, _, _ => by simp [parts, isPortable, looksGeographic]
  | bool b, _, _, _ => by simp [parts, isPortable, looksGeographic]
  | integer n, _, _, _ => by simp [parts, isPortable, looksGeographic]
  | dateTime t, _, _, _ => by simp [parts, isPortable, looksGeographic]
  | float x, v', hread, heq => by
    simp only [parts, List.mem_singleton, forall_eq, isPortable, looksGeographic, and_true]
    rw [carried, encode, Json.widen] at hread
    split at hread
    · assumption
    · cases hread
      cases heq
  | text s, v', hread, heq => by
    simp only [parts, List.mem_singleton, forall_eq, isPortable, looksGeographic, and_true]
    rw [carried, encode, Json.widen, ofJson?, ofText] at hread
    cases hmoment : DateTime.ofText? s with
    | none => rfl
    | some t =>
      rw [hmoment] at hread
      cases hread
      cases heq
  | point p, v', hread, heq => by
    simp only [parts, List.mem_singleton, forall_eq, looksGeographic, and_true]
    rw [ofJson?_carried_point] at hread
    split at hread
    · assumption
    · cases hread
  | distance d, v', hread, heq => by
    simp only [parts, List.mem_singleton, forall_eq, looksGeographic, and_true]
    rw [ofJson?_carried_distance] at hread
    split at hread
    · assumption
    · cases hread
  | list values, v', hread, heq => by
    -- A list is only equal to a list, so it was not read as a point or a distance.
    rw [ofJson?_carried_list] at hread
    cases hgeo : ofGeo? (.array (values.map carried)) with
    | some v =>
      rw [hgeo, Option.some_or] at hread
      cases hread
      rw [ofGeo?_bne_list hgeo values] at heq
      cases heq
    | none =>
      rw [hgeo, Option.none_or] at hread
      obtain ⟨vs', hreads, rfl⟩ := Option.map_eq_some_iff.1 hread
      rw [list_beq_list] at heq
      have hparts := portable_of_reads_beq values vs' hreads heq
      have hitems : ∀ v ∈ values, v.isPortable = true := fun v hv => (hparts v (mem_partsOf hv)).1
      rw [parts, List.forall_mem_cons]
      exact ⟨⟨rfl, (ofGeo?_carried_eq_none_iff hitems).1 hgeo⟩, hparts⟩

theorem portable_of_reads_beq : ∀ vs vs' : List Value, ofJsons? (vs.map carried) = some vs' →
    (vs' == vs) = true → ∀ w ∈ partsOf vs, w.isPortable = true ∧ w.looksGeographic = false
  | [], _, _, _ => by simp [partsOf]
  | v :: vs, vs', hread, heq => by
    obtain ⟨w, ws, hw, hws, rfl⟩ := ofJsons?_cons_eq_some hread
    rw [List.cons_beq_cons, Bool.and_eq_true] at heq
    rw [partsOf, List.forall_mem_append]
    exact ⟨portable_of_read_beq v w hw heq.1, portable_of_reads_beq vs ws hws heq.2⟩

end

lemma beq_self_of_isFinite {f : Format} {x : Binary f} (h : x.isFinite = true) :
    (x == x) = true := by
  cases x with
  | finite negative m s hcanonical =>
    change Binary.beq _ _ = true
    simp only [Binary.beq, Binary.position?, beq_self_eq_true]
  | _ => cases h

mutual

/-- A value without a number that is not finite is equal to itself. -/
theorem beq_self_of_portable : ∀ v : Value, (∀ w ∈ v.parts, w.isPortable = true) →
    (v == v) = true
  | null, _ => rfl
  | bool b, _ => beq_self_eq_true b
  | integer n, _ => beq_self_eq_true n
  | dateTime t, _ => beq_self_eq_true t
  | text s, _ => beq_self_eq_true s
  | float x, h => beq_self_of_isFinite (h _ (self_mem_parts _))
  | point p, h => by
    have hportable : p.lat.isFinite && p.lon.isFinite := h _ (self_mem_parts _)
    obtain ⟨hlat, hlon⟩ := Bool.and_eq_true_iff.1 hportable
    change (p.lat == p.lat && p.lon == p.lon) = true
    rw [beq_self_of_isFinite hlat, beq_self_of_isFinite hlon, Bool.and_self]
  | distance d, h => by
    have hvalue : d.value.isFinite := h _ (self_mem_parts _)
    change (d.value == d.value && d.unit == d.unit) = true
    rw [beq_self_of_isFinite hvalue, beq_self_eq_true, Bool.and_self]
  | list values, h => by
    rw [list_beq_list]
    exact beq_self_of_portables values fun w hw =>
      h w (by rw [parts]; exact List.mem_cons_of_mem _ hw)

theorem beq_self_of_portables : ∀ vs : List Value, (∀ w ∈ partsOf vs, w.isPortable = true) →
    (vs == vs) = true
  | [], _ => rfl
  | v :: vs, h => by
    rw [partsOf, List.forall_mem_append] at h
    rw [List.cons_beq_cons, beq_self_of_portable v h.1, beq_self_of_portables vs h.2, Bool.and_self]

end

/-! ## Drafts of values -/

section Carried

variable (carrier : Carrier)

mutual

/-- Values hold no 32-bit numbers. -/
lemma draftWith_encode : ∀ v : Value, v.encode.draftWith carrier = v.encode.draft
  | null => rfl
  | bool _ => rfl
  | integer n => carrier.integer_toInt n
  | float _ => rfl
  | dateTime _ => rfl
  | text _ => rfl
  | point _ => rfl
  | distance _ => rfl
  | list values => by rw [encode, Json.draftWith, draftItemsWith_encodeAll values, Json.draft]

lemma draftItemsWith_encodeAll : ∀ values : List Value,
    Json.draftItemsWith carrier (encodeAll values) = Json.draftItems (encodeAll values)
  | [] => rfl
  | v :: vs => by
    rw [encodeAll, Json.draftItemsWith, draftWith_encode v, draftItemsWith_encodeAll vs,
      Json.draftItems]

end

lemma read_draftWith_iff (v w : Value) :
    read (v.encode.draftWith carrier) = .ok w ↔ ofJson? v.carried = some w := by
  simp only [draftWith_encode, read, readJson, Json.settle_draft, ok_bind, carried]
  cases ofJson? v.encode.widen <;> simp

/-- A stable value is read from its draft as itself. -/
lemma read_of_isStable {v : Value} (h : v.IsStable) :
    read (v.encode.draftWith carrier) = .ok v := by
  have hportable : ∀ w ∈ v.parts, w.isPortable = true := fun w hw => (h w hw).1
  have hself : v.reread = v := v.reread_eq_self hportable fun w hw => (h w hw).2
  rw [read_draftWith_iff, v.ofJson?_carried hportable, hself]

/-- The draft of a value is `null` only if JSON carries nothing of the value. -/
lemma carried_of_draftWith_eq_null {v : Value} (h : v.encode.draftWith carrier = .null) :
    v.carried = .null := by
  have hsettle := Json.settle_draft v.encode
  rw [← draftWith_encode carrier, h] at hsettle
  exact (Except.ok.inj hsettle).symm

end Carried

end Value

end SearchCriteria
