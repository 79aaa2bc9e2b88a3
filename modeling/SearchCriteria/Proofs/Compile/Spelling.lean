/-
# Spellings of places

A location may be given as a point or as the text of the point, and a distance as an amount or as
the text of the amount.  A point is checked, and a text is taken apart, read as two numbers and
checked; both end in the same location or in the same complaint.

* `Entry.Respelt`: an entry for the filter and the same entry with some of its places written out;
* `filterLeaf_respelt`: the clause of an entry does not depend on the spelling;
* `compileFilter_respelt`: neither does a filter, wherever in the criteria places are written out.
-/
import SearchCriteria.Criteria.Builder
import SearchCriteria.Proofs.Compile.Simulation
import SearchCriteria.Proofs.Geo.Text

namespace SearchCriteria

open Numeric Outcome Text

/-! ## Spellings -/

/-- A location may be written out: a point, on the earth or not, as its text. -/
inductive Value.LocationSpelling : Value → Value → Prop where
  | same (v : Value) : LocationSpelling v v
  | written (p : GeoPoint) : LocationSpelling (.point p) (.text (Value.point p).toText)

/-- A distance may be written out: an amount that is finite and not negative as its text. -/
inductive Value.DistanceSpelling : Value → Value → Prop where
  | same (v : Value) : DistanceSpelling v v
  | written {d : Distance} (amount : ∃ q : ℚ, d.value.toRat? = some q ∧ 0 ≤ q) :
    DistanceSpelling (.distance d) (.text (Value.distance d).toText)

/-- An entry in which some locations and distances are written out.  The lists need not be as long
as the operators want them. -/
inductive Entry.Respelt : Entry → Entry → Prop where
  | same (entry : Entry) : Respelt entry entry
  /-- A location, with distances behind it. -/
  | within {center center' : Value} {radii radii' : List Value}
    (location : center.LocationSpelling center')
    (distances : List.Forall₂ Value.DistanceSpelling radii radii') :
    Respelt (.of .within (.list (center :: radii))) (.of .within (.list (center' :: radii')))
  /-- The corners of a box. -/
  | boundingBox {corners corners' : List Value}
    (locations : List.Forall₂ Value.LocationSpelling corners corners') :
    Respelt (.of .boundingBox (.list corners)) (.of .boundingBox (.list corners'))

/-- A node in whose entries some locations and distances are written out. -/
structure Node.Respelt (n m : Node) : Prop where
  field : n.field = m.field
  conjunction : n.conjunction = m.conjunction
  negating : n.negating = m.negating
  boost : n.boost = m.boost
  queryEntries : List.Forall₂ Entry.Respelt n.queryEntries m.queryEntries
  filterEntries : List.Forall₂ Entry.Respelt n.filterEntries m.filterEntries

lemma Entry.Respelt.operator_eq {entry entry' : Entry} (h : entry.Respelt entry') :
    entry.operator = entry'.operator := by
  cases h <;> rfl

/-! ## Clauses -/

namespace Compile

variable {config : Config} {field : Field} {entry entry' : Entry}

/-- What the parts of an entry are taken for depends on the operator of the entry, which complaints
name, and not on its value. -/
lemma location_congr (h : entry.operator = entry'.operator) :
    location field entry = location field entry' := by
  obtain ⟨operator, value⟩ := entry
  obtain ⟨operator', value'⟩ := entry'
  obtain rfl : operator = operator' := h
  funext v
  cases v <;> rfl

lemma distance_congr (h : entry.operator = entry'.operator) :
    distance field entry = distance field entry' := by
  obtain ⟨operator, value⟩ := entry
  obtain ⟨operator', value'⟩ := entry'
  obtain rfl : operator = operator' := h
  funext v
  cases v <;> rfl

lemma filterLeaf_within (center radius : Value) :
    filterLeaf config field (.of .within (.list [center, radius])) = (do
      let center ← location field (.flag .within) center
      let radius ← distance field (.flag .within) radius
      .ok (.leaf (.geoDistance ⟨field.name, radius, config.geoDistanceType, center⟩))) := by
  have hoperator : (Entry.flag .within).operator =
      (Entry.of .within (.list [center, radius])).operator := rfl
  rw [location_congr hoperator, distance_congr hoperator]
  rfl

lemma filterLeaf_boundingBox (topLeft bottomRight : Value) :
    filterLeaf config field (.of .boundingBox (.list [topLeft, bottomRight])) = (do
      let topLeft ← location field (.flag .boundingBox) topLeft
      let bottomRight ← location field (.flag .boundingBox) bottomRight
      let box ← complain field (.flag .boundingBox)
        (GeoBoxLeaf.checked field.name topLeft bottomRight)
      .ok (.leaf (.geoBox box))) := by
  have hoperator : (Entry.flag .boundingBox).operator =
      (Entry.of .boundingBox (.list [topLeft, bottomRight])).operator := rfl
  rw [location_congr hoperator]
  rfl

/-- The text of a point stands for the same location as the point, or is refused as the point is. -/
lemma location_eq_of_spelling {v w : Value} (h : v.LocationSpelling w) :
    location field entry v = location field entry w := by
  cases h with
  | same => rfl
  | written p => rw [Value.toText, location, location, Location.ofText_point_toText]

lemma distance_eq_of_spelling {v w : Value} (h : v.DistanceSpelling w) :
    distance field entry v = distance field entry w := by
  cases h with
  | same => rfl
  | @written d amount =>
    have hblank : ¬allBlank d.toText = true := by
      rw [d.toText_notBlank]
      exact Bool.false_ne_true
    rw [Value.toText, distance, distance, if_pos (Distance.isUsable_iff.2 amount), if_neg hblank]

/-- The clause of an entry does not depend on how locations and distances are spelt. -/
theorem filterLeaf_respelt (h : entry.Respelt entry') :
    filterLeaf config field entry = filterLeaf config field entry' := by
  -- Lists of another length are refused for their length, whatever they hold.
  cases h with
  | same => rfl
  | within location distances =>
    cases distances with
    | nil => rfl
    | cons first rest =>
      cases rest with
      | nil =>
        rw [filterLeaf_within, filterLeaf_within, location_eq_of_spelling location,
          distance_eq_of_spelling first]
      | cons => rfl
  | boundingBox locations =>
    cases locations with
    | nil => rfl
    | cons topLeft rest =>
      cases rest with
      | nil => rfl
      | cons bottomRight rest =>
        cases rest with
        | nil =>
          rw [filterLeaf_boundingBox, filterLeaf_boundingBox, location_eq_of_spelling topLeft,
            location_eq_of_spelling bottomRight]
        | cons => rfl

end Compile

/-! ## Filters -/

lemma Outcome.mapM_congr {ε α β : Type} {f : α → Except ε β} {xs ys : List α}
    (h : List.Forall₂ (fun x y => f x = f y) xs ys) : xs.mapM f = ys.mapM f := by
  induction h with
  | nil => rfl
  | cons hxy _ ih => rw [List.mapM_cons, List.mapM_cons, hxy, ih]

namespace Pass

variable {config : Config} {n m : Node}

lemma ownClause_respelt (h : n.Respelt m) :
    (filter config).ownClause n = (filter config).ownClause m := by
  have hleaves : ∀ field, n.filterEntries.mapM (Compile.filterLeaf config field) =
      m.filterEntries.mapM (Compile.filterLeaf config field) :=
    fun field => mapM_congr (h.filterEntries.imp fun _ _ => Compile.filterLeaf_respelt)
  have hname : n.fieldName = m.fieldName := by
    rw [Node.fieldName, Node.fieldName, h.field]
  have hentries := h.filterEntries
  simp only [ownClause, filter]
  generalize n.filterEntries = entries at hentries hleaves
  generalize m.filterEntries = entries' at hentries hleaves
  cases hentries with
  | nil => rfl
  | cons first rest =>
    simp only [hname, h.field, first.operator_eq]
    cases m.field with
    | none => rfl
    | some field =>
      simp only [hleaves field]
      rfl

lemma agree_respelt (h : n.Respelt m) : (filter config).Agree (filter config) Eq n m := by
  have hisOr : n.isOr = m.isOr := by
    rw [Node.isOr, Node.isOr, h.conjunction]
  have hoccur : (filter config).occur n = (filter config).occur m := by
    simp only [filter, h.negating, hisOr]
  exact agree_of_eq (ownClause_respelt h) hoccur h.negating

end Pass

namespace Criteria

/-- Wherever points, on the earth or not, and usable amounts are written out in the entries of
criteria, the filter is the same, and so is the error. -/
theorem compileFilter_respelt (config : Config) {c d : Criteria} (h : c.Alike Node.Respelt d) :
    (d.compileFilter config).result = (c.compileFilter config).result := by
  rw [compileFilter, compileFilter, Compile.result_run, Compile.result_run]
  exact (Pass.compiled_eq_of_alike rfl (h.mono fun _ _ => Pass.agree_respelt)).symm

/-- Around a center, and attached to it in a box that has the center for a corner. -/
def around (center radius corner : Value) : Criteria :=
  ⟨[{ Node.bare (some (.named "place")) .and with
      filterEntries := [.of .within (.list [center, radius])]
      subCriteria := [(on (.named "home")).boundingBox center corner] }]⟩

/-- Two points and an amount, written out or not, give the same filter; a corner that is nowhere
gives the same error. -/
theorem compileFilter_around :
    ((around (.text "46,3") (.text "20mi") (.text "45,4")).compileFilter {}).result =
      ((around (.point ⟨.ofInt _ 46, .ofInt _ 3⟩) (.distance ⟨.ofInt _ 20, .miles⟩)
        (.point ⟨.ofInt _ 45, .ofInt _ 4⟩)).compileFilter {}).result ∧
    ((around (.text "46,3") (.text "20mi") (.text "NaN,-inf")).compileFilter {}).result =
      ((around (.point ⟨.ofInt _ 46, .ofInt _ 3⟩) (.distance ⟨.ofInt _ 20, .miles⟩)
        (.point ⟨.nan, .infinity true⟩)).compileFilter {}).result := by
  have hcenter : (Value.point ⟨.ofInt _ 46, .ofInt _ 3⟩).toText = "46,3" := by decide +kernel
  have hcorner : (Value.point ⟨.ofInt _ 45, .ofInt _ 4⟩).toText = "45,4" := by decide +kernel
  have hnowhere : (Value.point ⟨.nan, .infinity true⟩).toText = "NaN,-inf" := by decide +kernel
  have hradius : (Value.distance ⟨.ofInt _ 20, .miles⟩).toText = "20mi" := by decide +kernel
  have husable : (⟨.ofInt _ 20, .miles⟩ : Distance).isUsable = true := by decide +kernel
  have hspelt : ∀ corner corner' : Value, corner.LocationSpelling corner' →
      (around (.point ⟨.ofInt _ 46, .ofInt _ 3⟩) (.distance ⟨.ofInt _ 20, .miles⟩) corner).Alike
        Node.Respelt (around (.text "46,3") (.text "20mi") corner') := by
    intro corner corner' hcorner
    have hplace := hcenter ▸ Value.LocationSpelling.written ⟨.ofInt _ 46, .ofInt _ 3⟩
    have hamount := hradius ▸ Value.DistanceSpelling.written (Distance.isUsable_iff.1 husable)
    have hbox := Entry.Respelt.boundingBox (.cons hplace (.cons hcorner .nil))
    have hhome : ((on (.named "home")).boundingBox (.point ⟨.ofInt _ 46, .ofInt _ 3⟩) corner).Alike
        Node.Respelt ((on (.named "home")).boundingBox (.text "46,3") corner') :=
      .chain (.cons (.node ⟨rfl, rfl, rfl, rfl, .nil, .cons hbox .nil⟩ .nil) .nil)
    have hwithin := Entry.Respelt.within hplace (.cons hamount .nil)
    exact .chain (.cons (.node ⟨rfl, rfl, rfl, rfl, .nil, .cons hwithin .nil⟩
      (.cons hhome .nil)) .nil)
  exact ⟨compileFilter_respelt {} (hspelt _ _ (hcorner ▸ .written _)),
    compileFilter_respelt {} (hspelt _ _ (hnowhere ▸ .written _))⟩

end Criteria

end SearchCriteria
