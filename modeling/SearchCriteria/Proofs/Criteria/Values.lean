/-
# The values of criteria

The values of a criteria are those that the entries of its nodes compare with, at every depth.  A
function of values changes all of them in place.  The criteria changes no more than its values do,
and is equal to what it was only if every value is.
-/
import SearchCriteria.Proofs.Criteria.Tree

namespace SearchCriteria

/-- The values of a node's entries, for the query first. -/
def Node.values (node : Node) : List Value :=
  (node.queryEntries ++ node.filterEntries).filterMap Entry.value

lemma Node.mem_values {node : Node} {v : Value} :
    v ∈ node.values ↔ ∃ e, (e ∈ node.queryEntries ∨ e ∈ node.filterEntries) ∧ e.value = some v := by
  simp only [values, List.mem_filterMap, List.mem_append]

/-- The entry with a function applied to its value. -/
def Entry.mapValue (f : Value → Value) (entry : Entry) : Entry :=
  { entry with value := entry.value.map f }

namespace Criteria

/-- The values of all entries, at every depth. -/
def values (criteria : Criteria) : List Value :=
  criteria.allNodes.flatMap Node.values

lemma mem_values_mk {v : Value} {ns : List Node} :
    v ∈ values ⟨ns⟩ ↔ ∃ n ∈ ns, v ∈ n.values ∨ ∃ c ∈ n.subCriteria, v ∈ c.values := by
  simp only [values, List.mem_flatMap, allNodes_mk, mem_allNodesOf, mem_allNodesIn]
  constructor
  · rintro ⟨m, ⟨n, hn, rfl | ⟨c, hc, hm⟩⟩, hv⟩
    · exact ⟨m, hn, .inl hv⟩
    · exact ⟨n, hn, .inr ⟨c, hc, m, hm, hv⟩⟩
  · rintro ⟨n, hn, hv | ⟨c, hc, m, hm, hv⟩⟩
    · exact ⟨n, ⟨n, hn, .inl rfl⟩, hv⟩
    · exact ⟨m, ⟨n, hn, .inr ⟨c, hc, hm⟩⟩, hv⟩

section MapValues

variable (f : Value → Value)

mutual

/-- The criteria with a function applied to the values of all entries, at every depth. -/
def mapValues : Criteria → Criteria
  | ⟨chain⟩ => ⟨mapValuesOf chain⟩

/-- The nodes of a chain with a function applied to all values, at every depth. -/
def mapValuesOf : List Node → List Node
  | [] => []
  | ⟨field, conjunction, negating, boost, queryEntries, filterEntries, subCriteria⟩ :: rest =>
    ⟨field, conjunction, negating, boost, queryEntries.map (Entry.mapValue f),
      filterEntries.map (Entry.mapValue f), mapValuesIn subCriteria⟩ :: mapValuesOf rest

/-- Several criteria with a function applied to all values, at every depth. -/
def mapValuesIn : List Criteria → List Criteria
  | [] => []
  | criteria :: rest => mapValues criteria :: mapValuesIn rest

end

/-- The node with a function applied to all values, at every depth. -/
def mapValuesAt (node : Node) : Node :=
  { node with
    queryEntries := node.queryEntries.map (Entry.mapValue f)
    filterEntries := node.filterEntries.map (Entry.mapValue f)
    subCriteria := node.subCriteria.map (mapValues f) }

lemma mapValuesIn_eq_map (cs : List Criteria) : mapValuesIn f cs = cs.map (mapValues f) := by
  induction cs with
  | nil => rw [mapValuesIn, List.map_nil]
  | cons c cs ih => rw [mapValuesIn, ih, List.map_cons]

lemma mapValuesOf_eq_map (ns : List Node) : mapValuesOf f ns = ns.map (mapValuesAt f) := by
  induction ns with
  | nil => rw [mapValuesOf, List.map_nil]
  | cons n ns ih =>
    cases n
    rw [mapValuesOf, ih, mapValuesIn_eq_map, List.map_cons, mapValuesAt]

lemma mapValues_mk (ns : List Node) : mapValues f ⟨ns⟩ = ⟨ns.map (mapValuesAt f)⟩ := by
  rw [mapValues, mapValuesOf_eq_map]

variable {f}

/-! ## What a function of values leaves as it is -/

lemma map_eq_self {α : Type} {g : α → α} {as : List α} (h : ∀ a ∈ as, g a = a) :
    as.map g = as := by
  rw [List.map_congr_left h, List.map_id']

lemma Entry.mapValue_eq_self {entry : Entry} (h : ∀ v, entry.value = some v → f v = v) :
    entry.mapValue f = entry := by
  obtain ⟨operator, value⟩ := entry
  cases value with
  | none => rfl
  | some v => rw [Entry.mapValue, Option.map_some, h v rfl]

/-- A function that leaves every value as it is leaves the criteria as it is. -/
theorem mapValues_eq_self {c : Criteria} (h : ∀ v ∈ c.values, f v = v) : c.mapValues f = c := by
  induction c using induction with
  | step ns ih =>
    rw [mapValues_mk]
    congr 1
    refine map_eq_self fun n hn => ?_
    have hvalues : ∀ v ∈ n.values, f v = v := fun v hv => h v (mem_values_mk.2 ⟨n, hn, .inl hv⟩)
    have hquery : n.queryEntries.map (Entry.mapValue f) = n.queryEntries :=
      map_eq_self fun e he => Entry.mapValue_eq_self fun v hv =>
        hvalues v (Node.mem_values.2 ⟨e, .inl he, hv⟩)
    have hfilter : n.filterEntries.map (Entry.mapValue f) = n.filterEntries :=
      map_eq_self fun e he => Entry.mapValue_eq_self fun v hv =>
        hvalues v (Node.mem_values.2 ⟨e, .inr he, hv⟩)
    have hsubs : n.subCriteria.map (mapValues f) = n.subCriteria :=
      map_eq_self fun c hc => ih n hn c hc fun v hv =>
        h v (mem_values_mk.2 ⟨n, hn, .inr ⟨c, hc, hv⟩⟩)
    rw [mapValuesAt, hquery, hfilter, hsubs]
    cases n
    rfl

/-! ## What a function of values leaves equal -/

lemma forall_beq_of_map_beq {α : Type} [BEq α] {g : α → α} {as : List α}
    (h : (as.map g == as) = true) : ∀ a ∈ as, (g a == a) = true := by
  induction as with
  | nil => simp
  | cons a as ih =>
    rw [List.map_cons, List.cons_beq_cons, Bool.and_eq_true] at h
    exact List.forall_mem_cons.2 ⟨h.1, ih h.2⟩

lemma beqAll_eq_beq (as bs : List Criteria) : Criteria.beqAll as bs = (as == bs) := by
  induction as generalizing bs with
  | nil => cases bs <;> rfl
  | cons a as ih =>
    cases bs with
    | nil => rfl
    | cons b bs =>
      rw [Criteria.beqAll, ih, List.cons_beq_cons]
      rfl

lemma Entry.beq_of_mapValue_beq {entry : Entry} (h : (entry.mapValue f == entry) = true) {v : Value}
    (hv : entry.value = some v) : (f v == v) = true := by
  obtain ⟨operator, value⟩ := entry
  obtain rfl : value = some v := hv
  have hboth : (operator == operator && f v == v) = true := h
  exact (Bool.and_eq_true_iff.1 hboth).2

lemma forall_beq_of_beqNodes {ns : List Node}
    (h : Criteria.beqNodes (ns.map (mapValuesAt f)) ns = true) :
    ∀ n ∈ ns, (n.queryEntries.map (Entry.mapValue f) == n.queryEntries) = true ∧
      (n.filterEntries.map (Entry.mapValue f) == n.filterEntries) = true ∧
        (n.subCriteria.map (mapValues f) == n.subCriteria) = true := by
  induction ns with
  | nil => simp
  | cons n ns ih =>
    rw [List.map_cons, mapValuesAt, Criteria.beqNodes, beqAll_eq_beq] at h
    simp only [Bool.and_eq_true] at h
    exact List.forall_mem_cons.2 ⟨⟨h.1.1.1.2, h.1.1.2, h.1.2⟩, ih h.2⟩

/-- If the changed criteria is equal to the criteria, every changed value is equal to the value. -/
theorem beq_of_mapValues_beq {c : Criteria} (h : (c.mapValues f == c) = true) :
    ∀ v ∈ c.values, (f v == v) = true := by
  induction c using induction with
  | step ns ih =>
    rw [mapValues_mk] at h
    intro v hv
    obtain ⟨n, hn, hv⟩ := mem_values_mk.1 hv
    obtain ⟨hquery, hfilter, hsubs⟩ := forall_beq_of_beqNodes h n hn
    obtain hv | ⟨c, hc, hv⟩ := hv
    · obtain ⟨e, he, hv⟩ := Node.mem_values.1 hv
      obtain he | he := he
      · exact Entry.beq_of_mapValue_beq (forall_beq_of_map_beq hquery e he) hv
      · exact Entry.beq_of_mapValue_beq (forall_beq_of_map_beq hfilter e he) hv
    · exact ih n hn c hc (forall_beq_of_map_beq hsubs c hc) v hv

end MapValues

/-! ## Criteria equal to themselves -/

lemma list_beq_self {α : Type} [BEq α] {as : List α} (h : ∀ a ∈ as, (a == a) = true) :
    (as == as) = true := by
  induction as with
  | nil => rfl
  | cons a as ih =>
    obtain ⟨ha, has⟩ := List.forall_mem_cons.1 h
    rw [List.cons_beq_cons, ha, ih has, Bool.and_self]

lemma Entry.beq_self {entry : Entry} (h : ∀ v, entry.value = some v → (v == v) = true) :
    (entry == entry) = true := by
  obtain ⟨operator, value⟩ := entry
  change (operator == operator && value == value) = true
  cases value with
  | none => simp
  | some v => simpa using h v rfl

lemma beqNodes_self {ns : List Node}
    (h : ∀ n ∈ ns, (n.boost == n.boost) = true ∧ (n.queryEntries == n.queryEntries) = true ∧
      (n.filterEntries == n.filterEntries) = true ∧ (n.subCriteria == n.subCriteria) = true) :
    Criteria.beqNodes ns ns = true := by
  induction ns with
  | nil => rfl
  | cons n ns ih =>
    obtain ⟨⟨hboost, hquery, hfilter, hsubs⟩, hns⟩ := List.forall_mem_cons.1 h
    cases n
    simp only [Criteria.beqNodes, beqAll_eq_beq, Bool.and_eq_true, beq_self_eq_true, true_and]
    exact ⟨⟨⟨⟨hboost, hquery⟩, hfilter⟩, hsubs⟩, ih hns⟩

/-- A criteria is equal to itself if its boosts and values are. -/
theorem beq_self {c : Criteria} (hboost : ∀ n ∈ c.allNodes, (n.boost == n.boost) = true)
    (hvalues : ∀ v ∈ c.values, (v == v) = true) : (c == c) = true := by
  induction c using induction with
  | step ns ih =>
    refine beqNodes_self fun n hn => ?_
    have hentry : ∀ e, e ∈ n.queryEntries ∨ e ∈ n.filterEntries → (e == e) = true :=
      fun e he => Entry.beq_self fun v hv =>
        hvalues v (mem_values_mk.2 ⟨n, hn, .inl (Node.mem_values.2 ⟨e, he, hv⟩)⟩)
    have hsubs : ∀ c ∈ n.subCriteria, (c == c) = true := fun c hc =>
      ih n hn c hc
        (fun m hm => hboost m (mem_allNodes_of_attached hn hc hm))
        (fun v hv => hvalues v (mem_values_mk.2 ⟨n, hn, .inr ⟨c, hc, hv⟩⟩))
    exact ⟨hboost n (mem_allNodes_of_chain hn),
      list_beq_self fun e he => hentry e (.inl he),
      list_beq_self fun e he => hentry e (.inr he), list_beq_self hsubs⟩

end Criteria

end SearchCriteria
