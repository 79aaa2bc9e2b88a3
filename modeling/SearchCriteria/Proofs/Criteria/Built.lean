/-
# Criteria as they are built

A criteria is built by calls, one after another, from a root.  A call appends a node or changes the
last one, and may attach criteria that have been built before; some calls are refused.
-/
import SearchCriteria.Criteria.Builder
import SearchCriteria.Proofs.Criteria.Tree

namespace SearchCriteria

open Numeric

/-! ## Changing the last element -/

lemma updateLast_ne_nil {α : Type} {f : α → α} {as : List α} (h : as ≠ []) :
    updateLast f as ≠ [] := by
  obtain rfl | ⟨as, a, rfl⟩ := List.eq_nil_or_concat as
  · exact absurd rfl h
  · simp

lemma mem_updateLast {α : Type} {f : α → α} {as : List α} {b : α} (h : b ∈ updateLast f as) :
    b ∈ as ∨ ∃ a ∈ as, b = f a := by
  obtain rfl | ⟨as, a, rfl⟩ := List.eq_nil_or_concat as
  · cases h
  · simp only [List.concat_eq_append, updateLast_concat, List.mem_append, List.mem_singleton] at h ⊢
    obtain h | rfl := h
    · exact .inl (.inl h)
    · exact .inr ⟨a, .inr rfl, rfl⟩

lemma updateLast_updateLast {α : Type} (f g : α → α) (as : List α) :
    updateLast g (updateLast f as) = updateLast (fun a => g (f a)) as := by
  obtain rfl | ⟨as, a, rfl⟩ := List.eq_nil_or_concat as
  · rfl
  · simp

lemma updateLast_id {α : Type} (as : List α) : updateLast (fun a => a) as = as := by
  obtain rfl | ⟨as, a, rfl⟩ := List.eq_nil_or_concat as
  · rfl
  · simp

namespace Criteria

/-! ## Calls -/

/-- A call that continues a criteria. -/
inductive Call where
  /-- Appends a node about a field that has to match too. -/
  | and (field : Field)
  /-- Appends a node about a field that may match instead. -/
  | or (field : Field)
  /-- Appends a node that groups another criteria, which has to match too. -/
  | andGroup (group : Criteria)
  /-- Appends a node that groups another criteria, which may match instead. -/
  | orGroup (group : Criteria)
  | not
  | boost (boost : Binary32)
  /-- Attaches criteria to the last node. -/
  | attach (subCriteria : List Criteria)
  /-- Adds an entry for the query to the last node, whichever comparison it is. -/
  | queryEntry (entry : Entry)
  /-- Adds an entry for the filter to the last node, whichever comparison it is. -/
  | filterEntry (entry : Entry)
  /-- Adds a range that is given as a list. -/
  | tryBetween (range : Value)
  /-- Adds a range that is given by its bounds. -/
  | betweenBounds (lower upper : Bound)
  /-- Adds a comparison with the values of a list. -/
  | tryValues (operator : Operator) (values : Value)

/-- What a call makes of a criteria, or why it is refused. -/
def call (criteria : Criteria) : Call → Except CriteriaError Criteria
  | .and field => .ok (criteria.and field)
  | .or field => .ok (criteria.or field)
  | .andGroup group => .ok (criteria.andGroup group)
  | .orGroup group => .ok (criteria.orGroup group)
  | .not => .ok criteria.not
  | .boost boost => .ok (criteria.boost boost)
  | .attach subCriteria => .ok (criteria.attach subCriteria)
  | .queryEntry entry => .ok (criteria.addQueryEntry entry)
  | .filterEntry entry => .ok (criteria.addFilterEntry entry)
  | .tryBetween range => criteria.tryBetween range
  | .betweenBounds lower upper => .ok (criteria.betweenBounds lower upper)
  | .tryValues operator values => criteria.tryValues operator values

/-- The criteria that a call attaches to a node. -/
def Call.attached : Call → List Criteria
  | .andGroup group => [group]
  | .orGroup group => [group]
  | .attach subCriteria => subCriteria
  | _ => []

/-- The criteria that can be built: all that calls make of a root, with attached criteria that
have been built themselves. -/
inductive Built : Criteria → Prop where
  | on (field : Field) : Built (.on field)
  | anchor : Built .anchor
  /-- A root that only groups, as alternatives. -/
  | anchorOr : Built .anchorOr
  | call {c c' : Criteria} {k : Call} (built : Built c) (attached : ∀ a ∈ k.attached, Built a)
    (called : c.call k = .ok c') : Built c'

/-! ## What a call does -/

/-- The entries of the lower end of an interval with an excluded end. -/
def Bound.lowerEntries : Bound → List Entry
  | included v => [.of .greaterEqual v]
  | excluded v => [.of .greater v]
  | unbounded => []

/-- The entries of the upper end of an interval with an excluded end. -/
def Bound.upperEntries : Bound → List Entry
  | included v => [.of .lessEqual v]
  | excluded v => [.of .less v]
  | unbounded => []

namespace Call

/-- The node that a call appends. -/
def appended? : Call → Option Node
  | and field => some (.bare (some field) .and)
  | or field => some (.bare (some field) .or)
  | andGroup group => some { Node.bare none .and with subCriteria := [group] }
  | orGroup group => some { Node.bare none .or with subCriteria := [group] }
  | _ => none

/-- The entries that a call adds for the query, in order. -/
def queryEntries : Call → List Entry
  | queryEntry entry => [entry]
  | tryBetween range => [.of .between range]
  | betweenBounds lower upper =>
    if lower.isExcluded || upper.isExcluded then lower.lowerEntries ++ upper.upperEntries
    else [.of .between (.list [lower.value, upper.value])]
  | tryValues operator values => [.of operator values]
  | _ => []

/-- The entries that a call adds for the filter, in order. -/
def filterEntries : Call → List Entry
  | filterEntry entry => [entry]
  | _ => []

/-- Whether a call negates the last node. -/
def negates : Call → Bool
  | not => true
  | _ => false

/-- The boost of the last node after a call. -/
def boostAfter (before : Option Binary32) : Call → Option Binary32
  | boost b => if b.isNaN then none else some b
  | _ => before

/-- The last node after a call that appends none. -/
def change (k : Call) (node : Node) : Node where
  field := node.field
  conjunction := node.conjunction
  negating := node.negating || k.negates
  boost := k.boostAfter node.boost
  queryEntries := k.queryEntries.foldl addEntry node.queryEntries
  filterEntries := k.filterEntries.foldl addEntry node.filterEntries
  subCriteria := node.subCriteria ++ k.attached

end Call

/-- The node with entries added for the query. -/
def addAll (entries : List Entry) (node : Node) : Node :=
  { node with queryEntries := entries.foldl addEntry node.queryEntries }

lemma update_addAll_nil (c : Criteria) : c.update (addAll []) = c := by
  obtain ⟨chain⟩ := c
  have hid : addAll [] = fun node => node := by
    funext node
    cases node
    rfl
  rw [update, hid, updateLast_id]

lemma update_update (c : Criteria) (f g : Node → Node) :
    (c.update f).update g = c.update fun node => g (f node) := by
  rw [update, update, update, updateLast_updateLast]

lemma notBelow_eq_update (c : Criteria) (lower : Bound) :
    c.notBelow lower = c.update (addAll lower.lowerEntries) := by
  cases lower with
  | included v => rfl
  | excluded v => rfl
  | unbounded => exact (update_addAll_nil c).symm

lemma notAbove_eq_update (c : Criteria) (upper : Bound) :
    c.notAbove upper = c.update (addAll upper.upperEntries) := by
  cases upper with
  | included v => rfl
  | excluded v => rfl
  | unbounded => exact (update_addAll_nil c).symm

lemma betweenBounds_eq_update (c : Criteria) (lower upper : Bound) :
    c.betweenBounds lower upper =
      c.update (addAll (Call.betweenBounds lower upper).queryEntries) := by
  rw [betweenBounds, Call.queryEntries]
  split
  · rw [notBelow_eq_update, notAbove_eq_update, update_update]
    congr 1
    funext node
    simp [addAll]
  · rfl

lemma tryBetween_eq_ok {c c' : Criteria} {range : Value} (h : c.tryBetween range = .ok c') :
    c' = c.compare .between range := by
  unfold tryBetween at h
  split at h
  · split at h
    · exact (Except.ok.inj h).symm
    · cases h
  · cases h

lemma tryValues_eq_ok {c c' : Criteria} {operator : Operator} {values : Value}
    (h : c.tryValues operator values = .ok c') : c' = c.compare operator values := by
  unfold tryValues at h
  split at h
  · exact (Except.ok.inj h).symm
  · cases h

/-- A call that only adds entries for the query changes nothing else of a node. -/
lemma change_eq_addAll {k : Call} (hnegates : k.negates = false)
    (hboost : ∀ before, k.boostAfter before = before) (hfilter : k.filterEntries = [])
    (hattached : k.attached = []) : k.change = addAll k.queryEntries := by
  funext node
  cases node
  simp [Call.change, addAll, hnegates, hboost, hfilter, hattached]

/-- A call that is not refused appends its node, or else changes the last node. -/
theorem call_eq_ok {c c' : Criteria} {k : Call} (h : c.call k = .ok c') :
    c' = match k.appended? with
      | some node => c.append node
      | none => c.update k.change := by
  -- A call that appends no node makes one kind of change, and the others are idle.
  have hchange : ∀ f : Node → Node, (∀ node, f node = k.change node) →
      c.update f = c.update k.change := fun f hf => congrArg c.update (funext hf)
  cases k with
  | and field => exact (Except.ok.inj h).symm
  | or field => exact (Except.ok.inj h).symm
  | andGroup group => exact (Except.ok.inj h).symm
  | orGroup group => exact (Except.ok.inj h).symm
  | not =>
    rw [← Except.ok.inj h]
    exact hchange _ fun node => by simp [Call.change, Call.negates, Call.boostAfter,
      Call.queryEntries, Call.filterEntries, Call.attached]
  | boost b =>
    rw [← Except.ok.inj h]
    exact hchange _ fun node => by simp [Call.change, Call.negates, Call.boostAfter,
      Call.queryEntries, Call.filterEntries, Call.attached]
  | attach subCriteria =>
    rw [← Except.ok.inj h]
    exact hchange _ fun node => by simp [Call.change, Call.negates, Call.boostAfter,
      Call.queryEntries, Call.filterEntries, Call.attached]
  | filterEntry entry =>
    rw [← Except.ok.inj h]
    exact hchange _ fun node => by simp [Node.addFilterEntry, Call.change, Call.negates,
      Call.boostAfter, Call.queryEntries, Call.filterEntries, Call.attached]
  | queryEntry entry =>
    rw [← Except.ok.inj h]
    have hk : (Call.queryEntry entry).change = addAll (Call.queryEntry entry).queryEntries :=
      change_eq_addAll rfl (fun _ => rfl) rfl rfl
    exact (congrArg c.update hk).symm
  | tryBetween range =>
    rw [tryBetween_eq_ok h]
    have hk : (Call.tryBetween range).change = addAll (Call.tryBetween range).queryEntries :=
      change_eq_addAll rfl (fun _ => rfl) rfl rfl
    exact (congrArg c.update hk).symm
  | betweenBounds lower upper =>
    rw [← Except.ok.inj h, betweenBounds_eq_update]
    have hk : (Call.betweenBounds lower upper).change =
        addAll (Call.betweenBounds lower upper).queryEntries :=
      change_eq_addAll rfl (fun _ => rfl) rfl rfl
    exact (congrArg c.update hk).symm
  | tryValues operator values =>
    rw [tryValues_eq_ok h]
    have hk : (Call.tryValues operator values).change =
        addAll (Call.tryValues operator values).queryEntries :=
      change_eq_addAll rfl (fun _ => rfl) rfl rfl
    exact (congrArg c.update hk).symm

/-! ## Roots -/

lemma rooted_append {c : Criteria} {node : Node} (hc : Rooted c)
    (hnode : ∀ a ∈ node.subCriteria, Rooted a) : Rooted (c.append node) := by
  cases hc with
  | @chain ns root attached =>
    refine .chain (by simp) fun n hn => ?_
    obtain hn | hn := List.mem_append.1 hn
    · exact attached n hn
    · obtain rfl := List.mem_singleton.1 hn
      exact hnode

lemma rooted_update {c : Criteria} {f : Node → Node} (hc : Rooted c)
    (hf : ∀ n, (∀ a ∈ n.subCriteria, Rooted a) → ∀ a ∈ (f n).subCriteria, Rooted a) :
    Rooted (c.update f) := by
  cases hc with
  | @chain ns root attached =>
    refine .chain (updateLast_ne_nil root) fun n hn => ?_
    obtain hn | ⟨m, hm, rfl⟩ := mem_updateLast hn
    · exact attached n hn
    · exact hf m (attached m hm)

/-- A call keeps the roots, if the criteria that it attaches have theirs. -/
lemma rooted_call {c c' : Criteria} {k : Call} (hc : Rooted c) (hk : ∀ a ∈ k.attached, Rooted a)
    (h : c.call k = .ok c') : Rooted c' := by
  rw [call_eq_ok h]
  split
  case h_1 node happended =>
    refine rooted_append hc fun a ha => hk a ?_
    cases k <;> cases happended <;> exact ha
  case h_2 =>
    refine rooted_update hc fun n hn a ha => ?_
    obtain ha | ha := List.mem_append.1 ha
    · exact hn a ha
    · exact hk a ha

lemma rooted_bare (field : Option Field) (conjunction : Conjunction) :
    Rooted ⟨[.bare field conjunction]⟩ := by
  refine .chain (by simp) fun n hn a ha => ?_
  obtain rfl := List.mem_singleton.1 hn
  cases ha

/-- Every chain of a criteria that is built has a root. -/
theorem Built.rooted {c : Criteria} (h : Built c) : Rooted c := by
  induction h with
  | on field => exact rooted_bare _ _
  | anchor => exact rooted_bare _ _
  | anchorOr => exact rooted_bare _ _
  | call built attached called ih ihAttached => exact rooted_call ih ihAttached called

end Criteria

end SearchCriteria
