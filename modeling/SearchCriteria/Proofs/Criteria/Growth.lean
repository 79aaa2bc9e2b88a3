/-
# Criteria only grow

Calls that continue a criteria never touch a node that was not the last one.  What the calls made
while a node was the last one do to it depends on these calls alone, and a call that appends a node
ends this time for the node before.  A refused call does nothing.

* `call_of_entry`: the calls stand for all methods that add an entry;
* `Continues`: what calls make of the node that is the last one while they are made;
* `Grown`: the nodes that a node and calls give rise to, one for each time at the end of the chain;
* `after_appendOnly`: the chain after any calls is the chain before, its last node aside, and the
  nodes that have grown from the last one.
-/
import Mathlib.Data.List.Basic
import SearchCriteria.Proofs.Criteria.Built
import SearchCriteria.Proofs.Criteria.Entries

namespace SearchCriteria

open Numeric

namespace Criteria

/-! ## Runs of calls -/

/-- The criteria after calls, one after another.  What a refused call was made on is kept. -/
def after (criteria : Criteria) (calls : List Call) : Criteria :=
  calls.foldl (fun c k => (c.call k).toOption.getD c) criteria

namespace Call

/-- Whether a call is refused: a range that is not two bounds, or values that are no list. -/
def isRefused : Call → Bool
  | tryBetween (.list [lower, upper]) => !(isBound lower && isBound upper)
  | tryBetween _ => true
  | tryValues _ (.list _) => false
  | tryValues _ _ => true
  | _ => false

/-- The calls that are not refused. -/
def accepted (calls : List Call) : List Call :=
  calls.filter fun k => !k.isRefused

lemma accepted_cons_of_isRefused {k : Call} (h : k.isRefused = true) (calls : List Call) :
    accepted (k :: calls) = accepted calls :=
  List.filter_cons_of_neg (by simp [h])

lemma accepted_cons_of_accepted {k : Call} (h : k.isRefused = false) (calls : List Call) :
    accepted (k :: calls) = k :: accepted calls :=
  List.filter_cons_of_pos (by simp [h])

def boost? : Call → Option Binary32
  | boost b => some b
  | _ => none

end Call

/-- The methods that compare the last node's field, ask whether it is there, or place it, are calls
that add the entry of the comparison. -/
theorem call_of_entry (c : Criteria) :
    (∀ operator v, c.call (.queryEntry (.of operator v)) = .ok (c.compare operator v)) ∧
      (∀ lower upper, c.call (.queryEntry (.of .between (.list [lower, upper]))) =
        .ok (c.between lower upper)) ∧
      (∀ values, c.call (.queryEntry (.of .oneOf (.list values))) = .ok (c.oneOf values)) ∧
      (∀ values, c.call (.queryEntry (.of .noneOf (.list values))) = .ok (c.noneOf values)) ∧
      c.call (.queryEntry (.flag .present)) = .ok c.present ∧
      c.call (.queryEntry (.flag .empty)) = .ok c.empty ∧
      c.call (.queryEntry (.flag .notEmpty)) = .ok c.notEmpty ∧
      (∀ location distance, c.call (.filterEntry (.of .within (.list [location, distance]))) =
        .ok (c.within location distance)) ∧
      ∀ topLeft bottomRight,
        c.call (.filterEntry (.of .boundingBox (.list [topLeft, bottomRight]))) =
          .ok (c.boundingBox topLeft bottomRight) :=
  ⟨fun _ _ => rfl, fun _ _ => rfl, fun _ => rfl, fun _ => rfl, rfl, rfl, rfl, fun _ _ => rfl,
    fun _ _ => rfl⟩

lemma call_eq_error_iff (c : Criteria) (k : Call) :
    (∃ e, c.call k = .error e) ↔ k.isRefused = true := by
  cases k with
  | tryBetween range =>
    simp only [call, tryBetween, Call.isRefused]
    split
    case h_1 lower upper =>
      split
      case isTrue hbounds => simp [hbounds]
      case isFalse hbounds => simp [hbounds]
    case h_2 => simp
  | tryValues operator values =>
    cases values <;> simp [call, tryValues, Call.isRefused]
  | _ => simp [call, Call.isRefused]

lemma after_cons (c : Criteria) (k : Call) (calls : List Call) :
    c.after (k :: calls) = ((c.call k).toOption.getD c).after calls := rfl

/-- A refused call leaves no trace. -/
lemma after_cons_of_isRefused {k : Call} (h : k.isRefused = true) (c : Criteria)
    (calls : List Call) : c.after (k :: calls) = c.after calls := by
  obtain ⟨e, he⟩ := (call_eq_error_iff c k).2 h
  rw [after_cons, he]
  rfl

/-- A call that is not refused appends its node, or else changes the last node. -/
lemma after_cons_of_accepted {k : Call} (h : k.isRefused = false) (before : List Node)
    (last : Node) (calls : List Call) :
    after ⟨before ++ [last]⟩ (k :: calls) = match k.appended? with
      | some next => after ⟨before ++ [last] ++ [next]⟩ calls
      | none => after ⟨before ++ [k.change last]⟩ calls := by
  obtain ⟨c, hc⟩ : ∃ c, call ⟨before ++ [last]⟩ k = .ok c := by
    cases hcall : call ⟨before ++ [last]⟩ k with
    | ok c => exact ⟨c, rfl⟩
    | error e =>
      rw [(call_eq_error_iff _ k).1 ⟨e, hcall⟩] at h
      cases h
  have heq := call_eq_ok hc
  rw [after_cons, hc]
  cases happended : k.appended? with
  | some next =>
    rw [happended] at heq
    rw [heq]
    rfl
  | none =>
    rw [happended] at heq
    rw [heq, update, updateLast_concat]
    rfl

/-! ## What calls make of the last node -/

/-- What calls make of the node that is the last one while they are made. -/
structure Continues (start : Node) (calls : List Call) (node : Node) : Prop where
  field : node.field = start.field
  conjunction : node.conjunction = start.conjunction
  /-- A negation stays, and a call may bring one about. -/
  negating : node.negating = (start.negating || calls.any Call.negates)
  /-- The boost that was set last counts, and not-a-number takes it away. -/
  boost : node.boost = match (calls.filterMap Call.boost?).getLast? with
    | some b => if b.isNaN then none else some b
    | none => start.boost
  /-- Behind the entries for the query are the first ones of those that were added. -/
  queryEntries : node.queryEntries =
    start.queryEntries ++ Entry.firstOf start.queryEntries (calls.flatMap Call.queryEntries)
  /-- Behind the entries for the filter are the first ones of those that were added. -/
  filterEntries : node.filterEntries =
    start.filterEntries ++ Entry.firstOf start.filterEntries (calls.flatMap Call.filterEntries)
  /-- Behind the criteria attached to the node are those that calls attached. -/
  subCriteria : node.subCriteria = start.subCriteria ++ calls.flatMap Call.attached

namespace Continues

lemma nil (start : Node) : Continues start [] start := by
  constructor <;> simp [Entry.firstOf]

/-- A call changes the node for the calls that follow. -/
lemma cons {start node : Node} {k : Call} {calls : List Call}
    (h : Continues (k.change start) calls node) : Continues start (k :: calls) node where
  field := h.field
  conjunction := h.conjunction
  negating := by
    rw [h.negating, Call.change, List.any_cons, Bool.or_assoc]
  boost := by
    rw [h.boost, Call.change]
    cases k with
    | boost b =>
      have hset : (Call.boost b :: calls).filterMap Call.boost? =
          b :: calls.filterMap Call.boost? := rfl
      rw [hset, List.getLast?_cons]
      -- A boost that is set later hides this one.
      cases (calls.filterMap Call.boost?).getLast? <;> rfl
    | _ => rfl
  queryEntries := by
    rw [h.queryEntries, ← foldl_addEntry, ← foldl_addEntry, List.flatMap_cons, List.foldl_append,
      Call.change]
  filterEntries := by
    rw [h.filterEntries, ← foldl_addEntry, ← foldl_addEntry, List.flatMap_cons, List.foldl_append,
      Call.change]
  subCriteria := by
    rw [h.subCriteria, Call.change, List.flatMap_cons, List.append_assoc]

end Continues

/-- The nodes that a node at the end of a chain and calls give rise to.  The node stays the last one
until a call appends a node, which is the last one then. -/
inductive Grown : Node → List Call → List Node → Prop where
  /-- No call appends a node. -/
  | last {start node : Node} {own : List Call} (stays : ∀ k ∈ own, k.appended? = none)
    (continues : Continues start own node) : Grown start own [node]
  /-- After some calls a node is appended, from which the rest grows. -/
  | next {start node following : Node} {own later : List Call} {k : Call} {nodes : List Node}
    (stays : ∀ k ∈ own, k.appended? = none) (continues : Continues start own node)
    (appends : k.appended? = some following) (grown : Grown following later nodes) :
    Grown start (own ++ k :: later) (node :: nodes)

namespace Grown

/-- A call that appends no node changes the node that grows. -/
lemma cons {start : Node} {k : Call} {calls : List Call} {nodes : List Node}
    (hk : k.appended? = none) (h : Grown (k.change start) calls nodes) :
    Grown start (k :: calls) nodes := by
  cases h with
  | last stays continues => exact .last (List.forall_mem_cons.2 ⟨hk, stays⟩) continues.cons
  | next stays continues appends grown =>
    exact .next (List.forall_mem_cons.2 ⟨hk, stays⟩) continues.cons appends grown

lemma ne_nil {start : Node} {calls : List Call} {nodes : List Node} (h : Grown start calls nodes) :
    nodes ≠ [] := by
  cases h <;> exact List.cons_ne_nil _ _

lemma filterMap_eq_nil {own : List Call} (h : ∀ k ∈ own, k.appended? = none) :
    own.filterMap Call.appended? = [] :=
  List.filterMap_eq_nil_iff.2 h

/-- There is the node itself, and one node for each call that appends one, with the field and the
conjunction that it is appended with. -/
lemma map_eq {start : Node} {calls : List Call} {nodes : List Node} (h : Grown start calls nodes) :
    nodes.map (fun n => (n.field, n.conjunction)) =
      (start :: calls.filterMap Call.appended?).map fun n => (n.field, n.conjunction) := by
  induction h with
  | last stays continues =>
    rw [filterMap_eq_nil stays, List.map_singleton, List.map_singleton, continues.field,
      continues.conjunction]
  | next stays continues appends _ ih =>
    rw [List.filterMap_append, filterMap_eq_nil stays, List.nil_append,
      List.filterMap_cons_some appends, List.map_cons, List.map_cons, ih, continues.field,
      continues.conjunction]

end Grown

/-- The nodes before the last one stay, and the rest grows from the last one. -/
lemma exists_grown (before : List Node) (last : Node) (calls : List Call) :
    ∃ nodes, (after ⟨before ++ [last]⟩ calls).chain = before ++ nodes ∧
      Grown last (Call.accepted calls) nodes := by
  induction calls generalizing before last with
  | nil => exact ⟨[last], rfl, .last (List.forall_mem_nil _) (.nil last)⟩
  | cons k calls ih =>
    cases hrefused : k.isRefused with
    | true =>
      rw [after_cons_of_isRefused hrefused, Call.accepted_cons_of_isRefused hrefused]
      exact ih before last
    | false =>
      rw [after_cons_of_accepted hrefused, Call.accepted_cons_of_accepted hrefused]
      cases happended : k.appended? with
      | some next =>
        -- The last node has its final form, and is one of those before the last one from now on.
        obtain ⟨nodes, hchain, hgrown⟩ := ih (before ++ [last]) next
        refine ⟨last :: nodes, ?_, .next (List.forall_mem_nil _) (.nil last) happended hgrown⟩
        rw [hchain, List.append_assoc, List.singleton_append]
      | none =>
        obtain ⟨nodes, hchain, hgrown⟩ := ih before (k.change last)
        exact ⟨nodes, hchain, hgrown.cons happended⟩

/-- Refused calls may be left out of a run. -/
lemma after_accepted (c : Criteria) (calls : List Call) :
    c.after (Call.accepted calls) = c.after calls := by
  induction calls generalizing c with
  | nil => rfl
  | cons k calls ih =>
    cases hrefused : k.isRefused with
    | true =>
      rw [Call.accepted_cons_of_isRefused hrefused, after_cons_of_isRefused hrefused]
      exact ih c
    | false =>
      rw [Call.accepted_cons_of_accepted hrefused, after_cons, after_cons]
      exact ih _

/-- Whatever calls are made on a criteria, its nodes before the last one stay as they are.  From the
last one grow, by the calls that are not refused, the node itself at its place and one node for each
call that appends one, with the field and the conjunction of the call.  After any number of the
calls there is a last node for the next one.  A call is refused for what it is given, and the
criteria after the calls is the one after those that are not refused. -/
theorem after_appendOnly (before : List Node) (last : Node) (calls : List Call) :
    (∃ nodes, (after ⟨before ++ [last]⟩ calls).chain = before ++ nodes ∧
      Grown last (Call.accepted calls) nodes ∧
      nodes.map (fun n => (n.field, n.conjunction)) =
        (last :: (Call.accepted calls).filterMap Call.appended?).map
          fun n => (n.field, n.conjunction)) ∧
    (∀ made, (after ⟨before ++ [last]⟩ (calls.take made)).chain ≠ []) ∧
    (∀ (c : Criteria) (k : Call), (∃ e, c.call k = .error e) ↔ k.isRefused = true) ∧
    after ⟨before ++ [last]⟩ calls = after ⟨before ++ [last]⟩ (Call.accepted calls) := by
  refine ⟨?_, fun made => ?_, call_eq_error_iff, (after_accepted _ calls).symm⟩
  · obtain ⟨nodes, hchain, hgrown⟩ := exists_grown before last calls
    exact ⟨nodes, hchain, hgrown, hgrown.map_eq⟩
  · obtain ⟨nodes, hchain, hgrown⟩ := exists_grown before last (calls.take made)
    rw [hchain]
    exact List.append_ne_nil_of_right_ne_nil _ hgrown.ne_nil

end Criteria

end SearchCriteria
