/-
# Criteria read back

Criteria are read from their JSON field by field and node by node.  Names, flags and fields are read
as themselves; boosts and values are what a text may change.

Main statement: criteria whose nodes are all carried by JSON are read from it with their values as
they are read back, and otherwise as they are.
-/
import Mathlib.Data.List.Nodup
import SearchCriteria.Codec.Criteria
import SearchCriteria.Proofs.Codec.Value
import SearchCriteria.Proofs.Json.Records
import SearchCriteria.Proofs.Criteria.Values

namespace SearchCriteria

open Numeric Outcome

/-! ## Names -/

/-- A name is read as the value that it names, if no two values share one. -/
lemma readName_name {α : Type} {name : α → String} {all : List α} (hnodup : (all.map name).Nodup)
    {a : α} (ha : a ∈ all) : readName name all (.text (name a)) = .ok a := by
  have hlookup : ∀ as : List α, (as.map name).Nodup → a ∈ as →
      (as.map fun b => Variant.bare (name b) b).lookup (name a) =
        some (Variant.bare (name a) a).2 := by
    intro as
    induction as with
    | nil => exact fun _ h => nomatch h
    | cons b bs ih =>
      intro hnodup ha
      rw [List.map_cons, List.nodup_cons] at hnodup
      rw [List.map_cons, Variant.bare, List.lookup_cons]
      obtain rfl | ha := List.mem_cons.1 ha
      · rw [beq_self_eq_true]
        rfl
      · have hne : name a ≠ name b := fun h => hnodup.1 (h ▸ List.mem_map_of_mem ha)
        rw [beq_false_of_ne hne]
        exact ih hnodup.2 ha
  rw [readName, readChoice, readVariant, hlookup all hnodup ha]
  rfl

lemma FieldKind.read_name (kind : FieldKind) : read (.text kind.name) = .ok kind :=
  readName_name (by decide) (by cases kind <;> decide)

lemma Conjunction.read_name (conjunction : Conjunction) :
    read (.text conjunction.name) = .ok conjunction :=
  readName_name (by decide) (by cases conjunction <;> decide)

lemma Operator.read_name (operator : Operator) : read (.text operator.name) = .ok operator :=
  readName_name (by decide) (Operator.mem_all operator)

variable (carrier : Carrier)

/-! ## Fields -/

lemma Field.read_draftWith (field : Field) : read (field.encode.draftWith carrier) = .ok field := by
  refine Shape.read_of_fills (by decide) ?_
  simp only [List.cons_append, List.nil_append]
  refine .given rfl (.optional rfl (fun path _ => rfl) ?_)
  exact .given (FieldKind.read_name field.kind) (.done _)

/-! ## Optional values -/

/-- What does not start like `null` is read as a value that is there. -/
lemma readOption_of_ne {α : Type} (read : Reader α) {d : Draft} (hnull : d ≠ .null)
    (hfault : ∀ cause skip, d ≠ .fault .null cause skip) :
    readOption read d = read d >>= fun a => .ok (some a) := by
  unfold readOption
  split
  case h_1 => exact absurd rfl hnull
  case h_2 => exact absurd rfl (hfault _ _)
  case h_3 => rfl

lemma draft_ne_fault (j : Json) (cause skip : Fault) : j.draft ≠ .fault .null cause skip := by
  cases j <;> rw [Json.draft] <;> (try split) <;> simp

/-! ## Entries -/

/-- What it takes for a value to be carried by JSON as a value that is there. -/
def Value.IsCarried (v : Value) : Prop :=
  v ≠ .null ∧ ∀ w ∈ v.parts, w.isPortable = true

lemma readOption_value {v : Value} (h : v.IsCarried) :
    readOption Value.read (v.encode.draftWith carrier) = .ok (some v.reread) := by
  have hread : Value.read (v.encode.draftWith carrier) = .ok v.reread :=
    (Value.read_draftWith_iff carrier v _).2 (Value.ofJson?_carried v h.2)
  have hnull : v.encode.draftWith carrier ≠ .null := by
    intro hnull
    have hcarried := Value.carried_of_draftWith_eq_null carrier hnull
    exact h.1 (Value.eq_null_of_carried hcarried (h.2 v v.self_mem_parts))
  have hfault := Value.draftWith_encode carrier v ▸ draft_ne_fault v.encode
  rw [readOption_of_ne _ hnull hfault, hread, ok_bind]

/-- An entry is read from its JSON with its value as that is read back. -/
lemma Entry.read_draftWith {entry : Entry} (h : ∀ v, entry.value = some v → v.IsCarried) :
    read (entry.encode.draftWith carrier) = .ok (entry.mapValue Value.reread) := by
  obtain ⟨operator, value⟩ := entry
  refine Shape.read_of_fills (by decide) (.given (Operator.read_name operator) ?_)
  cases value with
  | none => exact .skip (by decide) (.done _)
  | some v => exact .given (readOption_value carrier (h v rfl)) (.done _)

/-! ## Nodes -/

lemma readOption_field (field : Option Field) :
    readOption Field.read ((Json.ofOption Field.encode field).draftWith carrier) = .ok field := by
  cases field with
  | none => rfl
  | some field =>
    rw [Json.ofOption, readOption_of_ne _ (by simp [Field.encode, Json.draftWith])
      (by simp [Field.encode, Json.draftWith]), Field.read_draftWith, ok_bind]

lemma readOption_boost {boost : Option Binary32}
    (h : ∀ b, boost = some b → readSingle (carrier.single b) = .ok b) :
    readOption readSingle ((Json.ofOption .single boost).draftWith carrier) = .ok boost := by
  cases boost with
  | none => rfl
  | some b =>
    rw [Json.ofOption, Json.draftWith, readOption_of_ne _ ?null ?fault, h b rfl, ok_bind]
    case null =>
      intro hnull
      have hread := h b rfl
      rw [hnull] at hread
      cases hread
    case fault =>
      intro cause skip hfault
      have hread := h b rfl
      rw [hfault] at hread
      cases hread

lemma readAll_draftItemsWith {α : Type} {read : Reader α} {encode : α → Json} {f : α → α}
    {as : List α} (h : ∀ a ∈ as, read ((encode a).draftWith carrier) = .ok (f a)) :
    (Json.draftItemsWith carrier (as.map encode)).readAll read = .ok (as.map f) := by
  induction as with
  | nil => rfl
  | cons a as ih =>
    obtain ⟨ha, has⟩ := List.forall_mem_cons.1 h
    rw [List.map_cons, Json.draftItemsWith, Items.readAll, ha, ok_bind, ih has, ok_bind,
      List.map_cons]

lemma Node.nodup_keys (read : Reader Criteria) :
    ((Node.shape read).members.map Member.key).Nodup := by
  change ["field", "conjunction", "negating", "boost", "query_entries", "filter_entries",
    "sub_criteria"].Nodup
  decide

namespace Criteria

lemma encodeAll_eq_map (cs : List Criteria) : encodeAll cs = cs.map encode := by
  induction cs with
  | nil => rw [encodeAll, List.map_nil]
  | cons c cs ih => rw [encodeAll, ih, List.map_cons]

/-- The JSON value of a node. -/
def encodeNode (node : Node) : Json :=
  .object [
    ("field", Json.ofOption Field.encode node.field),
    ("conjunction", .text node.conjunction.name),
    ("negating", .bool node.negating),
    ("boost", Json.ofOption .single node.boost),
    ("query_entries", .array (node.queryEntries.map Entry.encode)),
    ("filter_entries", .array (node.filterEntries.map Entry.encode)),
    ("sub_criteria", .array (node.subCriteria.map encode))]

lemma encodeNodes_eq_map (ns : List Node) : encodeNodes ns = ns.map encodeNode := by
  induction ns with
  | nil => rw [encodeNodes, List.map_nil]
  | cons n ns ih =>
    cases n
    rw [encodeNodes, ih, encodeAll_eq_map, List.map_cons, encodeNode]

lemma encode_mk (ns : List Node) :
    encode ⟨ns⟩ = .object [("chain", .array (ns.map encodeNode))] := by
  rw [encode, encodeNodes_eq_map]

/-- What it takes for a node to be carried by JSON, apart from the criteria attached to it. -/
structure NodeIsCarried (node : Node) : Prop where
  /-- The boost is read as itself. -/
  boost : ∀ b, node.boost = some b → readSingle (carrier.single b) = .ok b
  /-- The values of the entries are carried. -/
  values : ∀ v ∈ node.values, v.IsCarried

/-- A node is read from its JSON with its values as they are read back, if the criteria attached
to it are. -/
lemma read_node {read : Reader Criteria} {node : Node} (h : NodeIsCarried carrier node)
    (hsubs : ∀ c ∈ node.subCriteria,
      read (c.encode.draftWith carrier) = .ok (c.mapValues Value.reread)) :
    (Node.shape read).read ((encodeNode node).draftWith carrier) =
      .ok (mapValuesAt Value.reread node) := by
  have hentry : ∀ e, e ∈ node.queryEntries ∨ e ∈ node.filterEntries →
      Entry.read (e.encode.draftWith carrier) = .ok (e.mapValue Value.reread) :=
    fun e he => Entry.read_draftWith carrier fun v hv => h.values v (Node.mem_values.2 ⟨e, he, hv⟩)
  have hboost := readOption_boost carrier h.boost
  have hquery := readAll_draftItemsWith carrier fun e he => hentry e (.inl he)
  have hfilter := readAll_draftItemsWith carrier fun e he => hentry e (.inr he)
  have hattached := readAll_draftItemsWith carrier hsubs
  refine Shape.read_of_fills (Node.nodup_keys read) ?_
  refine .given (readOption_field carrier node.field) (.given (Conjunction.read_name _) ?_)
  refine .given rfl (.given hboost ?_)
  exact .given hquery (.given hfilter (.given hattached (.done _)))

/-! ## Trees -/

/-- Criteria attached to a node nest less deep than the chain. -/
lemma depth_subCriteria_lt {ns : List Node} {n : Node} (hn : n ∈ ns) {c : Criteria}
    (hc : c ∈ n.subCriteria) : c.encode.depth < (encode ⟨ns⟩).depth := by
  have hsub := Json.depth_le_depthOfItems (List.mem_map_of_mem (f := encode) hc)
  have hnode := Json.depth_le_depthOfItems (List.mem_map_of_mem (f := encodeNode) hn)
  have hdepth : (encode ⟨ns⟩).depth = Json.depthOfItems (ns.map encodeNode) + 2 := by
    simp [encode_mk, Json.depth, Json.depthOfMembers]
  have hlt : Json.depthOfItems (n.subCriteria.map encode) < (encodeNode n).depth := by
    simp only [encodeNode, Json.depth, Json.depthOfMembers]
    omega
  omega

lemma nodup_chainKeys (read : Reader Criteria) :
    ((chainShape read).members.map Member.key).Nodup :=
  List.nodup_singleton _

lemma read_chain {read : Reader Criteria} {ns : List Node}
    (h : ∀ n ∈ ns, (Node.shape read).read ((encodeNode n).draftWith carrier) =
      .ok (mapValuesAt Value.reread n)) :
    (chainShape read).read ((encode ⟨ns⟩).draftWith carrier) =
      .ok (ns.map (mapValuesAt Value.reread)) := by
  rw [encode_mk]
  refine Shape.read_of_fills (nodup_chainKeys read) ?_
  exact .given (readAll_draftItemsWith carrier h) (.done _)

/-- Criteria that nest no deeper than the levels are read from their JSON, with their values as they
are read back, if all their nodes are carried. -/
theorem readWithin_draftWith {c : Criteria} (hroot : Rooted c) (levels : Nat)
    (hdepth : c.encode.depth ≤ levels) (hnodes : ∀ n ∈ c.allNodes, NodeIsCarried carrier n) :
    readWithin levels (c.encode.draftWith carrier) = .ok (c.mapValues Value.reread) := by
  induction hroot generalizing levels with
  | @chain ns root _ ih =>
    have hpos : 0 < (encode ⟨ns⟩).depth := by simp [encode_mk, Json.depth]
    obtain ⟨levels, rfl⟩ : ∃ n, levels = n + 1 := ⟨levels - 1, by omega⟩
    -- Criteria attached to a node nest less deep, so that one level less is enough for them.
    have hread : ∀ n ∈ ns,
        (Node.shape (readWithin levels)).read ((encodeNode n).draftWith carrier) =
          .ok (mapValuesAt Value.reread n) := by
      intro n hn
      refine read_node carrier (hnodes n (mem_allNodes_of_chain hn)) fun c hc => ?_
      have hlt := depth_subCriteria_lt hn hc
      refine ih n hn c hc levels (by omega) fun m hm => hnodes m ?_
      exact mem_allNodes_of_attached hn hc hm
    rw [readWithin, read_chain carrier hread, ok_bind, mapValues_mk]
    cases ns with
    | nil => exact absurd rfl root
    | cons n ns => rfl

end Criteria

end SearchCriteria
