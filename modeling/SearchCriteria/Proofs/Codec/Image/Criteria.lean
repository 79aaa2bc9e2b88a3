/-
# Criteria that are read

A criteria that has been read has a root at every depth, its values are stable, and none of them is
null: what is given as null is not there.  Its boosts are numbers.  It is written with no more
levels than it was read from.

Main statement: `yields_criteria`, from what is read of fields, entries and nodes.
-/
import SearchCriteria.Proofs.Codec.Criteria
import SearchCriteria.Proofs.Codec.Image.Value

namespace SearchCriteria

open Numeric Outcome

/-- A field is written with one level. -/
lemma yields_field : Yields Field.read fun levels field => field.encode.depth ≤ levels := by
  intro levels d field hd h
  obtain ⟨below, rfl, -⟩ := Shape.obtains_of_read (by decide) hd h
  refine Json.depth_object_le ?_
  simp only [List.forall_mem_append, List.forall_mem_singleton]
  exact ⟨⟨Nat.zero_le _, Json.depth_optionalMember_le fun _ _ => Nat.zero_le _⟩, Nat.zero_le _⟩

/-- The value of an entry is there and stable, or there is none; the entry is written with no more
levels than there are. -/
def Entry.IsRead (levels : Nat) (entry : Entry) : Prop :=
  (∀ v, entry.value = some v → v ≠ .null ∧ v.IsStable) ∧ entry.encode.depth ≤ levels

lemma yields_entry : Yields Entry.read fun levels entry => entry.IsRead levels := by
  intro levels d entry hd h
  obtain ⟨below, rfl, he⟩ := Shape.obtains_of_read (by decide) hd h
  have hvalue : ∀ v, entry.value = some v → v ≠ .null ∧ v.IsRead below := by
    refine he.induction nofun ?_
    simp only [Entry.shape, List.forall_mem_cons]
    refine ⟨?operator, ?value, List.forall_mem_nil _⟩
    case operator => exact Member.preserves_any fun _ _ ha => ha
    case value => exact Member.preserves_of Value.yields_optionalValue fun _ _ _ ho => ho
  refine ⟨fun v hv => (hvalue v hv).imp_right And.left, Json.depth_object_le ?_⟩
  refine List.forall_mem_cons.2 ⟨Nat.zero_le _, ?_⟩
  exact Json.depth_optionalMember_le fun v hv => (hvalue v hv).2.2

lemma Numeric.Binary.isNaN_ofUnits (f : Format) (negative : Bool) (num den : Nat) :
    (Binary.ofUnits f negative num den).isNaN = false := by
  have hparts : ∀ m s, (Binary.ofParts f negative m s).isNaN = false := by
    intro m s
    unfold Binary.ofParts
    split <;> rfl
  simp only [Binary.ofUnits]
  split <;> exact hparts _ _

lemma yields_readSingle : Yields readSingle fun _ b => b.isNaN = false := by
  intro levels d b hd h
  unfold readSingle at h
  split at h
  case h_1 n =>
    rw [← Except.ok.inj h, Binary.ofInt]
    exact Binary.isNaN_ofUnits _ _ _ _
  case h_2 x =>
    rw [Draft.Fits] at hd
    rw [← Except.ok.inj h]
    cases x with
    | finite negative m s hcanonical =>
      rw [Binary.convert]
      exact Binary.isNaN_ofUnits _ _ _ _
    | _ => cases hd
  case h_3 => exact absurd h mismatch_ne_ok

namespace Criteria

/-- No boost is not-a-number, at any depth. -/
def HasNumberBoosts (c : Criteria) : Prop :=
  ∀ n ∈ c.allNodes, ∀ b, n.boost = some b → b.isNaN = false

/-- What is said of criteria that are read. -/
structure IsRead (levels : Nat) (c : Criteria) : Prop where
  /-- Every chain has a root. -/
  rooted : Rooted c
  /-- The values are stable, and none of them is null. -/
  values : ∀ v ∈ c.values, v ≠ .null ∧ v.IsStable
  /-- Boosts are numbers. -/
  boosts : c.HasNumberBoosts
  /-- The criteria is written with no more levels than there are. -/
  depth : c.encode.depth ≤ levels

/-- What is said of nodes that are read. -/
structure NodeIsRead (levels : Nat) (n : Node) : Prop where
  /-- The values of the entries are stable, and none of them is null. -/
  values : ∀ v ∈ n.values, v ≠ .null ∧ v.IsStable
  /-- The boost is a number. -/
  boost : ∀ b, n.boost = some b → b.isNaN = false
  /-- The same is said of the criteria attached to the node, and they have roots. -/
  attached : ∀ c ∈ n.subCriteria,
    Rooted c ∧ (∀ v ∈ c.values, v ≠ .null ∧ v.IsStable) ∧ c.HasNumberBoosts
  /-- The node is written with no more levels than there are. -/
  depth : (encodeNode n).depth ≤ levels

lemma yields_node {read : Reader Criteria} (hread : Yields read fun levels c => c.IsRead levels) :
    Yields (Node.shape read).read fun levels n => NodeIsRead levels n := by
  intro levels d n hd h
  obtain ⟨below, rfl, hn⟩ := Shape.obtains_of_read (Node.nodup_keys read) hd h
  obtain ⟨lower, rfl⟩ := hn.exists_lower (List.mem_of_getElem? (i := 4) rfl)
  have hparts : (∀ f, n.field = some f → f.encode.depth ≤ lower + 1) ∧
      (∀ b, n.boost = some b → b.isNaN = false) ∧
      (∀ e ∈ n.queryEntries, e.IsRead lower) ∧ (∀ e ∈ n.filterEntries, e.IsRead lower) ∧
      ∀ c ∈ n.subCriteria, c.IsRead lower := by
    refine hn.induction ⟨nofun, nofun, nofun, nofun, nofun⟩ ?_
    simp only [Node.shape, List.forall_mem_cons]
    refine ⟨?field, ?conjunction, ?negating, ?boost, ?query, ?filter, ?subs, List.forall_mem_nil _⟩
    case field =>
      exact Member.preserves_of (yields_readOption yields_field) fun _ _ ha hf => ⟨hf, ha.2⟩
    case boost =>
      exact Member.preserves_of (yields_readOption yields_readSingle) fun _ _ ha hb =>
        ⟨ha.1, hb, ha.2.2⟩
    case query =>
      exact Member.preserves_list yields_entry fun _ _ ha hes => ⟨ha.1, ha.2.1, hes, ha.2.2.2⟩
    case filter =>
      exact Member.preserves_list yields_entry fun _ _ ha hes =>
        ⟨ha.1, ha.2.1, ha.2.2.1, hes, ha.2.2.2.2⟩
    case subs =>
      exact Member.preserves_list hread fun _ _ ha hcs =>
        ⟨ha.1, ha.2.1, ha.2.2.1, ha.2.2.2.1, hcs⟩
    all_goals exact Member.preserves_any fun _ _ ha => ha
  obtain ⟨hfield, hboost, hquery, hfilter, hsubs⟩ := hparts
  constructor
  case values =>
    intro v hv
    obtain ⟨e, he, hv⟩ := Node.mem_values.1 hv
    rcases he with he | he
    · exact (hquery e he).1 v hv
    · exact (hfilter e he).1 v hv
  case boost => exact hboost
  case attached =>
    exact fun c hc => ⟨(hsubs c hc).rooted, (hsubs c hc).values, (hsubs c hc).boosts⟩
  case depth =>
    refine Json.depth_object_le ?_
    simp only [List.forall_mem_cons]
    refine ⟨Json.depth_ofOption_le hfield, Nat.zero_le _, Nat.zero_le _,
      Json.depth_ofOption_le fun _ _ => Nat.zero_le _, ?queryEntries, ?filterEntries,
      ?subCriteria, List.forall_mem_nil _⟩
    case queryEntries =>
      exact Json.depth_array_le (List.forall_mem_map.2 fun e he => (hquery e he).2)
    case filterEntries =>
      exact Json.depth_array_le (List.forall_mem_map.2 fun e he => (hfilter e he).2)
    case subCriteria =>
      exact Json.depth_array_le (List.forall_mem_map.2 fun c hc => (hsubs c hc).depth)

/-- A criteria that is read has a root, its values are stable and its boosts are numbers. -/
theorem yields_criteria (fuel : Nat) :
    Yields (readWithin fuel) fun levels c => c.IsRead levels := by
  induction fuel with
  | zero =>
    intro levels d c _ h
    cases h
  | succ fuel ih =>
    intro levels d c hd h
    obtain ⟨chain, hchain, h⟩ := bind_eq_ok_iff.1 h
    obtain ⟨below, rfl, hc⟩ := Shape.obtains_of_read (nodup_chainKeys _) hd hchain
    obtain ⟨lower, rfl⟩ := hc.exists_lower List.mem_cons_self
    have hnodes : ∀ n ∈ chain, NodeIsRead lower n := by
      refine hc.induction (List.forall_mem_nil _) (List.forall_mem_singleton.2 ?_)
      exact Member.preserves_list (yields_node ih) fun _ _ _ hns => hns
    split at h
    case isTrue => cases h
    case isFalse hempty =>
      rw [← Except.ok.inj h]
      constructor
      case rooted =>
        refine .chain (by simpa using hempty) fun n hn c hc => ?_
        exact ((hnodes n hn).attached c hc).1
      case values =>
        intro v hv
        obtain ⟨n, hn, hv⟩ := mem_values_mk.1 hv
        rcases hv with hv | ⟨c, hc, hv⟩
        · exact (hnodes n hn).values v hv
        · exact ((hnodes n hn).attached c hc).2.1 v hv
      case boosts =>
        exact forall_allNodes.2 fun n hn =>
          ⟨(hnodes n hn).boost, fun c hc => ((hnodes n hn).attached c hc).2.2⟩
      case depth =>
        rw [encode_mk]
        refine Json.depth_object_le (List.forall_mem_singleton.2 ?_)
        exact Json.depth_array_le (List.forall_mem_map.2 fun n hn => (hnodes n hn).depth)

end Criteria

end SearchCriteria
