/-
# Criteria that are read and built on

A criteria is obtained by reading a text and by calls, in any order.  No call brings two equal
entries into a node, and none takes an entry out of one.  A text that gives a node two equal
entries is read with both, so that what has been read decides.

* `forall_allNodes_call`: what a call does to the nodes at every depth;
* `obtained_spec`: what holds of every criteria that is obtained, and when its entries are distinct.
-/
import SearchCriteria.Proofs.Codec.Normalization
import SearchCriteria.Proofs.Criteria.Entries

namespace SearchCriteria

open Numeric Outcome

namespace Criteria

/-- No node has two equal entries for the query, nor for the filter, at any depth. -/
def HasDistinctEntries (c : Criteria) : Prop :=
  ∀ n ∈ c.allNodes, Entry.Distinct n.queryEntries ∧ Entry.Distinct n.filterEntries

instance (c : Criteria) : Decidable c.HasDistinctEntries :=
  inferInstanceAs (Decidable (∀ n ∈ c.allNodes,
    List.Pairwise (fun d e => (d == e) = false) n.queryEntries ∧
      List.Pairwise (fun d e => (d == e) = false) n.filterEntries))

/-! ## What a call does to the nodes -/

section Nodes

variable {P : Node → Prop} {before : List Node} {last : Node}

lemma forall_allNodes_concat : (∀ m ∈ allNodes ⟨before ++ [last]⟩, P m) ↔
    (∀ m ∈ allNodes ⟨before⟩, P m) ∧ P last ∧ ∀ a ∈ last.subCriteria, ∀ m ∈ a.allNodes, P m := by
  rw [forall_allNodes, forall_allNodes, List.forall_mem_append, List.forall_mem_singleton]

lemma subCriteria_of_appended? {k : Call} {next : Node} (h : k.appended? = some next) :
    next.subCriteria = k.attached := by
  cases k <;> cases h <;> rfl

/-- Of a criteria after a call the same is said at every depth as of the nodes before the last one,
of the last one and what is attached to it, after the call, and of what the call attaches. -/
lemma forall_allNodes_call {c' : Criteria} {k : Call} (h : call ⟨before ++ [last]⟩ k = .ok c') :
    (∀ m ∈ c'.allNodes, P m) ↔
      (∀ m ∈ allNodes ⟨before⟩, P m) ∧ (∀ a ∈ last.subCriteria, ∀ m ∈ a.allNodes, P m) ∧
        (match k.appended? with
          | some next => P last ∧ P next
          | none => P (k.change last)) ∧
        ∀ a ∈ k.attached, ∀ m ∈ a.allNodes, P m := by
  rw [call_eq_ok h]
  cases happended : k.appended? with
  | some next =>
    simp only [append]
    rw [forall_allNodes_concat, forall_allNodes_concat, subCriteria_of_appended? happended]
    tauto
  | none =>
    simp only [update, updateLast_concat]
    rw [forall_allNodes_concat]
    simp only [Call.change, List.forall_mem_append]
    tauto

end Nodes

lemma bare_of_appended? {k : Call} {next : Node} (h : k.appended? = some next) :
    next.boost = none ∧ next.queryEntries = [] ∧ next.filterEntries = [] := by
  cases k <;> cases h <;> exact ⟨rfl, rfl, rfl⟩

lemma Rooted.exists_last {c : Criteria} (h : Rooted c) :
    ∃ before last, c = ⟨before ++ [last]⟩ := by
  cases h with
  | @chain ns root attached =>
    obtain rfl | ⟨before, last, rfl⟩ := List.eq_nil_or_concat ns
    · exact absurd rfl root
    · exact ⟨before, last, by rw [List.concat_eq_append]⟩

/-- Calls set no boost to not-a-number. -/
lemma hasNumberBoosts_call {c c' : Criteria} {k : Call} (hroot : Rooted c)
    (h : c.call k = .ok c') (hc : c.HasNumberBoosts) (hk : ∀ a ∈ k.attached, a.HasNumberBoosts) :
    c'.HasNumberBoosts := by
  obtain ⟨before, last, rfl⟩ := hroot.exists_last
  obtain ⟨hbefore, hlast, hsubs⟩ := forall_allNodes_concat.1 hc
  refine (forall_allNodes_call h).2 ⟨hbefore, hsubs, ?_, hk⟩
  cases happended : k.appended? with
  | some next => exact ⟨hlast, fun b hb => by simp [(bare_of_appended? happended).1] at hb⟩
  | none =>
    intro b hb
    unfold Call.change Call.boostAfter at hb
    split at hb
    case h_1 set =>
      split at hb
      · cases hb
      case isFalse hnumber =>
        rw [← Option.some.inj hb]
        exact Bool.eq_false_iff.2 hnumber
    case h_2 => exact hlast b hb

/-- Entries are distinct after a call if and only if they were before, in the criteria and in those
that the call attaches. -/
lemma hasDistinctEntries_call {c c' : Criteria} {k : Call} (hroot : Rooted c)
    (h : c.call k = .ok c') : c'.HasDistinctEntries ↔
      c.HasDistinctEntries ∧ ∀ a ∈ k.attached, a.HasDistinctEntries := by
  obtain ⟨before, last, rfl⟩ := hroot.exists_last
  rw [HasDistinctEntries, HasDistinctEntries, forall_allNodes_call h, forall_allNodes_concat]
  have hown : (match k.appended? with
      | some next => (Entry.Distinct last.queryEntries ∧ Entry.Distinct last.filterEntries) ∧
        Entry.Distinct next.queryEntries ∧ Entry.Distinct next.filterEntries
      | none => Entry.Distinct (k.change last).queryEntries ∧
        Entry.Distinct (k.change last).filterEntries) ↔
      Entry.Distinct last.queryEntries ∧ Entry.Distinct last.filterEntries := by
    cases happended : k.appended? with
    | some next =>
      obtain ⟨-, hquery, hfilter⟩ := bare_of_appended? happended
      simp [hquery, hfilter, Entry.Distinct]
    | none =>
      simp only [Call.change]
      rw [distinct_foldl_addEntry, distinct_foldl_addEntry]
  rw [hown]
  simp only [HasDistinctEntries]
  tauto

/-! ## Criteria that are obtained -/

/-- The criteria that can be obtained, together with those that have been read on the way: roots,
what is read from texts, and what calls make of them with attached criteria that have been obtained
themselves. -/
inductive Obtained : List Criteria → Criteria → Prop where
  /-- A root about a field. -/
  | on (field : Field) : Obtained [] (.on field)
  /-- A root that only groups. -/
  | anchor : Obtained [] .anchor
  /-- A root that only groups, as alternatives. -/
  | anchorOr : Obtained [] .anchorOr
  /-- What is read from a text. -/
  | read {text : String} {c : Criteria} (read : readFrom read text = .ok c) : Obtained [c] c
  /-- What a call makes of a criteria. -/
  | call {reads : List Criteria} {c c' : Criteria} {k : Call}
    {attached : List (List Criteria × Criteria)} (obtained : Obtained reads c)
    (parts : ∀ p ∈ attached, Obtained p.1 p.2) (attaches : k.attached = attached.map Prod.snd)
    (called : c.call k = .ok c') : Obtained (reads ++ attached.flatMap Prod.fst) c'

lemma spec_bare (field : Option Field) (conjunction : Conjunction) :
    HasNumberBoosts ⟨[.bare field conjunction]⟩ ∧
      HasDistinctEntries ⟨[.bare field conjunction]⟩ := by
  constructor
  · exact forall_allNodes.2 (List.forall_mem_singleton.2 ⟨nofun, nofun⟩)
  · exact forall_allNodes.2 (List.forall_mem_singleton.2 ⟨⟨.nil, .nil⟩, nofun⟩)

/-- Whatever is obtained by reading and by calls, every chain has a root and no boost is
not-a-number, at any depth.  No node has two equal entries if and only if this holds of all criteria
that have been read on the way. -/
theorem obtained_spec {reads : List Criteria} {c : Criteria} (h : Obtained reads c) :
    Rooted c ∧ c.HasNumberBoosts ∧
      (c.HasDistinctEntries ↔ ∀ r ∈ reads, r.HasDistinctEntries) := by
  -- All three roots are a single node.
  have hroot : ∀ field conjunction, Rooted ⟨[.bare field conjunction]⟩ ∧
      HasNumberBoosts ⟨[.bare field conjunction]⟩ ∧
      (HasDistinctEntries ⟨[.bare field conjunction]⟩ ↔
        ∀ r ∈ ([] : List Criteria), r.HasDistinctEntries) := by
    intro field conjunction
    obtain ⟨hboosts, hentries⟩ := spec_bare field conjunction
    exact ⟨rooted_bare field conjunction, hboosts, iff_of_true hentries nofun⟩
  induction h with
  | on field => exact hroot _ _
  | anchor => exact hroot _ _
  | anchorOr => exact hroot _ _
  | @read text c hread =>
    have hc := (yields_criteria maxDepth).of_readFrom hread
    refine ⟨hc.rooted, hc.boosts, ?_⟩
    rw [List.forall_mem_singleton]
  | @call reads c c' k attached obtained parts attaches called ih ihParts =>
    obtain ⟨hrooted, hboosts, hentries⟩ := ih
    -- The criteria that the call attaches are those that have been obtained for it.
    have hattached : ∀ {Q : Criteria → Prop}, (∀ p ∈ attached, Q p.2) → ∀ a ∈ k.attached, Q a := by
      intro Q hQ a ha
      rw [attaches] at ha
      obtain ⟨p, hp, rfl⟩ := List.mem_map.1 ha
      exact hQ p hp
    refine ⟨rooted_call hrooted (hattached fun p hp => (ihParts p hp).1) called,
      hasNumberBoosts_call hrooted called hboosts (hattached fun p hp => (ihParts p hp).2.1), ?_⟩
    have hparts : (∀ a ∈ k.attached, a.HasDistinctEntries) ↔
        ∀ r ∈ attached.flatMap Prod.fst, r.HasDistinctEntries := by
      rw [attaches, List.forall_mem_map, List.forall_mem_flatMap]
      exact forall₂_congr fun p hp => (ihParts p hp).2.2
    rw [hasDistinctEntries_call hrooted called, hentries, hparts, List.forall_mem_append]

/-- The text of a criteria with one entry. -/
def entryOnce : String :=
  "[[[[\"a\"],\"and\",false,null,[[\"EQUALS\",\"x\"]],[],[]]]]"

/-- The entry of the text is added again to what has been read, and a criteria is attached to it.
The node has one entry still. -/
theorem obtained_addedAgain : ∃ c c' c'', readFrom read entryOnce = .ok c ∧
    c.call (.queryEntry (.of .equals (.text "x"))) = .ok c' ∧
    c'.call (.attach [.on (.named "b")]) = .ok c'' ∧ Obtained [c] c'' ∧
    Rooted c'' ∧ c''.HasNumberBoosts ∧ c''.HasDistinctEntries := by
  have hread : (readFrom read entryOnce).toOption.map (fun c => decide c.HasDistinctEntries) =
      some true := by decide +kernel
  obtain ⟨c, hc, hentries⟩ := Option.map_eq_some_iff.1 hread
  have hadded : Obtained [c] (c.addQueryEntry (.of .equals (.text "x"))) :=
    @Obtained.call [c] c _ (.queryEntry _) [] (.read (eq_ok_of_toOption hc)) nofun rfl rfl
  have hattached : Obtained [c]
      ((c.addQueryEntry (.of .equals (.text "x"))).attach [.on (.named "b")]) :=
    @Obtained.call [c] _ _ (.attach _) [([], .on (.named "b"))] hadded
      (List.forall_mem_singleton.2 (.on _)) rfl rfl
  obtain ⟨hrooted, hboosts, hdistinct⟩ := obtained_spec hattached
  exact ⟨c, _, _, eq_ok_of_toOption hc, rfl, rfl, hattached, hrooted, hboosts,
    hdistinct.2 (List.forall_mem_singleton.2 (of_decide_eq_true hentries))⟩

/-- A criteria with the same entry twice, which no calls make. -/
def entryTwice : Criteria :=
  ⟨[{ Node.bare (some (.named "a")) .and with
      queryEntries := [.of .equals (.text "x"), .of .equals (.text "x")] }]⟩

/-- A criteria with the same entry twice is read from its text with both. -/
theorem obtained_entryTwice : readFrom read entryTwice.encode.toText = .ok entryTwice ∧
    Obtained [entryTwice] entryTwice ∧ ¬entryTwice.HasDistinctEntries := by
  have hroot : Rooted entryTwice := by
    refine .chain (List.cons_ne_nil _ _) (List.forall_mem_singleton.2 ?_)
    exact List.forall_mem_nil _
  have hboosts : ∀ n ∈ entryTwice.allNodes, n.boost = none :=
    forall_allNodes.2 (List.forall_mem_singleton.2 ⟨rfl, List.forall_mem_nil _⟩)
  have hvalues : ∀ v ∈ entryTwice.values, v = .text "x" := by
    have hall : entryTwice.values = [.text "x", .text "x"] := rfl
    simp [hall]
  have hstable : (Value.text "x").IsStable := Value.isStable_of_not_list rfl (by decide)
  have hread : readFrom read entryTwice.encode.toText = .ok entryTwice := by
    rw [readFrom_encode hroot (by decide) (fun n hn b hb => ?boost) fun v hv => ?value,
      mapValues_eq_self fun v hv => ?same]
    case boost =>
      rw [hboosts n hn] at hb
      cases hb
    case value =>
      rw [hvalues v hv]
      exact ⟨by simp, fun w hw => (hstable w hw).1⟩
    case same =>
      rw [hvalues v hv]
      exact Value.reread_of_not_list rfl
  exact ⟨hread, .read hread, by decide⟩

end Criteria

end SearchCriteria
