/-
# Reading normalizes

A text may say the same in many ways: records may be given as arrays, members that are not known are
skipped, members that may be missing may be null, points and distances may be arrays of two items,
moments have several spellings.  Whatever of this a text makes use of, the value that is read is
written in one way, and that text is read as the same value again.

Main statement: what is read from a text is in normal form, for criteria, queries and compiled
criteria alike.  The values that are read belong to the images of the readers, and on these reading
undoes writing.
-/
import SearchCriteria.Proofs.Codec.Image.Criteria
import SearchCriteria.Proofs.Codec.Image.Query
import SearchCriteria.Proofs.Codec.RoundTrip

namespace SearchCriteria

open Numeric Outcome

/-- What is read from a text is read from a draft that fits. -/
lemma Yields.of_readFrom {α : Type} {read : Reader α} {P : Nat → α → Prop} (h : Yields read P)
    {text : String} {a : α} (hread : readFrom read text = .ok a) : P maxDepth a := by
  obtain ⟨b, hb, hread⟩ := bind_eq_ok_iff.1 hread
  have hsame : b = a := by
    split at hread
    · split at hread
      · exact Except.ok.inj hread
      · cases hread
    · cases hread
  rw [← hsame]
  exact h maxDepth _ b (Draft.fits_ofText text.toList maxDepth) hb

/-! ## Normal forms -/

/-- A boost is read back from its text.  This stands for the assumption that numbers are read back
equal.  It says more than that the boost is finite: an infinite one is not read back, by
`isFinite_of_readSingle`, but neither is `7.038531e-26`, which is rounded to 64 bits on the way to
its 32 bits and ends at a neighbour. -/
def IsReadBack (b : Binary32) : Prop :=
  readFrom readSingle (Json.single b).toText = .ok b

/-- Whatever is read from any text, if its boosts are read back from their texts, is read again from
the text that it is written as, and is equal to itself. -/
def Normalizes {α : Type} [BEq α] (read : Reader α) (encode : α → Json)
    (boosts : α → List Binary32) : Prop :=
  ∀ text a, readFrom read text = .ok a → (∀ b ∈ boosts a, IsReadBack b) →
    readFrom read (encode a).toText = .ok a ∧ (a == a) = true

/-- The boosts of all nodes, at every depth. -/
def Criteria.boosts (c : Criteria) : List Binary32 :=
  c.allNodes.filterMap Node.boost

/-- The boosts of all parts of a query. -/
def Query.boosts (q : Query) : List Binary32 :=
  q.parts.filterMap Query.boost

/-- The boosts of both queries. -/
def Compiled.boosts (compiled : Compiled) : List Binary32 :=
  compiled.queries.flatMap Query.boosts

lemma Criteria.normalizes : Normalizes read encode boosts := by
  intro text c hread hboosts
  obtain ⟨hroot, hvalues, -, hdepth⟩ := (yields_criteria maxDepth).of_readFrom hread
  have hboost : ∀ n ∈ c.allNodes, ∀ b, n.boost = some b → IsReadBack b := fun n hn b hb =>
    hboosts b (List.mem_filterMap.2 ⟨n, hn, hb⟩)
  have hportable : ∀ v ∈ c.values, ∀ w ∈ v.parts, w.isPortable = true := fun v hv w hw =>
    ((hvalues v hv).2 w hw).1
  have hsame : c.mapValues Value.reread = c := mapValues_eq_self fun v hv =>
    v.reread_eq_self (hportable v hv) fun w hw => ((hvalues v hv).2 w hw).2
  constructor
  · rw [readFrom_encode hroot hdepth hboost fun v hv => ⟨(hvalues v hv).1, hportable v hv⟩, hsame]
  · refine beq_self (fun n hn => option_beq_self fun b hb => ?_) fun v hv => ?_
    · exact beq_self_of_readSingle (hboost n hn b hb)
    · exact Value.beq_self_of_isStable (hvalues v hv).2

namespace Query

variable {q : Query}

lemma isCarried_of_text (hleaf : ∀ p ∈ q.parts, ∀ l, p = .leaf l → l.IsCarried)
    (hboosts : ∀ b ∈ q.boosts, IsReadBack b) : q.IsCarried .text := fun p hp =>
  ⟨fun b hb => readSingle_text (hboosts b (List.mem_filterMap.2 ⟨p, hp, hb⟩)), hleaf p hp⟩

lemma beq_self_of_text (hleaf : ∀ p ∈ q.parts, ∀ l, p = .leaf l → l.IsCarried)
    (hboosts : ∀ b ∈ q.boosts, IsReadBack b) : (q == q) = true := by
  refine beq_self fun p hp => ⟨fun b hb => ?_, hleaf p hp⟩
  exact Criteria.beq_self_of_readSingle (hboosts b (List.mem_filterMap.2 ⟨p, hp, hb⟩))

lemma normalizes : Normalizes read encode boosts := by
  intro text q hread hboosts
  obtain ⟨hleaf, hdepth⟩ := (yields_query maxDepth).of_readFrom hread
  refine ⟨?_, beq_self_of_text hleaf hboosts⟩
  rw [readFrom_toText _ hdepth]
  exact readWithin_draftWith (isCarried_of_text hleaf hboosts) maxDepth hdepth

end Query

lemma Compiled.normalizes : Normalizes read encode boosts := by
  intro text compiled hread hboosts
  obtain ⟨hleaf, hdepth⟩ := yields_compiled.of_readFrom hread
  have hboost : ∀ q ∈ compiled.queries, ∀ b ∈ q.boosts, IsReadBack b := fun q hq b hb =>
    hboosts b (List.mem_flatMap.2 ⟨q, hq, hb⟩)
  have hself : ∀ q ∈ compiled.queries, (q == q) = true := fun q hq =>
    Query.beq_self_of_text (hleaf q hq) (hboost q hq)
  constructor
  · rw [readFrom_toText _ hdepth]
    exact read_draftWith hdepth fun q hq => Query.isCarried_of_text (hleaf q hq) (hboost q hq)
  · exact beq_self hself

/-- Reading normalizes in one pass.  Whatever is read from a text as a criteria, a query or compiled
criteria, if its boosts are read back from their texts, the text that it is written as is read as
the very same value, which is equal to itself. -/
theorem reading_normalizes :
    Normalizes Criteria.read Criteria.encode Criteria.boosts ∧
      Normalizes Query.read Query.encode Query.boosts ∧
      Normalizes Compiled.read Compiled.encode Compiled.boosts :=
  ⟨Criteria.normalizes, Query.normalizes, Compiled.normalizes⟩

/-- A criteria whose records are all arrays.  Among the values are a whole number beyond 64 bits
with a sign, a moment with an offset, a distance and a point. -/
def arraysForRecords : String :=
  "[[[[\"age\"],\"and\",false,2,[[\"IN\",[18446744073709551615,\"2024-05-06t07:08:09+02:00\"," ++
    "[5,\"miles\"],[1,2]]]],[],[]]]]"

/-- Compiled criteria with a member that is not known, and with a range whose bounds are an integer
and three times null. -/
def unknownMembers : String :=
  "\x7b\"note\":[\x7b\x7d],\"query\":" ++
    "\x7b\"range\":[\"age\",18446744073709551615,null,null,null,2]\x7d\x7d"

/-- Both texts are read, and are not what is written of what has been read, which is read again. -/
theorem reading_normalizes_relaxed :
    (∃ c, readFrom Criteria.read arraysForRecords = .ok c ∧ c.encode.toText ≠ arraysForRecords ∧
      readFrom Criteria.read c.encode.toText = .ok c) ∧
    ∃ compiled, readFrom Compiled.read unknownMembers = .ok compiled ∧
      compiled.encode.toText ≠ unknownMembers ∧
      readFrom Compiled.read compiled.encode.toText = .ok compiled := by
  obtain ⟨hcriteria, -, hcompiled⟩ := reading_normalizes
  have htwo : ∀ b ∈ [Binary.ofInt .binary32 2], IsReadBack b := by
    have hread : (readFrom readSingle (Json.single (.ofInt .binary32 2)).toText).toOption =
        some (.ofInt .binary32 2) := by decide +kernel
    exact List.forall_mem_singleton.2 (eq_ok_of_toOption hread)
  constructor
  · have hread : (readFrom Criteria.read arraysForRecords).toOption.map
        (fun c => (c.boosts, c.encode.toText == arraysForRecords)) =
          some ([.ofInt .binary32 2], false) := by decide +kernel
    obtain ⟨c, hc, hparts⟩ := Option.map_eq_some_iff.1 hread
    obtain ⟨hboosts, htext⟩ := Prod.mk.inj hparts
    exact ⟨c, eq_ok_of_toOption hc, ne_of_beq_false htext,
      (hcriteria _ c (eq_ok_of_toOption hc) (hboosts ▸ htwo)).1⟩
  · have hread : (readFrom Compiled.read unknownMembers).toOption.map
        (fun compiled => (compiled.boosts, compiled.encode.toText == unknownMembers)) =
          some ([.ofInt .binary32 2], false) := by decide +kernel
    obtain ⟨compiled, hc, hparts⟩ := Option.map_eq_some_iff.1 hread
    obtain ⟨hboosts, htext⟩ := Prod.mk.inj hparts
    exact ⟨compiled, eq_ok_of_toOption hc, ne_of_beq_false htext,
      (hcompiled _ compiled (eq_ok_of_toOption hc) (hboosts ▸ htwo)).1⟩

end SearchCriteria
