/-
# Criteria written and read back

The text of a criteria that has been built is read back as a criteria again.  It is the same one
but for lists: a list of two numbers comes back as a point, and a list of a number and the name of
a unit comes back as a distance.

Main statement: the criteria that is read back is equal to the one that was written if and only if
no list in it is of these two kinds, and then it is the very same.
-/
import SearchCriteria.Proofs.Codec.Criteria
import SearchCriteria.Proofs.Criteria.Built
import SearchCriteria.Proofs.Json.Scanning

namespace SearchCriteria

open Numeric Outcome

/-- A 32-bit number is read from the draft of its text as it is read from the text. -/
lemma readSingle_text {x : Binary32} (h : readFrom readSingle (Json.single x).toText = .ok x) :
    readSingle (Carrier.text.single x) = .ok x := by
  rw [← h, readFrom_toText readSingle (by simp [Json.depth]), Json.draftWith]

/-- Neither an infinity nor not-a-number is read back from its text. -/
lemma isFinite_of_readSingle {x : Binary32}
    (h : readFrom readSingle (Json.single x).toText = .ok x) : x.isFinite = true := by
  cases x with
  | finite negative m s hcanonical => rfl
  | _ => cases readSingle_text h

namespace Criteria

section Written

variable {c : Criteria}

lemma nodeIsCarried_of_text
    (hboost : ∀ n ∈ c.allNodes, ∀ b, n.boost = some b →
      readFrom readSingle (Json.single b).toText = .ok b)
    (hvalues : ∀ v ∈ c.values, v.IsCarried) : ∀ n ∈ c.allNodes, NodeIsCarried .text n := by
  intro n hn
  exact ⟨fun b hb => readSingle_text (hboost n hn b hb),
    fun v hv => hvalues v (List.mem_flatMap.2 ⟨n, hn, hv⟩)⟩

/-- The text of a criteria is read with its values as they are read back. -/
lemma readFrom_encode (hroot : Rooted c) (hdepth : c.encode.depth ≤ maxDepth)
    (hboost : ∀ n ∈ c.allNodes, ∀ b, n.boost = some b →
      readFrom readSingle (Json.single b).toText = .ok b)
    (hvalues : ∀ v ∈ c.values, v.IsCarried) :
    readFrom read c.encode.toText = .ok (c.mapValues Value.reread) := by
  rw [readFrom_toText read hdepth]
  exact readWithin_draftWith .text hroot maxDepth hdepth (nodeIsCarried_of_text hboost hvalues)

lemma beq_self_of_readSingle {b : Binary32}
    (h : readFrom readSingle (Json.single b).toText = .ok b) : (b == b) = true :=
  Value.beq_self_of_isFinite (isFinite_of_readSingle h)

end Written

/-- The text of a criteria that has been built is read back, if it nests no deeper than the limit,
its boosts are read back from their texts, all its numbers are finite, no text in it reads as a
moment and no entry compares with null.  What is read back is equal to the criteria if and only if
no list in it, at any depth, is two numbers or a number and the name of a unit; and then it is the
criteria itself. -/
theorem readBack_beq_iff {c : Criteria} (hbuilt : Built c) (hdepth : c.encode.depth ≤ maxDepth)
    (hboost : ∀ n ∈ c.allNodes, ∀ b, n.boost = some b →
      readFrom readSingle (Json.single b).toText = .ok b)
    (hvalues : ∀ v ∈ c.values, v ≠ .null ∧ ∀ w ∈ v.parts, w.isPortable = true) :
    ∃ c', readFrom read c.encode.toText = .ok c' ∧
      ((c' == c) = true ↔ ∀ v ∈ c.values, ∀ w ∈ v.parts, w.looksGeographic = false) ∧
      ((c' == c) = true → c' = c) := by
  refine ⟨_, readFrom_encode hbuilt.rooted hdepth hboost hvalues, ?_⟩
  have hsame : (∀ v ∈ c.values, ∀ w ∈ v.parts, w.looksGeographic = false) →
      c.mapValues Value.reread = c :=
    fun h => mapValues_eq_self fun v hv => v.reread_eq_self (hvalues v hv).2 (h v hv)
  have hshapes : (c.mapValues Value.reread == c) = true →
      ∀ v ∈ c.values, ∀ w ∈ v.parts, w.looksGeographic = false := by
    intro heq v hv w hw
    have hread := v.ofJson?_carried (hvalues v hv).2
    exact (v.portable_of_read_beq _ hread (beq_of_mapValues_beq heq v hv) w hw).2
  -- Equality compares numbers, so that this would fail for not-a-number.
  have hself : (c == c) = true := by
    refine beq_self (fun n hn => ?_) fun v hv => v.beq_self_of_portable (hvalues v hv).2
    cases hb : n.boost with
    | none => rfl
    | some b => exact beq_self_of_readSingle (hboost n hn b hb)
  refine ⟨⟨hshapes, fun h => ?_⟩, fun h => hsame (hshapes h)⟩
  rw [hsame h, hself]

/-- An open range with a boost, and one of two names. -/
def adultsByName : Criteria :=
  (((on (.named "age")).between (.integer 18) .null).boost (.ofInt .binary32 2)).andGroup
    ((on (.named "name")).oneOf [.text "a", .text "b"])

lemma built_adultsByName : Built adultsByName := by
  have hrange : Built ((on (.named "age")).between (.integer 18) .null) :=
    .call (k := .queryEntry (.of .between (.list [.integer 18, .null]))) (.on _) nofun rfl
  have hgroup : Built ((on (.named "name")).oneOf [.text "a", .text "b"]) :=
    .call (k := .queryEntry (.of .oneOf (.list [.text "a", .text "b"]))) (.on _) nofun rfl
  have hboost :
      Built (((on (.named "age")).between (.integer 18) .null).boost (.ofInt .binary32 2)) :=
    .call (k := .boost (.ofInt .binary32 2)) hrange nofun rfl
  exact .call (k := .andGroup _) hboost (List.forall_mem_singleton.2 hgroup) rfl

/-- An open range and a list of names are read back as they are. -/
theorem readBack_adultsByName : Built adultsByName ∧
    readFrom read adultsByName.encode.toText = .ok adultsByName := by
  have hvalues : adultsByName.values =
      [.list [.integer 18, .null], .list [.text "a", .text "b"]] := rfl
  have hboosts : ∀ n ∈ adultsByName.allNodes, ∀ b, n.boost = some b →
      readFrom readSingle (Json.single b).toText = .ok b := by
    have htwo : (readFrom readSingle (Json.single (.ofInt .binary32 2)).toText).toOption =
        some (.ofInt .binary32 2) := by decide +kernel
    have hall : adultsByName.allNodes.map Node.boost =
        [some (.ofInt .binary32 2), none, none] := rfl
    intro n hn b hb
    have hmem := List.mem_map_of_mem (f := Node.boost) hn
    rw [hall, hb] at hmem
    obtain rfl : b = .ofInt .binary32 2 := by simpa using hmem
    exact eq_ok_of_toOption htwo
  obtain ⟨c', hread, hiff, hsame⟩ := readBack_beq_iff built_adultsByName (by decide) hboosts
    (by rw [hvalues]; simp [Value.parts, Value.partsOf, Value.isPortable]; decide)
  have hshapes : ∀ v ∈ adultsByName.values, ∀ w ∈ v.parts, w.looksGeographic = false := by
    rw [hvalues]
    simp [Value.parts, Value.partsOf, Value.looksGeographic, Value.isNumber, Value.isUnit]
  exact ⟨built_adultsByName, by rw [hread, hsame (hiff.2 hshapes)]⟩

/-- A range between two numbers. -/
def betweenNumbers : Criteria :=
  (on (.named "age")).between (.integer 1) (.integer 2)

/-- A range between two numbers is read back as a comparison with a point. -/
theorem readBack_betweenNumbers : Built betweenNumbers ∧ betweenNumbers.encode.depth ≤ maxDepth ∧
    (∀ n ∈ betweenNumbers.allNodes, n.boost = none) ∧
    (∀ v ∈ betweenNumbers.values, v ≠ .null ∧ ∀ w ∈ v.parts, w.isPortable = true) ∧
    ∃ c', readFrom read betweenNumbers.encode.toText = .ok c' ∧ (c' == betweenNumbers) = false ∧
      c'.values = [.point ⟨.ofInt .binary64 1, .ofInt .binary64 2⟩] := by
  have hbuilt : Built betweenNumbers :=
    .call (k := .queryEntry (.of .between (.list [.integer 1, .integer 2]))) (.on _) nofun rfl
  have hnodes : ∀ n ∈ betweenNumbers.allNodes, n.boost = none := by
    have hall : betweenNumbers.allNodes.map Node.boost = [none] := rfl
    intro n hn
    have hmem := List.mem_map_of_mem (f := Node.boost) hn
    rw [hall] at hmem
    exact List.mem_singleton.1 hmem
  have hvalues : ∀ v ∈ betweenNumbers.values, v ≠ .null ∧ ∀ w ∈ v.parts, w.isPortable = true := by
    have hall : betweenNumbers.values = [.list [.integer 1, .integer 2]] := rfl
    rw [hall]
    simp [Value.parts, Value.partsOf, Value.isPortable]
  have hread := readFrom_encode hbuilt.rooted (by decide)
    (fun n hn b hb => by rw [hnodes n hn] at hb; cases hb) hvalues
  exact ⟨hbuilt, by decide, hnodes, hvalues, _, hread, by decide, by rfl⟩

end Criteria

end SearchCriteria
