/-
# The values that are read back

In one direction, no shape that is tried before the one of a stable value takes its text, at any
depth.  In the other direction, a text that reads as a moment, a list that reads as a point or a
distance and a number that JSON does not carry are read as a value of another kind, or not at all,
and the list around them does not hide it.

* `isStable_iff_isPortable`, `isStable_list_iff`: which values are stable, by their kind;
* `readBack_iff_isStable`: reading the text of a value gives an equal value if and only if the value
  is stable, and then it gives the value itself.
-/
import SearchCriteria.Proofs.Codec.Query
import SearchCriteria.Proofs.Json.Scanning

namespace SearchCriteria

open Numeric Outcome

namespace Value

lemma isStable_iff_isPortable {v : Value} (hlist : v.list? = none) :
    v.IsStable ↔ v.isPortable = true :=
  ⟨fun h => (h v (self_mem_parts v)).1, isStable_of_not_list hlist⟩

lemma mem_partsOf_of_mem_parts {v w : Value} {vs : List Value} (hv : v ∈ vs) (hw : w ∈ v.parts) :
    w ∈ partsOf vs := by
  induction vs with
  | nil => cases hv
  | cons u us ih =>
    rw [partsOf, List.mem_append]
    obtain rfl | hv := List.mem_cons.1 hv
    · exact .inl hw
    · exact .inr (ih hv)

/-- A list is stable if and only if its items are and it is neither two numbers nor a number and the
name of a unit. -/
lemma isStable_list_iff {vs : List Value} :
    (list vs).IsStable ↔ (∀ v ∈ vs, v.IsStable) ∧ (list vs).looksGeographic = false := by
  constructor
  · intro h
    refine ⟨fun v hv w hw => h w ?_, (h _ (self_mem_parts _)).2⟩
    rw [parts]
    exact List.mem_cons_of_mem _ (mem_partsOf_of_mem_parts hv hw)
  · rintro ⟨hitems, hlooks⟩
    exact isStable_list hlooks hitems

/-- What is read from the text of a value is what its JSON is recognised as. -/
lemma readFrom_encode_iff {v w : Value} (hdepth : v.encode.depth ≤ maxDepth) :
    readFrom read v.encode.toText = .ok w ↔ ofJson? v.carried = some w := by
  rw [readFrom_toText read hdepth, read_draftWith_iff]

/-- The text of a value that nests no deeper than the limit is read as an equal value if and only if
the value is stable, and then it is read as the value itself. -/
theorem readBack_iff_isStable {v : Value} (hdepth : v.encode.depth ≤ maxDepth) :
    ((∃ w, readFrom read v.encode.toText = .ok w ∧ (w == v) = true) ↔ v.IsStable) ∧
      (v.IsStable → readFrom read v.encode.toText = .ok v) := by
  have hsame : v.IsStable → readFrom read v.encode.toText = .ok v := by
    intro h
    rw [readFrom_toText read hdepth]
    exact read_of_isStable .text h
  refine ⟨⟨?_, fun h => ⟨v, hsame h, beq_self_of_isStable h⟩⟩, hsame⟩
  rintro ⟨w, hread, heq⟩
  exact portable_of_read_beq v w ((readFrom_encode_iff hdepth).1 hread) heq

/-- A name, and a list of a point, no value and the number one. -/
def nested : Value :=
  .list [.text "a", .list [.point ⟨.ofInt .binary64 1, .ofInt .binary64 2⟩, .null, .integer 1]]

/-- A truth value and a list of two numbers. -/
def nestedPair : Value :=
  .list [.bool true, .list [.integer 1, .float (.ofInt .binary64 2)]]

/-- Of the two nested lists, one is read back and one is not. -/
theorem readBack_nested : nested.encode.depth ≤ maxDepth ∧ nestedPair.encode.depth ≤ maxDepth ∧
    readFrom read nested.encode.toText = .ok nested ∧
    ¬∃ w, readFrom read nestedPair.encode.toText = .ok w ∧ (w == nestedPair) = true := by
  have hnested : nested.encode.depth ≤ maxDepth := by decide
  have hpair : nestedPair.encode.depth ≤ maxDepth := by decide
  have hstable : nested.IsStable := by
    have hname : (text "a").IsStable := (isStable_iff_isPortable rfl).2 (by decide +kernel)
    have hpoint : (point ⟨.ofInt .binary64 1, .ofInt .binary64 2⟩).IsStable :=
      (isStable_iff_isPortable rfl).2 (by decide +kernel)
    have hnull : null.IsStable := (isStable_iff_isPortable rfl).2 rfl
    have hone : (integer 1).IsStable := (isStable_iff_isPortable rfl).2 rfl
    have hinner : (list [.point ⟨.ofInt .binary64 1, .ofInt .binary64 2⟩, .null,
        .integer 1]).IsStable :=
      isStable_list rfl (by simpa using ⟨hpoint, hnull, hone⟩)
    exact isStable_list rfl (by simpa using ⟨hname, hinner⟩)
  have hunstable : ¬nestedPair.IsStable := by
    intro h
    have hinner := (isStable_list_iff.1 h).1 _ (List.mem_cons_of_mem _ (List.mem_singleton_self _))
    cases (isStable_list_iff.1 hinner).2
  exact ⟨hnested, hpair, (readBack_iff_isStable hnested).2 hstable,
    fun h => hunstable ((readBack_iff_isStable hpair).1.1 h)⟩

end Value

end SearchCriteria
