/-
# Records written and read

A record that is written names its members in the order in which its shape lists them, and leaves
some of them out.  Reading looks for each name among all members.

* `Fills` says, one member after another, what becomes of a record as written members fill it;
* `read_of_fills`: if no two members share a key, reading the written members does just this;
* `readChoice_only`: what is written under the name of a variant is read as its content.
-/
import Mathlib.Data.List.Nodup
import SearchCriteria.Json.Reader
import SearchCriteria.Proofs.Json.Draft

namespace SearchCriteria

open Outcome

variable {α β : Type} {carrier : Carrier}

/-- Written members fill members of a record in order, and make one record of another. -/
inductive Fills (carrier : Carrier) :
    List (Member α) → List (String × Json) → α → α → Prop where
  /-- No member is left. -/
  | done (a : α) : Fills carrier [] [] a a
  /-- A member is left out. -/
  | skip {m : Member α} {ms : List (Member α)} {js : List (String × Json)} {a b : α}
      (h : m.absence ≠ .refused) (rest : Fills carrier ms js a b) : Fills carrier (m :: ms) js a b
  /-- A member is filled. -/
  | fill {m : Member α} {ms : List (Member α)} {j : Json} {js : List (String × Json)} {a a' b : α}
      (h : m.fill (j.draftWith carrier) a = .ok a') (rest : Fills carrier ms js a' b) :
      Fills carrier (m :: ms) ((m.key, j) :: js) a b

namespace Fills

variable {key : String} {ms : List (Member α)} {js : List (String × Json)} {a b : α}

/-- A member that is there. -/
lemma given {absence : Absence} {read : Reader β} {set : α → β → α} {j : Json} {v : β}
    (h : read (j.draftWith carrier) = .ok v) (rest : Fills carrier ms js (set a v) b) :
    Fills carrier (.of key absence read set :: ms) ((key, j) :: js) a b := by
  refine .fill (m := .of key absence read set) ?_ rest
  simp only [Member.of, h, ok_bind]

/-- A member that is left out if there is no value for it. -/
lemma optional {read : Reader β} {set : α → Option β → α} {encode : β → Json} {o : Option β}
    (hblank : set a none = a)
    (h : ∀ v, o = some v → readOption read ((encode v).draftWith carrier) = .ok (some v))
    (rest : Fills carrier ms js (set a o) b) :
    Fills carrier (.of key .anywhere (readOption read) set :: ms)
      (Json.optionalMember key encode o ++ js) a b := by
  cases o with
  | none =>
    rw [hblank] at rest
    exact .skip nofun rest
  | some v => exact .given (h v rfl) rest

/-- A last member that is left out if there is no value for it. -/
lemma optional_last {read : Reader β} {set : α → Option β → α} {encode : β → Json} {o : Option β}
    (hblank : set a none = a)
    (h : ∀ v, o = some v → readOption read ((encode v).draftWith carrier) = .ok (some v)) :
    Fills carrier [.of key .anywhere (readOption read) set]
      (Json.optionalMember key encode o) a (set a o) := by
  rw [← List.append_nil (Json.optionalMember key encode o)]
  exact .optional hblank h (.done _)

end Fills

namespace Shape

variable (shape : Shape α)

lemma find?_key {ms : List (Member α)} (hnodup : (ms.map Member.key).Nodup) {m : Member α}
    (hm : m ∈ ms) : ms.find? (·.key == m.key) = some m := by
  induction ms with
  | nil => cases hm
  | cons n ns ih =>
    rw [List.map_cons, List.nodup_cons] at hnodup
    rw [List.find?_cons]
    rcases List.mem_cons.1 hm with rfl | hm
    · rw [beq_self_eq_true]
    · have hne : n.key ≠ m.key := fun h => hnodup.1 (h ▸ List.mem_map_of_mem hm)
      rw [beq_false_of_ne hne]
      exact ih hnodup.2 hm

/-- The members that have been dealt with, in the course of reading: each key that was seen is the
key of one of them, and each of them that has to be given was seen. -/
structure DealtWith (done : List (Member α)) (seen : List String) : Prop where
  /-- What was seen belongs to a member. -/
  keys : ∀ k ∈ seen, k ∈ done.map Member.key
  /-- What has to be given was seen. -/
  refused : ∀ m ∈ done, m.absence = .refused → m.key ∈ seen

variable {shape}

/-- The invariant of reading an object: what is left to fill are the members behind those that have
been dealt with. -/
lemma fillMembers_of_fills (hnodup : (shape.members.map Member.key).Nodup)
    {ms : List (Member α)} {js : List (String × Json)} {a b : α} (h : Fills carrier ms js a b)
    (done : List (Member α)) (hmembers : shape.members = done ++ ms) (seen : List String)
    (hseen : DealtWith done seen) :
    shape.fillMembers seen a (Json.draftMembersWith carrier js) = .ok b := by
  induction h generalizing done seen with
  | done a =>
    rw [List.append_nil] at hmembers
    have hmissing : shape.firstMissing? seen = none := by
      rw [firstMissing?, hmembers, List.find?_eq_none]
      intro m hm hneeded
      rw [Bool.and_eq_true, decide_eq_true_eq, Bool.not_eq_true', ← Bool.not_eq_true,
        List.contains_iff_mem] at hneeded
      exact hneeded.2 (hseen.refused m hm hneeded.1)
    rw [Json.draftMembersWith, fillMembers, hmissing]
  | @skip m ms js a b hm _ ih =>
    refine ih (done ++ [m]) (by rw [hmembers, List.append_assoc]; rfl) seen ⟨?_, ?_⟩
    · intro k hk
      rw [List.map_append]
      exact List.mem_append_left _ (hseen.keys k hk)
    · intro n hn hrefused
      rcases List.mem_append.1 hn with hn | hn
      · exact hseen.refused n hn hrefused
      · rw [List.mem_singleton.1 hn] at hrefused
        exact absurd hrefused hm
  | @fill m ms j js a a' b hfill _ ih =>
    have hmem : m ∈ shape.members := by
      rw [hmembers]
      exact List.mem_append_right _ List.mem_cons_self
    have hnew : seen.contains m.key = false := by
      rw [← Bool.not_eq_true, List.contains_iff_mem]
      intro hk
      -- The key would be that of an earlier member.
      rw [hmembers, List.map_append, List.nodup_append] at hnodup
      exact hnodup.2.2 _ (hseen.keys _ hk) _ (List.mem_map_of_mem List.mem_cons_self) rfl
    rw [Json.draftMembersWith, fillMembers]
    simp only [find?_key hnodup hmem, hnew, Bool.false_eq_true, if_false, hfill, ok_bind]
    refine ih (done ++ [m]) (by rw [hmembers, List.append_assoc]; rfl) (m.key :: seen) ⟨?_, ?_⟩
    · intro k hk
      rw [List.map_append, List.mem_append]
      rcases List.mem_cons.1 hk with rfl | hk
      · exact .inr (List.mem_singleton_self _)
      · exact .inl (hseen.keys k hk)
    · intro n hn hrefused
      rcases List.mem_append.1 hn with hn | hn
      · exact List.mem_cons_of_mem _ (hseen.refused n hn hrefused)
      · rw [List.mem_singleton.1 hn]
        exact List.mem_cons_self

/-- A record is read from written members as they fill it. -/
theorem read_of_fills (hnodup : (shape.members.map Member.key).Nodup)
    {js : List (String × Json)} {a : α} (h : Fills carrier shape.members js shape.blank a) :
    shape.read ((Json.object js).draftWith carrier) = .ok a := by
  rw [Json.draftWith, read]
  exact fillMembers_of_fills hnodup h [] rfl [] ⟨nofun, nofun⟩

end Shape

/-- What is written under the name of a variant is read as the content of the variant. -/
lemma readChoice_only {variants : List (Variant α)} {name : String}
    {content : Option Draft → ReadResult α} (h : variants.lookup name = some content) (j : Json) :
    readChoice variants ((Json.object [(name, j)]).draftWith carrier) =
      content (some (j.draftWith carrier)) := by
  rw [Json.draftWith, Json.draftMembersWith, Json.draftMembersWith, readChoice, readVariant, h]
  exact bind_ok _

end SearchCriteria
