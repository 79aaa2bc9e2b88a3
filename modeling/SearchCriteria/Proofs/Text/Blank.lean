/-
# Texts without blanks

A text without blanks has nothing that could be trimmed.  The visible characters of ASCII are no
blanks.
-/
import SearchCriteria.Proofs.Text.Digits
import SearchCriteria.Text.Blank

namespace SearchCriteria.Text

lemma isBlank_of_visible {c : Char} (hlow : 0x21 ≤ c.toNat) (hhigh : c.toNat ≤ 0x7e) :
    isBlank c = false := by
  simp [isBlank, blankRanges]
  omega

lemma isBlank_of_isDigit {c : Char} (h : c.isDigit = true) : isBlank c = false := by
  have hrange : 48 ≤ c.toNat ∧ c.toNat ≤ 57 := Char.isDigit_iff_toNat.1 h
  exact isBlank_of_visible (by omega) (by omega)

lemma trimStart_of_not_blank {c : Char} (h : isBlank c = false) (rest : List Char) :
    trimStart (c :: rest) = c :: rest :=
  dropWhile_of_stopsAt (stopsAt_cons h rest)

lemma trimStart_of_forall {text : List Char} (h : ∀ c ∈ text, isBlank c = false) :
    trimStart text = text := by
  cases text with
  | nil => rfl
  | cons c rest => exact trimStart_of_not_blank (h c List.mem_cons_self) rest

/-- Nothing is trimmed off a text without blanks. -/
lemma trim_of_forall {text : List Char} (h : ∀ c ∈ text, isBlank c = false) : trim text = text := by
  have hreverse : ∀ c ∈ text.reverse, isBlank c = false := fun c hc => h c (List.mem_reverse.1 hc)
  rw [trim, trimStart_of_forall h, trimStart_of_forall hreverse, List.reverse_reverse]

end SearchCriteria.Text
