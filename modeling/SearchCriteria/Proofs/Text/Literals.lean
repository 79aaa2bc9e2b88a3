/-
# Literal and live characters of a query string

A reader of the query-string syntax, from left to right.  A backslash makes the character behind it
literal, and any other character with a meaning in the syntax is *live*; all else stands for itself.
A backslash at the end has nothing behind it, and such a text is not read.

Main statement: an escaped text, with or without a wildcard on either side, is read as the literal
characters of the text and the live wildcards, whatever the characters are.  So escaping is
injective, and the wildcards are told apart from the stars of the text.
-/
import Mathlib.Tactic.Lemma
import SearchCriteria.Text.Escape

namespace SearchCriteria.Text

/-! ## The reader -/

/-- What a character of a query string is read as. -/
inductive Token where
  /-- The character stands for itself. -/
  | literal (c : Char)
  /-- The character has its meaning in the syntax. -/
  | live (c : Char)
deriving DecidableEq, Repr

/-- Reads a query string, unless it ends within an escape. -/
def readTokens : List Char → Option (List Token)
  | [] => some []
  | ['\\'] => none
  | '\\' :: c :: rest => (readTokens rest).map (.literal c :: ·)
  | c :: rest => (readTokens rest).map ((if isSpecial c then .live c else .literal c) :: ·)

/-! ## Wildcards -/

/-- A text with a wildcard in front of it, behind it, or both. -/
def starred (front back : Bool) (text : String) : String :=
  (if front then "*" else "") ++ text ++ (if back then "*" else "")

/-- The tokens of literal characters with a live wildcard in front of them, behind them, or both. -/
def starredTokens (front back : Bool) (text : List Char) : List Token :=
  (if front then [.live '*'] else []) ++ text.map .literal ++ (if back then [.live '*'] else [])

/-! ## What is written is read -/

lemma readTokens_star (rest : List Char) :
    readTokens ('*' :: rest) = (readTokens rest).map (.live '*' :: ·) := by
  rw [readTokens, if_pos (by decide)]
  · simp
  · simp

/-- An escaped character is read as itself: behind a backslash, or because it means nothing. -/
lemma readTokens_escapeChar_append (c : Char) (rest : List Char) :
    readTokens (escapeChar c ++ rest) = (readTokens rest).map (.literal c :: ·) := by
  unfold escapeChar
  by_cases hc : isSpecial c = true
  · rw [if_pos hc, List.cons_append, List.singleton_append, readTokens]
  · have hbackslash : c ≠ '\\' := by
      rintro rfl
      exact hc (by decide)
    rw [if_neg hc, List.singleton_append, readTokens, if_neg hc]
    · simp [hbackslash]
    · simp [hbackslash]

/-- Nothing of an escaped text is live, and none of its backslashes reaches behind it. -/
lemma readTokens_escapeChars_append (s rest : List Char) :
    readTokens (escapeChars s ++ rest) = (readTokens rest).map (s.map .literal ++ ·) := by
  induction s with
  | nil => simp
  | cons c s ih =>
    rw [escapeChars_cons, List.append_assoc, readTokens_escapeChar_append, ih, Option.map_map]
    rfl

/-- An escaped text is read as its literal characters, and wildcards at its sides are live. -/
theorem readTokens_starred (front back : Bool) (text : String) :
    readTokens (starred front back (escape text)).toList =
      some (starredTokens front back text.toList) := by
  have hstar : "*".toList = ['*'] := by decide
  have hback : readTokens (escapeChars text.toList ++ (if back then "*" else "").toList) =
      some (text.toList.map .literal ++ if back then [.live '*'] else []) := by
    rw [readTokens_escapeChars_append]
    cases back with
    | true => rw [if_pos rfl, if_pos rfl, hstar, readTokens_star]; rfl
    | false => rfl
  rw [starred, String.toList_append, String.toList_append, escape, String.toList_ofList,
    List.append_assoc, starredTokens, List.append_assoc]
  cases front with
  | true =>
    rw [if_pos rfl, if_pos rfl, hstar, List.singleton_append, readTokens_star, hback]
    rfl
  | false => exact hback

/-! ## What the tokens tell -/

lemma map_literal_inj {s t : List Char} : s.map Token.literal = t.map .literal ↔ s = t :=
  List.map_inj_right fun _ _ h => Token.literal.inj h

/-- A text that is not empty stands between the two sides, so that each wildcard is seen. -/
lemma starredTokens_inj {front back front' back' : Bool} {s t : List Char} (hs : s ≠ [])
    (ht : t ≠ []) (h : starredTokens front back s = starredTokens front' back' t) :
    front = front' ∧ back = back' ∧ s = t := by
  -- The first token tells of a wildcard in front, and the last one of a wildcard behind.
  have hhead : ∀ (front back : Bool) (s : List Char), s ≠ [] →
      ((starredTokens front back s).head? = some (.live '*') ↔ front = true) := by
    intro front back s hs
    obtain ⟨c, s, rfl⟩ := List.exists_cons_of_ne_nil hs
    cases front <;> simp [starredTokens]
  have hlast : ∀ (front back : Bool) (s : List Char), s ≠ [] →
      ((starredTokens front back s).getLast? = some (.live '*') ↔ back = true) := by
    intro front back s hs
    obtain ⟨s, c, rfl⟩ := List.eq_nil_or_concat s |>.resolve_left hs
    cases back <;> simp [starredTokens]
  have hfront : front = front' := by
    rw [Bool.eq_iff_iff, ← hhead front back s hs, h, hhead front' back' t ht]
  have hback : back = back' := by
    rw [Bool.eq_iff_iff, ← hlast front back s hs, h, hlast front' back' t ht]
  subst hfront hback
  have hmiddle := List.append_cancel_left (List.append_cancel_right h)
  exact ⟨rfl, rfl, map_literal_inj.1 hmiddle⟩

lemma escape_injective : Function.Injective escape := by
  intro s t h
  have hs := readTokens_starred false false s
  rw [h, readTokens_starred, Option.some.injEq] at hs
  exact String.toList_inj.1 (by simpa [starredTokens, map_literal_inj] using hs.symm)

lemma escape_append (s t : String) : escape (s ++ t) = escape s ++ escape t := by
  rw [escape, String.toList_append, escapeChars_append, String.ofList_append]
  rfl

end SearchCriteria.Text
