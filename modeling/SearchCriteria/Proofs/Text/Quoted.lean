/-
# Reading a query string of quoted values

A reader of the query strings that `anyOf` writes, as they are or inside `NOT(...)`.  It knows the
syntax only: a backslash makes the next character literal, any other double quote ends a value,
and between two values stands ` OR `.

Main statement: the reader takes the whole text, and finds the values that were written, in order.
In particular no value ends early, and none is taken for syntax, whatever characters it has.
-/
import Mathlib.Tactic.Lemma
import SearchCriteria.Text.Escape

namespace SearchCriteria.Text

/-! ## The reader -/

/-- Reads a text from within a value on: the rest of that value, and the values behind it. -/
def readFrom : List Char → Option (List Char × List (List Char))
  | ['"'] => some ([], [])
  | '"' :: ' ' :: 'O' :: 'R' :: ' ' :: '"' :: rest =>
    (readFrom rest).map fun (value, others) => ([], value :: others)
  | '\\' :: c :: rest => (readFrom rest).map fun (value, others) => (c :: value, others)
  | c :: rest =>
    if c = '"' ∨ c = '\\' then none
    else (readFrom rest).map fun (value, others) => (c :: value, others)
  | [] => none

/-- Reads values in double quotes. -/
def readAny : List Char → Option (List String)
  | '"' :: rest => (readFrom rest).map fun (value, others) => (value :: others).map String.ofList
  | _ => none

/-- What stands between `NOT(` and the closing parenthesis at the end of a text. -/
def negated? : List Char → Option (List Char)
  | 'N' :: 'O' :: 'T' :: '(' :: rest =>
    if rest.getLast? = some ')' then some rest.dropLast else none
  | _ => none

/-- Reads values in double quotes, and whether `NOT(...)` stands around all of them. -/
def readValues (text : String) : Option (Bool × List String) :=
  match negated? text.toList with
  | some inner => (readAny inner).map (true, ·)
  | none => (readAny text.toList).map (false, ·)

/-! ## What is written is read -/

/-- The quotes of escaped characters end nothing, and their backslashes are taken away. -/
lemma readFrom_escapeChars_append (s rest : List Char) :
    readFrom (escapeChars s ++ rest) =
      (readFrom rest).map fun (value, others) => (s ++ value, others) := by
  induction s with
  | nil => simp
  | cons c s ih =>
    rw [escapeChars_cons, List.append_assoc, escapeChar]
    by_cases hc : isSpecial c = true
    · rw [if_pos hc, List.cons_append, List.singleton_append, readFrom, ih, Option.map_map]
      rfl
    · -- The characters that mean something to the reader are among those that are escaped.
      have hquote : c ≠ '"' := by
        rintro rfl
        exact hc (by decide)
      have hbackslash : c ≠ '\\' := by
        rintro rfl
        exact hc (by decide)
      rw [if_neg hc, List.singleton_append, readFrom, if_neg (by simp [hquote, hbackslash]), ih,
        Option.map_map]
      · rfl
      all_goals simp [hquote, hbackslash]

/-- The last value ends at its closing quote. -/
lemma readFrom_last (s : List Char) : readFrom (escapeChars s ++ ['"']) = some (s, []) := by
  rw [readFrom_escapeChars_append, readFrom]
  simp

/-- Any other value ends there as well, and the next one begins behind the separator. -/
lemma readFrom_next (s rest : List Char) :
    readFrom (escapeChars s ++ '"' :: (" OR ".toList ++ '"' :: rest)) =
      (readFrom rest).map fun (value, others) => (s, value :: others) := by
  have hsep : " OR ".toList = [' ', 'O', 'R', ' '] := by decide
  rw [readFrom_escapeChars_append, hsep]
  simp only [List.cons_append, List.nil_append]
  rw [readFrom, Option.map_map]
  simp [Function.comp_def]

lemma toList_quote (s : String) : (quote s).toList = '"' :: (escapeChars s.toList ++ ['"']) := by
  simp [quote, escape, String.toList_append]

lemma toList_anyOf_cons_cons (s t : String) (others : List String) :
    (anyOf (s :: t :: others)).toList =
      '"' :: (escapeChars s.toList ++ '"' :: (" OR ".toList ++ (anyOf (t :: others)).toList)) := by
  rw [anyOf, anyOf, List.map_cons, List.map_cons, String.intercalate_cons_cons,
    String.toList_append, String.toList_append, toList_quote]
  simp

/-- The first quote opens a value, and the values are read from within it. -/
lemma exists_toList_anyOf (s : String) (others : List String) :
    ∃ rest, (anyOf (s :: others)).toList = '"' :: rest ∧
      readFrom rest = some (s.toList, others.map String.toList) := by
  induction others generalizing s with
  | nil =>
    refine ⟨_, ?_, readFrom_last s.toList⟩
    rw [anyOf, List.map_singleton, String.intercalate_singleton, toList_quote]
  | cons t others ih =>
    obtain ⟨rest, hrest, hread⟩ := ih t
    refine ⟨_, by rw [toList_anyOf_cons_cons, hrest], ?_⟩
    rw [readFrom_next, hread]
    rfl

/-- Values that are quoted and joined are read back. -/
lemma readAny_anyOf (s : String) (others : List String) :
    readAny (anyOf (s :: others)).toList = some (s :: others) := by
  obtain ⟨rest, hrest, hread⟩ := exists_toList_anyOf s others
  rw [hrest, readAny, hread]
  simp [Function.comp_def]

lemma negated?_anyOf (s : String) (others : List String) :
    negated? (anyOf (s :: others)).toList = none := by
  obtain ⟨rest, hrest, -⟩ := exists_toList_anyOf s others
  rw [hrest, negated?]
  simp

lemma negated?_not (text : String) :
    negated? ("NOT(" ++ text ++ ")").toList = some text.toList := by
  have hnot : "NOT(".toList = ['N', 'O', 'T', '('] := by decide
  have hclose : ")".toList = [')'] := by decide
  rw [String.toList_append, String.toList_append, hnot, hclose]
  simp [negated?]

/-- The query string of an alternative of values, negated or not, is read back. -/
theorem readValues_anyOf (negated : Bool) {values : List String} (h : values ≠ []) :
    readValues (if negated then "NOT(" ++ anyOf values ++ ")" else anyOf values) =
      some (negated, values) := by
  obtain ⟨s, others, rfl⟩ := List.exists_cons_of_ne_nil h
  cases negated with
  | true =>
    rw [if_pos rfl]
    simp only [readValues, negated?_not, readAny_anyOf, Option.map_some]
  | false =>
    rw [if_neg Bool.false_ne_true]
    simp only [readValues, negated?_anyOf, readAny_anyOf, Option.map_some]

end SearchCriteria.Text
