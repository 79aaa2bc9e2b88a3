/-
# Texts in query strings

Four operators search for the text of a value, at the start of a field, at its end, within it or
as all of it.  The text is escaped in the query string, and wildcards at its sides stand for
what may come before and after.

Main statement: in the query string of such an entry, the characters of the text are literal, the
operator's own wildcards are live, and there is nothing else.  So two entries on a field whose texts
are not empty have the same query string only if they have the same operator and the same text.
-/
import SearchCriteria.Proofs.Compile.Accepted
import SearchCriteria.Proofs.Text.Literals

namespace SearchCriteria

open Outcome Text

/-- Whether anything may come in front of the text that an operator searches for, and whether
anything may come behind it; other operators do not search for a text in this way. -/
def Operator.openSides? : Operator → Option (Bool × Bool)
  | equals => some (false, false)
  | contains => some (true, true)
  | startsWith => some (false, true)
  | endsWith => some (true, false)
  | _ => none

lemma Operator.eq_of_openSides? {operator operator' : Operator} {sides : Bool × Bool}
    (h : operator.openSides? = some sides) (h' : operator'.openSides? = some sides) :
    operator = operator' := by
  cases operator <;> simp only [openSides?, reduceCtorEq, Option.some.injEq] at h <;> subst h <;>
    cases operator' <;> simp [openSides?] at h' ⊢

/-- The text of an entry's value, if it has one. -/
def Entry.text? (entry : Entry) : Option String :=
  entry.value.bind Value.scalarText?

namespace Compile

variable {field : Field} {entry : Entry} {q : Query}

lemma textValue_eq_ok_iff {text : String} :
    entry.textValue field = .ok text ↔ entry.text? = some text := by
  rw [Entry.textValue, bind_eq_ok_iff, Entry.text?, Option.bind_eq_some_iff]
  refine exists_congr fun v => and_congr Entry.requiredValue_eq_ok_iff ?_
  cases v.scalarText? <;> simp

lemma escapedLeaf_eq_ok_iff {wrap : String → Query} :
    escapedLeaf field entry wrap = .ok q ↔
      ∃ text, entry.text? = some text ∧ q = wrap (escape text) := by
  rw [escapedLeaf, bind_eq_ok_iff]
  refine exists_congr fun text => and_congr textValue_eq_ok_iff ?_
  rw [Except.ok.injEq, eq_comm]

/-- The clause of an entry that searches for a text: the escaped text, with a wildcard on each
side that is open. -/
lemma queryLeaf_of_openSides (field : Field) {front back : Bool}
    (hsides : entry.operator.openSides? = some (front, back)) :
    ∃ defaultOperator analyzeWildcard, ∀ q, queryLeaf field entry = .ok q ↔
      ∃ text, entry.text? = some text ∧
        q = queryString field (starred front back (escape text)) defaultOperator
          analyzeWildcard := by
  unfold queryLeaf
  cases hop : entry.operator <;> rw [hop] at hsides <;> cases hsides
  case equals =>
    refine ⟨some .and, false, fun q => ?_⟩
    simp [escapedLeaf_eq_ok_iff, starred]
  case contains =>
    refine ⟨none, true, fun q => ?_⟩
    simp [escapedLeaf_eq_ok_iff, starred]
  case startsWith =>
    refine ⟨none, true, fun q => ?_⟩
    simp [escapedLeaf_eq_ok_iff, starred]
  case endsWith =>
    refine ⟨none, true, fun q => ?_⟩
    simp [escapedLeaf_eq_ok_iff, starred]

lemma queryString_inj {text text' : String}
    {defaultOperator defaultOperator' : Option MatchOperator} {analyze analyze' : Bool}
    (h : queryString field text defaultOperator analyze =
      queryString field text' defaultOperator' analyze') : text = text' := by
  injection h with h
  injection h with h
  injection h

lemma exists_queryLeaf_iff {sides : Bool × Bool}
    (hsides : entry.operator.openSides? = some sides) :
    (∃ q, queryLeaf field entry = .ok q) ↔ ∃ text, entry.text? = some text := by
  obtain ⟨_, _, hleaf⟩ := queryLeaf_of_openSides field hsides
  simp only [hleaf]
  exact ⟨fun ⟨_, text, htext, _⟩ => ⟨text, htext⟩, fun ⟨text, htext⟩ => ⟨_, text, htext, rfl⟩⟩

/-- The query string of a text is read as its literal characters, between the wildcards of the sides
that are open. -/
lemma readTokens_of_queryLeaf (field : Field) {front back : Bool}
    (hsides : entry.operator.openSides? = some (front, back)) {text : String}
    (htext : entry.text? = some text) :
    ∃ query defaultOperator analyzeWildcard,
      queryLeaf field entry = .ok (queryString field query defaultOperator analyzeWildcard) ∧
      readTokens query.toList = some (starredTokens front back text.toList) := by
  obtain ⟨defaultOperator, analyzeWildcard, hleaf⟩ := queryLeaf_of_openSides field hsides
  exact ⟨_, defaultOperator, analyzeWildcard, (hleaf _).2 ⟨text, htext, rfl⟩,
    readTokens_starred front back text⟩

/-- An entry that searches for a text is accepted if and only if its value has one.  Its query
string is read as the characters of the text, all of them literal, with a live wildcard on each side
that is open, and with nothing else.  Of two texts that are not empty, the query string alone tells
the operator and the text.  Escaping is injective, and distributes over concatenation. -/
theorem queryLeaf_readTokens (field : Field) :
    (∀ (entry : Entry) (front back : Bool), entry.operator.openSides? = some (front, back) →
      ((∃ q, queryLeaf field entry = .ok q) ↔ ∃ text, entry.text? = some text) ∧
      ∀ text, entry.text? = some text → ∃ query defaultOperator analyzeWildcard,
        queryLeaf field entry = .ok (queryString field query defaultOperator analyzeWildcard) ∧
        readTokens query.toList = some (starredTokens front back text.toList)) ∧
    (∀ (entry entry' : Entry) (text text' query : String)
        (defaultOperator defaultOperator' : Option MatchOperator) (analyze analyze' : Bool),
      entry.operator.openSides?.isSome = true → entry'.operator.openSides?.isSome = true →
      entry.text? = some text → entry'.text? = some text' → text ≠ "" → text' ≠ "" →
      queryLeaf field entry = .ok (queryString field query defaultOperator analyze) →
      queryLeaf field entry' = .ok (queryString field query defaultOperator' analyze') →
        entry.operator = entry'.operator ∧ text = text') ∧
    Function.Injective escape ∧ ∀ s t, escape (s ++ t) = escape s ++ escape t := by
  refine ⟨fun entry front back hsides =>
    ⟨exists_queryLeaf_iff hsides, fun text => readTokens_of_queryLeaf field hsides⟩, ?_,
    escape_injective, escape_append⟩
  intro entry entry' text text' query defaultOperator defaultOperator' analyze analyze' hside hside'
    htext htext' hne hne' h h'
  obtain ⟨⟨front, back⟩, hsides⟩ := Option.isSome_iff_exists.1 hside
  obtain ⟨⟨front', back'⟩, hsides'⟩ := Option.isSome_iff_exists.1 hside'
  obtain ⟨written, _, _, hq, hread⟩ := readTokens_of_queryLeaf field hsides htext
  obtain ⟨written', _, _, hq', hread'⟩ := readTokens_of_queryLeaf field hsides' htext'
  -- Both entries have this query string, so it is read as the tokens of either.
  obtain rfl : query = written := queryString_inj (Except.ok.inj (h.symm.trans hq))
  obtain rfl : query = written' := queryString_inj (Except.ok.inj (h'.symm.trans hq'))
  rw [hread, Option.some.injEq] at hread'
  obtain ⟨rfl, rfl, hsame⟩ := starredTokens_inj (mt String.toList_eq_nil_iff.1 hne)
    (mt String.toList_eq_nil_iff.1 hne') hread'
  exact ⟨Operator.eq_of_openSides? hsides hsides', String.toList_inj.1 hsame⟩

/-- A text that starts with a star and ends with a backslash. -/
def starAndBackslash : Entry := .of .contains (.text "*a\\")

/-- The star of the text is literal although a wildcard stands in front of it, and the backslash
does not reach the wildcard behind it.  A number is told apart from no text but its own. -/
theorem queryLeaf_starAndBackslash :
    queryLeaf (.named "name") starAndBackslash =
        .ok (queryString (.named "name") "*\\*a\\\\*" none true) ∧
      readTokens "*\\*a\\\\*".toList =
        some [.live '*', .literal '*', .literal 'a', .literal '\\', .live '*'] ∧
      ∀ text, queryLeaf (.named "name") (.of .startsWith (.text text)) =
        .ok (queryString (.named "name") "7*" none true) → text ≠ "" → text = "7" := by
  have hleaf : queryLeaf (.named "name") starAndBackslash =
      .ok (queryString (.named "name") "*\\*a\\\\*" none true) := rfl
  obtain ⟨hread, hsame, -, -⟩ := queryLeaf_readTokens (.named "name")
  obtain ⟨query, _, _, hq, htokens⟩ := (hread starAndBackslash true true rfl).2 "*a\\" rfl
  obtain rfl : "*\\*a\\\\*" = query := queryString_inj (Except.ok.inj (hleaf.symm.trans hq))
  refine ⟨hleaf, by rw [htokens]; decide, fun text h hne => ?_⟩
  exact (hsame _ (.of .startsWith (.integer 7)) text "7" "7*" none none true true rfl rfl rfl rfl
    hne (by decide) h rfl).2

end Compile

end SearchCriteria
