/-
# Lists of values in query strings

An entry that compares a field with a list of values becomes a query string, unless the field
holds exact values.  The texts of the values are quoted in it, so that whatever they are, nothing
in them is taken for syntax.

Main statement: the query string of an accepted entry is read back as the texts of its values, in
order, and as whether it negates.  Two entries with the same query string have the same operator
and the same texts.
-/
import SearchCriteria.Proofs.Compile.Accepted
import SearchCriteria.Proofs.Text.Quoted

namespace SearchCriteria.Compile

open Text

section Analyzed

variable {field : Field} (hfield : field.isKeyword = false) {entry : Entry}
include hfield

/-- The query string of a list of values is read back as their texts. -/
lemma readValues_of_valuesLeaf {negated : Bool} {q : Query}
    (h : valuesLeaf field entry negated = .ok q) :
    ∃ text texts, q = queryString field text none false ∧ entry.listTexts? = some texts ∧
      readValues text = some (negated, texts) := by
  obtain ⟨values, texts, hvalue, hne, htexts, hq⟩ := valuesLeaf_eq_ok h
  rw [hfield, if_neg Bool.false_ne_true] at hq
  have hlist : entry.listTexts? = some texts := by
    rw [Entry.listTexts?, hvalue, Option.bind_some, Value.list?, Option.bind_some, htexts]
  have hsome : texts ≠ [] := by
    rintro rfl
    cases values with
    | nil => exact hne rfl
    | cons v values =>
      obtain ⟨s, rest, -, -, hcons⟩ := Value.mapM_scalarText?_cons.1 htexts
      cases hcons
  exact ⟨_, texts, hq, hlist, readValues_anyOf negated hsome⟩

/-- The query string of an entry with one of the two operators is read back. -/
lemma readValues_of_queryLeaf {q : Query}
    (hop : entry.operator = .oneOf ∨ entry.operator = .noneOf)
    (h : queryLeaf field entry = .ok q) :
    ∃ text texts, q = queryString field text none false ∧ entry.listTexts? = some texts ∧
      readValues text = some (entry.operator == .noneOf, texts) := by
  obtain hop | hop := hop
  · rw [queryLeaf, hop] at h
    rw [hop]
    exact readValues_of_valuesLeaf hfield h
  · rw [queryLeaf, hop] at h
    rw [hop]
    exact readValues_of_valuesLeaf hfield h

end Analyzed

/-- What an entry with a list of values becomes, for a field that does not hold exact values, says
which operator and which texts it is made of: the query string is read back as them, by a reader
that knows nothing but the syntax.  So entries with the same query string have the same operator
and the same texts. -/
theorem queryLeaf_readValues (field : Field) (hfield : field.isKeyword = false) :
    (∀ (entry : Entry) (q : Query), entry.operator = .oneOf ∨ entry.operator = .noneOf →
      queryLeaf field entry = .ok q →
        ∃ text texts, q = queryString field text none false ∧ entry.listTexts? = some texts ∧
          readValues text = some (entry.operator == .noneOf, texts)) ∧
    ∀ (entry entry' : Entry) (text : String),
      entry.operator = .oneOf ∨ entry.operator = .noneOf →
      entry'.operator = .oneOf ∨ entry'.operator = .noneOf →
      queryLeaf field entry = .ok (queryString field text none false) →
      queryLeaf field entry' = .ok (queryString field text none false) →
        entry.operator = entry'.operator ∧
          ∃ texts, entry.listTexts? = some texts ∧ entry'.listTexts? = some texts := by
  refine ⟨fun entry q => readValues_of_queryLeaf hfield, ?_⟩
  intro entry entry' text hop hop' h h'
  obtain ⟨written, texts, hq, htexts, hread⟩ := readValues_of_queryLeaf hfield hop h
  obtain ⟨written', texts', hq', htexts', hread'⟩ := readValues_of_queryLeaf hfield hop' h'
  obtain rfl : text = written := by simpa [queryString] using hq
  obtain rfl : text = written' := by simpa [queryString] using hq'
  rw [hread, Option.some.injEq, Prod.mk.injEq] at hread'
  obtain ⟨hsame, rfl⟩ := hread'
  refine ⟨?_, texts, htexts, htexts'⟩
  obtain hop | hop := hop <;> obtain hop' | hop' := hop' <;> simp_all

/-- Values that look like the end of a text, like the separator and like the end of the query
string. -/
def disguised : Entry :=
  .of .noneOf (.list [.text "a\" OR \"b", .text "c\\", .text ") OR (", .text "", .integer 7])

/-- The query string that these values are quoted in. -/
def disguisedText : String :=
  "NOT(\"a\\\" OR \\\"b\" OR \"c\\\\\" OR \"\\) OR \\(\" OR \"\" OR \"7\")"

/-- None of the values is taken for what it looks like.  A number has the query string of its
digits, which are its text. -/
theorem queryLeaf_disguised :
    queryLeaf (.named "name") disguised =
        .ok (queryString (.named "name") disguisedText none false) ∧
      readValues disguisedText = some (true, ["a\" OR \"b", "c\\", ") OR (", "", "7"]) ∧
      ∃ texts, (Entry.of .oneOf (.list [.integer 7])).listTexts? = some texts ∧
        (Entry.of .oneOf (.list [.text "7"])).listTexts? = some texts := by
  have hleaf : queryLeaf (.named "name") disguised =
      .ok (queryString (.named "name") disguisedText none false) := rfl
  have hknown : disguised.listTexts? = some ["a\" OR \"b", "c\\", ") OR (", "", "7"] := rfl
  obtain ⟨hread, hsame⟩ := queryLeaf_readValues (.named "name") rfl
  obtain ⟨text, texts, hq, htexts, hread⟩ := hread disguised _ (.inr rfl) hleaf
  obtain rfl : disguisedText = text := by simpa [queryString] using hq
  rw [hknown, Option.some.injEq] at htexts
  refine ⟨hleaf, by rw [hread, htexts]; rfl, ?_⟩
  exact (hsame (.of .oneOf (.list [.integer 7])) (.of .oneOf (.list [.text "7"])) "\"7\""
    (.inl rfl) (.inl rfl) rfl rfl).2

end SearchCriteria.Compile
