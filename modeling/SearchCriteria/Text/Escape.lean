/-
# Escaping for the query-string syntax

A value that goes into a query string must not be read as syntax.  `escape` puts a backslash
before every character that has a meaning there; `quote` also puts double quotes around the
value, and `anyOf` joins quoted values with `OR`.
-/

namespace SearchCriteria.Text

/-- The characters with a meaning in the query-string syntax. -/
def specialChars : List Char :=
  ['\\', '+', '-', '!', '(', ')', ':', '^', '[', ']', '"', '{', '}', '~', '*', '?', '|', '&', '/']

/-- Whether a character has a meaning in the query-string syntax. -/
def isSpecial (c : Char) : Bool :=
  specialChars.contains c

/-- A character, after a backslash if it is special. -/
def escapeChar (c : Char) : List Char :=
  if isSpecial c then ['\\', c] else [c]

/-- The characters of a text, with a backslash before every special one. -/
def escapeChars (text : List Char) : List Char :=
  text.flatMap escapeChar

@[simp] theorem escapeChars_nil : escapeChars [] = [] := rfl

@[simp] theorem escapeChars_cons (c : Char) (text : List Char) :
    escapeChars (c :: text) = escapeChar c ++ escapeChars text := rfl

/-- Escaping distributes over concatenation. -/
@[simp] theorem escapeChars_append (s t : List Char) :
    escapeChars (s ++ t) = escapeChars s ++ escapeChars t := by
  simp [escapeChars]

/-- Puts a backslash before every special character. -/
def escape (text : String) : String :=
  String.ofList (escapeChars text.toList)

/-- Escapes a text and puts double quotes around it. -/
def quote (text : String) : String :=
  "\"" ++ escape text ++ "\""

/-- The query string that matches any of the values. -/
def anyOf (values : List String) : String :=
  String.intercalate " OR " (values.map quote)

end SearchCriteria.Text
