/-
# JSON text carries JSON values

The text that a JSON value is written as is scanned as the value: strings by undoing their escapes
character by character, numbers as they are written, arrays and objects item by item.  Only a
32-bit number may become another number, as the text has it.

Main statement: the draft of the text of a value is the draft of the value, in which each 32-bit
number is the draft of its own text, and nothing of the text is left over.
-/
import Mathlib.Tactic.SplitIfs
import SearchCriteria.Json.Reader
import SearchCriteria.Proofs.Json.Draft
import SearchCriteria.Proofs.Json.Numbers

namespace SearchCriteria

open Numeric Text

namespace Scanner

/-! ## Strings -/

/-- The digits of a code point below 32 are hexadecimal digits. -/
lemma hexQuad?_hexPair {n : Nat} (h : n < 0x20) :
    hexQuad? '0' '0' (Nat.digitChar (n / 16)) (Nat.digitChar (n % 16)) = some n := by
  have hall : ∀ n < 0x20,
      hexQuad? '0' '0' (Nat.digitChar (n / 16)) (Nat.digitChar (n % 16)) = some n := by decide
  exact hall n h

/-- A character that needs no escape is scanned as its code point. -/
lemma scanUnits_plain {c : Char} (hquote : c ≠ '"') (hbackslash : c ≠ '\\')
    (h : ¬c.toNat < 0x20) (rest : List Char) :
    scanUnits (c :: rest) = (scanUnits rest).push c.toNat := by
  -- The character is none of those that the scanner looks for before it takes a plain one.
  rw [scanUnits.eq_def]
  split
  case h_7 heq =>
    obtain ⟨rfl, rfl⟩ := List.cons.inj heq
    exact if_neg h
  all_goals simp_all

/-- A written character is scanned as its code point. -/
lemma scanUnits_writeChar (c : Char) (rest : List Char) :
    scanUnits (Json.writeChar c ++ rest) = (scanUnits rest).push c.toNat := by
  unfold Json.writeChar
  split_ifs with hquote hbackslash hline hreturn htab hback hfeed hcontrol
  · subst hquote
    rfl
  · subst hbackslash
    rfl
  · subst hline
    rfl
  · subst hreturn
    rfl
  · subst htab
    rfl
  · rw [hback]
    rfl
  · rw [hfeed]
    rfl
  · simp only [Json.hexPair, List.cons_append, List.nil_append]
    rw [scanUnits, hexQuad?_hexPair hcontrol]
  · exact scanUnits_plain hquote hbackslash hcontrol rest

lemma scanUnits_writeString (cs rest : List Char) :
    scanUnits (cs.flatMap Json.writeChar ++ '"' :: rest) = ⟨cs.map Char.toNat, .ok rest⟩ := by
  induction cs with
  | nil => rfl
  | cons c cs ih =>
    rw [List.flatMap_cons, List.append_assoc, scanUnits_writeChar, ih]
    rfl

/-- No character is half a surrogate pair. -/
lemma not_surrogate (c : Char) :
    isHighSurrogate c.toNat = false ∧ isLowSurrogate c.toNat = false := by
  have hvalid : c.toNat < 0xd800 ∨ 0xdfff < c.toNat := by
    obtain h | ⟨h, -⟩ := c.valid
    · exact .inl h
    · exact .inr h
  simp only [isHighSurrogate, isLowSurrogate, Bool.and_eq_false_iff, decide_eq_false_iff_not]
  omega

lemma joinUnits?_map_toNat (cs : List Char) : joinUnits? (cs.map Char.toNat) = some cs := by
  induction cs with
  | nil => rfl
  | cons c cs ih =>
    obtain ⟨hhigh, hlow⟩ := not_surrogate c
    cases cs with
    | nil => simp [joinUnits?, hhigh, hlow, Char.ofNat_toNat]
    | cons c' cs =>
      rw [List.map_cons, List.map_cons, joinUnits?, hhigh, hlow, ← List.map_cons, ih]
      simp [Char.ofNat_toNat]

lemma scanString_writeString (s : String) (rest : List Char) :
    scanString (s.toList.flatMap Json.writeChar ++ '"' :: rest) = (.text s, some rest) := by
  simp [scanString, scanUnits_writeString, joinUnits?_map_toNat]

end Scanner

/-! ## Numbers -/

/-- What a written text makes of numbers: a whole number is read by its digits, and a 32-bit number
is the 64-bit number nearest to the decimal that it is written as. -/
def Carrier.text : Carrier where
  integer n := Scanner.integerDraft (n < 0) (Nat.toDigits 10 n.natAbs)
  single x := x.jsonDraft
  integer_toInt n := by
    have hlow := n.minValue_le_toInt
    have hhigh := n.toInt_le
    rw [Int64.toInt_minValue] at hlow
    rw [Int64.toInt_maxValue] at hhigh
    simp only [Scanner.integerDraft, Nat.ofDigitChars_ten_toDigits, decide_eq_true_eq]
    by_cases hsign : n.toInt < 0
    · have hvalue : -(n.toInt.natAbs : Int) = n.toInt := by omega
      rw [if_pos ⟨hsign, by omega, by omega⟩, hvalue]
    · have hvalue : (n.toInt.natAbs : Int) = n.toInt := by omega
      rw [if_neg fun h => hsign h.1, if_pos ⟨hsign, by omega⟩, hvalue]
  limit_integer n levels := by
    simp only [Scanner.integerDraft, Scanner.floatDraft]
    split_ifs <;> exact Json.limit_of_scalar (by simp) (by simp) levels
  limit_single x levels := by
    cases x <;> simp only [Binary.jsonDraft, Scanner.floatDraft]
    case finite => split_ifs <;> exact Json.limit_of_scalar (by simp) (by simp) levels
    all_goals exact Json.limit_of_scalar (by simp) (by simp) levels

namespace Scanner

lemma skipSpace_of_not_space {c : Char} (h : isSpace c = false) (rest : List Char) :
    skipSpace (c :: rest) = c :: rest :=
  dropWhile_of_stopsAt (stopsAt_cons h rest)

lemma ne_of_isDigit {c d : Char} (hc : c.isDigit = true) (hd : d.isDigit = false) : c ≠ d := by
  rintro rfl
  rw [hc] at hd
  cases hd

lemma isSpace_of_isDigit {c : Char} (h : c.isDigit = true) : isSpace c = false := by
  have hne : ∀ d : Char, d.isDigit = false → c ≠ d := fun _ => ne_of_isDigit h
  simp [isSpace, hne ' ', hne '\n', hne '\t', hne '\r']

/-- A text that starts with a digit is scanned as a number. -/
lemma scanValue_digit {text : List Char} (h : StartsWithDigit text) (fuel : Nat) :
    scanValue (fuel + 1) text = scanNumber false text := by
  obtain ⟨c, rest, rfl, hdigit⟩ := h
  rw [scanValue, skipSpace_of_not_space (isSpace_of_isDigit hdigit)]
  split
  case h_1 heq => cases heq
  -- A digit starts no other kind of value.
  case h_9 heq =>
    obtain ⟨rfl, rfl⟩ := List.cons.inj heq
    exact if_pos hdigit
  all_goals
    rename_i heq
    exact absurd (List.cons.inj heq).1 (ne_of_isDigit hdigit (by decide))

lemma scanValue_minus (text : List Char) (fuel : Nat) :
    scanValue (fuel + 1) ('-' :: text) = scanNumber true text := by
  rw [scanValue, skipSpace_of_not_space (by decide)]
  rfl

lemma scanValue_integer (n : Int) (fuel : Nat) {rest : List Char} (hrest : StopsAt isNumeral rest) :
    scanValue (fuel + 1) (Json.writeInteger n ++ rest) = (Carrier.text.integer n, some rest) := by
  unfold Json.writeInteger Carrier.text
  by_cases hn : n < 0
  · rw [if_pos hn, List.singleton_append, List.cons_append, scanValue_minus,
      scanNumber_integer true _ hrest]
    simp [hn]
  · have hdigits : StartsWithDigit (Nat.toDigits 10 n.natAbs) :=
      startsWithDigit_of_digits (isDigit_toDigits _) Nat.toDigits_ne_nil
    rw [if_neg hn, List.nil_append, scanValue_digit (startsWithDigit_append hdigits rest),
      scanNumber_integer false _ hrest]
    simp [hn]

lemma scanValue_null (fuel : Nat) (rest : List Char) :
    scanValue (fuel + 1) ("null".toList ++ rest) = (.null, some rest) := by
  have htext : "null".toList = ['n', 'u', 'l', 'l'] := rfl
  rw [htext, scanValue]
  rfl

lemma scanValue_bool (b : Bool) (fuel : Nat) (rest : List Char) :
    scanValue (fuel + 1) ((if b then "true".toList else "false".toList) ++ rest) =
      (.bool b, some rest) := by
  have htrue : "true".toList = ['t', 'r', 'u', 'e'] := rfl
  have hfalse : "false".toList = ['f', 'a', 'l', 's', 'e'] := rfl
  rw [htrue, hfalse, scanValue]
  cases b <;> rfl

lemma scanValue_number {f : Format} (x : Binary f) (fuel : Nat) {rest : List Char}
    (hrest : StopsAt isNumeral rest) :
    scanValue (fuel + 1) (Json.writeNumber x ++ rest) = (x.jsonDraft, some rest) := by
  cases x with
  | nan => exact scanValue_null fuel rest
  | infinity negative => exact scanValue_null fuel rest
  | finite negative m s h =>
    have hscan := Binary.scanNumber_jsonDecimal negative m s h hrest
    rw [Binary.writeNumber_finite]
    cases negative with
    | true => rw [if_pos rfl, List.singleton_append, List.cons_append, scanValue_minus, hscan]
    | false =>
      rw [if_neg (by decide), List.nil_append,
        scanValue_digit (startsWithDigit_append (startsWithDigit_write _ _) rest), hscan]

/-- A written string is what the scan of a string undoes. -/
lemma writeString_append (s : String) (rest : List Char) :
    Json.writeString s ++ rest = '"' :: (s.toList.flatMap Json.writeChar ++ '"' :: rest) := by
  simp [Json.writeString]

lemma scanValue_text (s : String) (fuel : Nat) (rest : List Char) :
    scanValue (fuel + 1) (Json.writeString s ++ rest) = (.text s, some rest) := by
  rw [writeString_append, scanValue, skipSpace_of_not_space (by decide)]
  exact scanString_writeString s rest

/-! ## Arrays and objects -/

/-- What may stand where an item of an array has to be: neither space nor the end of the array. -/
def StartsItem (text : List Char) : Prop :=
  ∃ c rest, text = c :: rest ∧ isSpace c = false ∧ c ≠ ']'

lemma startsItem_append {text : List Char} (h : StartsItem text) (rest : List Char) :
    StartsItem (text ++ rest) := by
  obtain ⟨c, cs, rfl, hc⟩ := h
  exact ⟨c, cs ++ rest, rfl, hc⟩

lemma startsItem_of_digit {text : List Char} (h : StartsWithDigit text) : StartsItem text := by
  obtain ⟨c, rest, rfl, hdigit⟩ := h
  exact ⟨c, rest, rfl, isSpace_of_isDigit hdigit, ne_of_isDigit hdigit (by decide)⟩

lemma startsItem_writeInteger (n : Int) : StartsItem (Json.writeInteger n) := by
  unfold Json.writeInteger
  split
  · exact ⟨'-', _, rfl, by decide, by decide⟩
  · exact startsItem_of_digit (startsWithDigit_of_digits (isDigit_toDigits _) Nat.toDigits_ne_nil)

lemma startsItem_null : StartsItem "null".toList :=
  ⟨'n', _, rfl, by decide, by decide⟩

lemma startsItem_writeNumber {f : Format} (x : Binary f) : StartsItem (Json.writeNumber x) := by
  cases x with
  | nan => exact startsItem_null
  | infinity negative => exact startsItem_null
  | finite negative m s h =>
    rw [Binary.writeNumber_finite]
    cases negative with
    | true => exact ⟨'-', _, rfl, by decide, by decide⟩
    | false => exact startsItem_of_digit (startsWithDigit_write _ _)

/-- The text of a value is neither empty nor begins with space or the end of an array. -/
lemma startsItem_write (j : Json) : StartsItem j.write := by
  cases j with
  | null => exact startsItem_null
  | bool b => cases b <;> exact ⟨_, _, rfl, by decide, by decide⟩
  | integer n =>
    rw [Json.write]
    exact startsItem_writeInteger n
  | float x =>
    rw [Json.write]
    exact startsItem_writeNumber x
  | single x =>
    rw [Json.write]
    exact startsItem_writeNumber x
  | text s =>
    rw [Json.write]
    exact ⟨'"', _, rfl, by decide, by decide⟩
  | array items =>
    cases items with
    | nil =>
      rw [Json.write]
      exact ⟨'[', _, rfl, by decide, by decide⟩
    | cons item items =>
      rw [Json.write]
      exact ⟨'[', _, rfl, by decide, by decide⟩
  | object members =>
    cases members with
    | nil =>
      rw [Json.write]
      exact ⟨'\x7b', _, rfl, by decide, by decide⟩
    | cons member members =>
      rw [Json.write]
      exact ⟨'\x7b', _, rfl, by decide, by decide⟩

section Steps

variable {fuel : Nat} {text following rest : List Char} {d : Draft}

lemma scanValue_items {items : Items} (hstart : StartsItem text)
    (hitems : scanItems fuel text = (items, some rest)) :
    scanValue (fuel + 1) ('[' :: text) = (.array items, some rest) := by
  obtain ⟨c, cs, rfl, hspace, hclosed⟩ := hstart
  rw [scanValue, skipSpace_of_not_space (by decide)]
  simp only [skipSpace_of_not_space hspace]
  split
  case h_1 heq => cases heq
  case h_2 heq => exact absurd (List.cons.inj heq).1 hclosed
  case h_3 => rw [hitems]

lemma scanItems_last (hvalue : scanValue fuel text = (d, some (']' :: rest))) :
    scanItems (fuel + 1) text = (.item d .closed, some rest) := by
  rw [scanItems, hvalue]
  rfl

lemma scanItems_next {items : Items} (hvalue : scanValue fuel text = (d, some (',' :: following)))
    (hitems : scanItems fuel following = (items, some rest)) :
    scanItems (fuel + 1) text = (.item d items, some rest) := by
  rw [scanItems, hvalue]
  simp only [skipSpace_of_not_space (show isSpace ',' = false by decide), hitems]

lemma scanValue_members {members : Members} {key : String}
    (hmembers : scanMembers fuel (Json.writeString key ++ text) = (members, some rest)) :
    scanValue (fuel + 1) ('\x7b' :: (Json.writeString key ++ text)) =
      (.object members, some rest) := by
  rw [writeString_append] at hmembers ⊢
  rw [scanValue, skipSpace_of_not_space (by decide)]
  simp only [skipSpace_of_not_space (show isSpace '"' = false by decide)]
  split
  case h_1 heq => exact absurd (List.cons.inj heq).1 (by decide)
  case h_2 => rw [hmembers]

lemma scanMembers_key (key : String) :
    scanMembers (fuel + 1) (Json.writeString key ++ text) = scanMember fuel (some key) text := by
  rw [writeString_append, scanMembers, skipSpace_of_not_space (by decide)]
  simp only [scanString_writeString]

lemma scanMember_last {key : Option String}
    (hvalue : scanValue fuel text = (d, some ('\x7d' :: rest))) :
    scanMember (fuel + 1) key (':' :: text) = (.member key d .closed, some rest) := by
  rw [scanMember, skipSpace_of_not_space (by decide)]
  simp only [hvalue]
  rfl

lemma scanMember_next {key : Option String} {members : Members}
    (hvalue : scanValue fuel text = (d, some (',' :: following)))
    (hmembers : scanMembers fuel following = (members, some rest)) :
    scanMember (fuel + 1) key (':' :: text) = (.member key d members, some rest) := by
  rw [scanMember, skipSpace_of_not_space (by decide)]
  simp only [hvalue, skipSpace_of_not_space (show isSpace ',' = false by decide), hmembers]

end Steps

/-- What follows an item of an array does not go on like a number. -/
lemma stopsAt_writeItems (items : List Json) (rest : List Char) :
    StopsAt isNumeral (Json.writeItems items ++ rest) := by
  cases items <;> exact stopsAt_cons (by decide) _

lemma stopsAt_writeMembers (members : List (String × Json)) (rest : List Char) :
    StopsAt isNumeral (Json.writeMembers members ++ rest) := by
  cases members with
  | nil => exact stopsAt_cons (by decide) _
  | cons member _ => exact stopsAt_cons (by decide) _

mutual

/-- The text of a value is scanned as the value, with fuel for two steps a character. -/
theorem scanValue_write : ∀ (j : Json) (fuel : Nat) (rest : List Char),
    2 * j.write.length ≤ fuel → StopsAt isNumeral rest →
      scanValue fuel (j.write ++ rest) = (j.draftWith .text, some rest)
  | j, 0, rest, hfuel, _ => by
    obtain ⟨c, cs, hcons, -⟩ := startsItem_write j
    rw [hcons, List.length_cons] at hfuel
    omega
  | .null, fuel + 1, rest, _, _ => by
    rw [Json.write, Json.draftWith, scanValue_null]
  | .bool b, fuel + 1, rest, _, _ => by
    rw [Json.write, Json.draftWith, scanValue_bool]
  | .integer n, fuel + 1, rest, _, hrest => by
    rw [Json.write, Json.draftWith, scanValue_integer n fuel hrest]
  | .float x, fuel + 1, rest, _, hrest => by
    rw [Json.write, Json.draftWith, scanValue_number x fuel hrest]
    cases hx : x.isFinite with
    | true => rw [Binary.jsonDraft_double hx, if_pos rfl]
    | false => cases x <;> first | rfl | cases hx
  | .single x, fuel + 1, rest, _, hrest => by
    rw [Json.write, Json.draftWith, scanValue_number x fuel hrest]
    rfl
  | .text s, fuel + 1, rest, _, _ => by
    rw [Json.write, Json.draftWith, scanValue_text]
  | .array [], fuel + 1, rest, _, _ => by
    rw [Json.write, Json.draftWith, Json.draftItemsWith, scanValue]
    rfl
  | .array (item :: items), fuel + 1, rest, hfuel, _ => by
    -- The bracket pays for the step into the array and for the one to its first item.
    rw [Json.write, List.length_append, List.length_cons] at hfuel
    obtain ⟨fuel, rfl⟩ : ∃ n, fuel = n + 1 := ⟨fuel - 1, by omega⟩
    have hitem := scanValue_write item fuel (Json.writeItems items ++ rest) (by omega)
      (stopsAt_writeItems items rest)
    have hitems := scanItems_write items fuel _ rest _ (by omega) hitem
    rw [Json.write, Json.draftWith, Json.draftItemsWith, List.append_assoc, List.cons_append]
    exact scanValue_items (startsItem_append (startsItem_write item) _) hitems
  | .object [], fuel + 1, rest, _, _ => by
    rw [Json.write, Json.draftWith, Json.draftMembersWith, scanValue]
    rfl
  | .object ((key, value) :: members), fuel + 1, rest, hfuel, _ => by
    have htext : Json.write (.object ((key, value) :: members)) ++ rest = '\x7b' ::
        (Json.writeString key ++ ':' :: (value.write ++ (Json.writeMembers members ++ rest))) := by
      simp [Json.write]
    have hlength : (Json.write (.object ((key, value) :: members))).length =
        (Json.writeString key).length + value.write.length +
          (Json.writeMembers members).length + 2 := by
      simp [Json.write]
      omega
    obtain ⟨fuel, rfl⟩ : ∃ n, fuel = n + 2 := ⟨fuel - 2, by omega⟩
    have hvalue := scanValue_write value fuel (Json.writeMembers members ++ rest) (by omega)
      (stopsAt_writeMembers members rest)
    have hmembers := scanMembers_write members fuel key _ rest _ (by omega) hvalue
    rw [htext, Json.draftWith, Json.draftMembersWith]
    refine scanValue_members ?_
    rw [scanMembers_key, hmembers]

/-- The items after one are scanned, up to the end of the array. -/
theorem scanItems_write : ∀ (items : List Json) (fuel : Nat) (text rest : List Char) (d : Draft),
    2 * (Json.writeItems items).length ≤ fuel →
      scanValue fuel text = (d, some (Json.writeItems items ++ rest)) →
        scanItems (fuel + 1) text = (.item d (Json.draftItemsWith .text items), some rest)
  | [], fuel, text, rest, d, _, hvalue => by
    rw [Json.draftItemsWith]
    exact scanItems_last hvalue
  | item :: items, fuel, text, rest, d, hfuel, hvalue => by
    rw [Json.writeItems, List.length_append, List.length_cons] at hfuel
    obtain ⟨fuel, rfl⟩ : ∃ n, fuel = n + 1 := ⟨fuel - 1, by omega⟩
    have hitem := scanValue_write item fuel (Json.writeItems items ++ rest) (by omega)
      (stopsAt_writeItems items rest)
    have hitems := scanItems_write items fuel _ rest _ (by omega) hitem
    rw [Json.writeItems, List.append_assoc, List.cons_append] at hvalue
    rw [Json.draftItemsWith]
    exact scanItems_next hvalue hitems

/-- The members after one are scanned, up to the end of the object. -/
theorem scanMembers_write : ∀ (members : List (String × Json)) (fuel : Nat) (key : String)
    (text rest : List Char) (d : Draft),
    2 * (Json.writeMembers members).length ≤ fuel →
      scanValue fuel text = (d, some (Json.writeMembers members ++ rest)) →
        scanMember (fuel + 1) (some key) (':' :: text) =
          (.member (some key) d (Json.draftMembersWith .text members), some rest)
  | [], fuel, key, text, rest, d, _, hvalue => by
    rw [Json.draftMembersWith]
    exact scanMember_last hvalue
  | (key', value) :: members, fuel, key, text, rest, d, hfuel, hvalue => by
    have htext : Json.writeMembers ((key', value) :: members) ++ rest = ',' ::
        (Json.writeString key' ++ ':' :: (value.write ++ (Json.writeMembers members ++ rest))) := by
      simp [Json.writeMembers]
    have hlength : (Json.writeMembers ((key', value) :: members)).length =
        (Json.writeString key').length + value.write.length +
          (Json.writeMembers members).length + 2 := by
      simp [Json.writeMembers]
      omega
    obtain ⟨fuel, rfl⟩ : ∃ n, fuel = n + 2 := ⟨fuel - 2, by omega⟩
    have hnext := scanValue_write value fuel (Json.writeMembers members ++ rest) (by omega)
      (stopsAt_writeMembers members rest)
    have hmembers := scanMembers_write members fuel key' _ rest _ (by omega) hnext
    rw [Json.draftMembersWith]
    rw [htext] at hvalue
    refine scanMember_next hvalue ?_
    rw [scanMembers_key, hmembers]

end

end Scanner

/-! ## Texts -/

/-- The draft of the text of a value is the draft of the value, and no text is left over. -/
theorem Json.ofText_write (j : Json) : Draft.ofText j.write = (j.draftWith .text, some []) := by
  have h := Scanner.scanValue_write j (2 * j.write.length + 2) [] (by omega) (stopsAt_nil _)
  rwa [List.append_nil] at h

/-- What is read from the text of a value that is not nested too deeply is what is read from the
draft of the value. -/
theorem readFrom_toText {α : Type} (read : Reader α) {j : Json} (hdepth : j.depth ≤ maxDepth) :
    readFrom read j.toText = read (j.draftWith .text) := by
  simp only [readFrom, Json.toText, String.toList_ofList, Json.ofText_write,
    Json.limit_draftWith .text j maxDepth hdepth]
  cases read (j.draftWith .text) <;> rfl

end SearchCriteria
