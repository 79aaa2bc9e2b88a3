/-
# The texts of numbers

What texts are read as numbers, said without the reader.  A number text has an optional sign.
Behind it stands the name of an infinity or of not-a-number, in any case, or a decimal: digits with
at most one point among them, on one side of which there is a digit, and an optional exponent.

* `SignText`, `ExponentText`, `DecimalText`, `UnsignedText` and `NumberText`: the texts, part by
  part, with the value that each of them has;
* `ofText?_eq_some_iff`: the reader accepts exactly these texts, with these values;
* `numberText_toText`: a number is written as a text that stands for it, so that it is read back.
-/
import SearchCriteria.Numeric.Text
import SearchCriteria.Proofs.Numeric.Shortest

namespace SearchCriteria.Numeric

open Text

/-! ## Texts and their values -/

/-- A sign that may be missing. -/
inductive SignText : List Char → Bool → Prop where
  /-- No sign. -/
  | none : SignText [] false
  /-- A plus. -/
  | plus : SignText ['+'] false
  /-- A minus. -/
  | minus : SignText ['-'] true

/-- The texts of a power of ten behind the digits. -/
inductive ExponentText : List Char → Int → Prop where
  /-- No exponent. -/
  | none : ExponentText [] 0
  /-- A mark, and a signed number behind it. -/
  | marked {mark : Char} {sign digits : List Char} {negative : Bool}
    (isMark : mark = 'e' ∨ mark = 'E') (isSign : SignText sign negative)
    (areDigits : ∀ c ∈ digits, c.isDigit = true) (nonempty : digits ≠ []) :
    ExponentText (mark :: (sign ++ digits))
      (if negative then -(Nat.ofDigitChars 10 digits 0 : Int) else Nat.ofDigitChars 10 digits 0)

/-- The texts of unsigned decimals. -/
inductive DecimalText : List Char → Decimal → Prop where
  /-- Digits. -/
  | whole {whole behind : List Char} {exponent : Int}
    (areDigits : ∀ c ∈ whole, c.isDigit = true) (nonempty : whole ≠ [])
    (hasExponent : ExponentText behind exponent) :
    DecimalText (whole ++ behind) (.ofDigits whole [] exponent)
  /-- Digits with a point among them, in front of them or behind them. -/
  | point {whole fraction behind : List Char} {exponent : Int}
    (areDigits : ∀ c ∈ whole, c.isDigit = true) (areDigits' : ∀ c ∈ fraction, c.isDigit = true)
    (nonempty : whole ≠ [] ∨ fraction ≠ []) (hasExponent : ExponentText behind exponent) :
    DecimalText (whole ++ '.' :: (fraction ++ behind)) (.ofDigits whole fraction exponent)

/-- The texts of numbers without their signs. -/
inductive UnsignedText (f : Format) (negative : Bool) : List Char → Binary f → Prop where
  /-- A name of infinity. -/
  | infinity {name : List Char}
    (isName : name.map Char.toLower = "inf".toList ∨ name.map Char.toLower = "infinity".toList) :
    UnsignedText f negative name (.infinity negative)
  /-- The name of not-a-number. -/
  | nan {name : List Char} (isName : name.map Char.toLower = "nan".toList) :
    UnsignedText f negative name .nan
  /-- A decimal stands for the number nearest to it. -/
  | decimal {text : List Char} {d : Decimal} (isDecimal : DecimalText text d) :
    UnsignedText f negative text (d.toBinary f negative)

/-- The texts of numbers. -/
inductive NumberText {f : Format} : List Char → Binary f → Prop where
  /-- A sign that may be missing, and the number behind it. -/
  | signed {sign text : List Char} {negative : Bool} {x : Binary f}
    (isSign : SignText sign negative) (isUnsigned : UnsignedText f negative text x) :
    NumberText (sign ++ text) x

/-! ## Signs -/

/-- The text does not start with a sign. -/
def Signless (text : List Char) : Prop :=
  ∀ c ∈ text.head?, c ≠ '+' ∧ c ≠ '-'

/-- The sign that a text starts with, and the text behind it. -/
def splitSign : List Char → Bool × List Char
  | '+' :: rest => (false, rest)
  | '-' :: rest => (true, rest)
  | text => (false, text)

lemma exists_signText (text : List Char) :
    ∃ sign, SignText sign (splitSign text).1 ∧ sign ++ (splitSign text).2 = text := by
  unfold splitSign
  split
  case h_1 => exact ⟨_, .plus, rfl⟩
  case h_2 => exact ⟨_, .minus, rfl⟩
  case h_3 => exact ⟨_, .none, rfl⟩

/-- There is only one way to take a sign off a text. -/
lemma splitSign_append {sign text : List Char} {negative : Bool} (hsign : SignText sign negative)
    (h : Signless text) : splitSign (sign ++ text) = (negative, text) := by
  cases hsign with
  | plus => rfl
  | minus => rfl
  | none =>
    rw [List.nil_append]
    unfold splitSign
    split
    case h_1 => exact absurd rfl (h '+' rfl).1
    case h_2 => exact absurd rfl (h '-' rfl).2
    case h_3 => rfl

lemma signless_of_forall {p : Char → Bool} {text : List Char} (h : ∀ c ∈ text, p c = true)
    (hplus : p '+' = false) (hminus : p '-' = false) : Signless text := by
  intro c hc
  have hp := h c (List.mem_of_mem_head? hc)
  constructor
  · rintro rfl
    exact Bool.eq_false_iff.1 hplus hp
  · rintro rfl
    exact Bool.eq_false_iff.1 hminus hp

lemma signless_of_digits {digits : List Char} (h : ∀ c ∈ digits, c.isDigit = true) :
    Signless digits :=
  signless_of_forall h (by decide) (by decide)

/-! ## Decimals -/

lemma ExponentText.stopsAt_digit {text : List Char} {n : Int} (h : ExponentText text n) :
    StopsAt Char.isDigit text := by
  cases h with
  | none => exact stopsAt_nil _
  | marked isMark =>
    obtain rfl | rfl := isMark
    · exact stopsAt_cons (by decide) _
    · exact stopsAt_cons (by decide) _

lemma ExponentText.ne_point_cons {text : List Char} {n : Int} (h : ExponentText text n)
    (rest : List Char) : text ≠ '.' :: rest := by
  cases h with
  | none => simp
  | marked isMark =>
    obtain rfl | rfl := isMark <;> simp

lemma DecimalText.exists_head {text : List Char} {d : Decimal} (h : DecimalText text d) :
    ∃ c rest, text = c :: rest ∧ (c.isDigit = true ∨ c = '.') := by
  cases h with
  | @whole whole _ _ areDigits nonempty =>
    obtain ⟨c, cs, rfl⟩ := List.exists_cons_of_ne_nil nonempty
    exact ⟨c, _, rfl, .inl (areDigits c List.mem_cons_self)⟩
  | @point whole _ _ _ areDigits =>
    cases whole with
    | nil => exact ⟨_, _, rfl, .inr rfl⟩
    | cons c cs => exact ⟨c, _, rfl, .inl (areDigits c List.mem_cons_self)⟩

namespace Decimal

lemma exponentOfText?_cons (mark : Char) (rest : List Char) : exponentOfText? (mark :: rest) =
    if mark = 'e' ∨ mark = 'E' then
      if (splitSign rest).2 ≠ [] ∧ (splitSign rest).2.all Char.isDigit then
        some (if (splitSign rest).1 then -(Nat.ofDigitChars 10 (splitSign rest).2 0 : Int)
          else Nat.ofDigitChars 10 (splitSign rest).2 0)
      else none
    else none := by
  rfl

lemma exponentOfText?_eq_some_iff {text : List Char} {n : Int} :
    exponentOfText? text = some n ↔ ExponentText text n := by
  constructor
  · intro h
    cases text with
    | nil =>
      obtain rfl := Option.some.inj h
      exact .none
    | cons mark rest =>
      obtain ⟨sign, hsign, hrest⟩ := exists_signText rest
      rw [exponentOfText?_cons] at h
      split at h
      case isFalse => cases h
      case isTrue hmark =>
        split at h
        case isFalse => cases h
        case isTrue hdigits =>
          have hexponent := ExponentText.marked hmark hsign (List.all_eq_true.1 hdigits.2) hdigits.1
          rw [hrest] at hexponent
          rwa [← Option.some.inj h]
  · intro h
    cases h with
    | none => rfl
    | marked isMark isSign areDigits nonempty =>
      rw [exponentOfText?_cons, splitSign_append isSign (signless_of_digits areDigits),
        if_pos isMark, if_pos ⟨nonempty, List.all_eq_true.2 areDigits⟩]

/-- The digits behind a point, and the text behind them. -/
def splitFraction : List Char → List Char × List Char
  | '.' :: rest => (rest.takeWhile Char.isDigit, rest.dropWhile Char.isDigit)
  | text => ([], text)

lemma exists_point_or_splitFraction (text : List Char) :
    (∃ rest, text = '.' :: rest) ∨ splitFraction text = ([], text) := by
  unfold splitFraction
  split
  case h_1 rest => exact .inl ⟨rest, rfl⟩
  case h_2 => exact .inr rfl

lemma ofText?_eq (text : List Char) : ofText? text =
    if text.takeWhile Char.isDigit = [] ∧ (splitFraction (text.dropWhile Char.isDigit)).1 = [] then
      none
    else
      (exponentOfText? (splitFraction (text.dropWhile Char.isDigit)).2).map
        (ofDigits (text.takeWhile Char.isDigit)
          (splitFraction (text.dropWhile Char.isDigit)).1) :=
  rfl

/-- The reader of decimals accepts the texts of decimals. -/
lemma ofText?_eq_some_iff {text : List Char} {d : Decimal} :
    ofText? text = some d ↔ DecimalText text d := by
  constructor
  · intro h
    have hwhole : ∀ c ∈ text.takeWhile Char.isDigit, c.isDigit = true :=
      List.all_eq_true.1 List.all_takeWhile
    have htext := List.takeWhile_append_dropWhile (p := Char.isDigit) (l := text)
    rw [ofText?_eq] at h
    generalize text.takeWhile Char.isDigit = whole at h hwhole htext
    generalize text.dropWhile Char.isDigit = after at h htext
    subst htext
    split at h
    case isTrue => cases h
    case isFalse hnonempty =>
      obtain ⟨exponent, hread, rfl⟩ := Option.map_eq_some_iff.1 h
      have hexponent := exponentOfText?_eq_some_iff.1 hread
      obtain ⟨rest, rfl⟩ | hsplit := exists_point_or_splitFraction after
      · have hfraction : ∀ c ∈ rest.takeWhile Char.isDigit, c.isDigit = true :=
          List.all_eq_true.1 List.all_takeWhile
        have hdecimal := DecimalText.point hwhole hfraction
          (Decidable.not_and_iff_or_not.1 hnonempty) hexponent
        rwa [splitFraction, List.takeWhile_append_dropWhile] at hdecimal
      · rw [hsplit] at hnonempty hexponent ⊢
        exact .whole hwhole (fun hnil => hnonempty ⟨hnil, rfl⟩) hexponent
  · intro h
    cases h with
    | @whole whole behind exponent areDigits nonempty hasExponent =>
      have hread := exponentOfText?_eq_some_iff.2 hasExponent
      have hstops := hasExponent.stopsAt_digit
      have hsplit := (exists_point_or_splitFraction behind).resolve_left
        fun ⟨rest, hpoint⟩ => hasExponent.ne_point_cons rest hpoint
      rw [ofText?_eq, takeWhile_run areDigits hstops, dropWhile_run areDigits hstops, hsplit,
        if_neg fun hnil => nonempty hnil.1, hread]
      rfl
    | @point whole fraction behind exponent areDigits areDigits' nonempty hasExponent =>
      have hread := exponentOfText?_eq_some_iff.2 hasExponent
      have hstops := hasExponent.stopsAt_digit
      have hpoint : StopsAt Char.isDigit ('.' :: (fraction ++ behind)) :=
        stopsAt_cons (by decide) _
      have hsplit : splitFraction ('.' :: (fraction ++ behind)) = (fraction, behind) := by
        rw [splitFraction, takeWhile_run areDigits' hstops, dropWhile_run areDigits' hstops]
      rw [ofText?_eq, takeWhile_run areDigits hpoint, dropWhile_run areDigits hpoint, hsplit,
        if_neg (Decidable.not_and_iff_or_not.2 nonempty), hread]
      rfl

end Decimal

/-! ## Names and signs -/

lemma isAlpha_iff_toNat {c : Char} : c.isAlpha = true ↔
    ('A'.toNat ≤ c.toNat ∧ c.toNat ≤ 'Z'.toNat) ∨ 'a'.toNat ≤ c.toNat ∧ c.toNat ≤ 'z'.toNat := by
  have hupper : c.isUpper = true ↔ 'A'.toNat ≤ c.toNat ∧ c.toNat ≤ 'Z'.toNat := decide_eq_true_iff
  have hlower : c.isLower = true ↔ 'a'.toNat ≤ c.toNat ∧ c.toNat ≤ 'z'.toNat :=
    Bool.and_eq_true_iff.trans (and_congr decide_eq_true_iff decide_eq_true_iff)
  exact Bool.or_eq_true_iff.trans (or_congr hupper hlower)

lemma isAlpha_of_toLower {c : Char} (h : c.toLower.isAlpha = true) : c.isAlpha = true := by
  by_cases hupper : c.isUpper = true
  · exact Bool.or_eq_true_iff.2 (.inl hupper)
  · have hsame : c.toLower = c := dif_neg fun hrange => hupper (decide_eq_true hrange)
    rwa [hsame] at h

lemma isAlpha_of_map_toLower {text name : List Char} (h : text.map Char.toLower = name)
    (hname : name.all Char.isAlpha = true) : ∀ c ∈ text, c.isAlpha = true := by
  intro c hc
  exact isAlpha_of_toLower (List.all_eq_true.1 hname _ (h ▸ List.mem_map_of_mem hc))

lemma isAlpha_of_isDigit {c : Char} (h : c.isDigit = true) : c.isAlpha = false := by
  have hdigit : 48 ≤ c.toNat ∧ c.toNat ≤ 57 := Char.isDigit_iff_toNat.1 h
  refine Bool.eq_false_iff.2 fun hletter => ?_
  have hrange : (65 ≤ c.toNat ∧ c.toNat ≤ 90) ∨ 97 ≤ c.toNat ∧ c.toNat ≤ 122 :=
    isAlpha_iff_toNat.1 hletter
  omega

lemma DecimalText.exists_not_isAlpha {text : List Char} {d : Decimal} (h : DecimalText text d) :
    ∃ c ∈ text, c.isAlpha = false := by
  obtain ⟨c, rest, rfl, hdigit | rfl⟩ := h.exists_head
  · exact ⟨c, List.mem_cons_self, isAlpha_of_isDigit hdigit⟩
  · exact ⟨'.', List.mem_cons_self, by decide⟩

lemma DecimalText.ne_name {text : List Char} {d : Decimal} (h : DecimalText text d) {name : String}
    (hletters : name.toList.all Char.isAlpha = true) :
    String.ofList (text.map Char.toLower) ≠ name := by
  rintro rfl
  rw [String.toList_ofList] at hletters
  obtain ⟨c, hc, hletter⟩ := h.exists_not_isAlpha
  exact absurd (isAlpha_of_map_toLower rfl hletters c hc) (Bool.eq_false_iff.1 hletter)

namespace UnsignedText

variable {f : Format} {negative : Bool} {text : List Char} {x : Binary f}

lemma isAlpha_or_decimalText (h : UnsignedText f negative text x) :
    (∀ c ∈ text, c.isAlpha = true) ∨ ∃ d, DecimalText text d := by
  cases h with
  | infinity isName =>
    obtain h | h := isName <;> exact .inl (isAlpha_of_map_toLower h (by decide))
  | nan isName => exact .inl (isAlpha_of_map_toLower isName (by decide))
  | decimal isDecimal => exact .inr ⟨_, isDecimal⟩

lemma signless (h : UnsignedText f negative text x) : Signless text := by
  obtain hletters | ⟨d, hdecimal⟩ := h.isAlpha_or_decimalText
  · exact signless_of_forall hletters (by decide) (by decide)
  · obtain ⟨c, rest, rfl, hc⟩ := hdecimal.exists_head
    rintro _ ⟨⟩
    constructor <;> rintro rfl <;> exact absurd hc (by decide)

end UnsignedText

/-! ## Reading -/

namespace Binary

variable {f : Format}

/-- The reader of unsigned numbers accepts the texts of unsigned numbers. -/
lemma ofUnsignedText?_eq_some_iff {negative : Bool} {text : List Char} {x : Binary f} :
    ofUnsignedText? f negative text = some x ↔ UnsignedText f negative text x := by
  constructor
  · intro h
    unfold ofUnsignedText? at h
    split at h
    case h_1 hname =>
      obtain rfl := Option.some.inj h
      exact .infinity (.inl (by rw [← hname, String.toList_ofList]))
    case h_2 hname =>
      obtain rfl := Option.some.inj h
      exact .infinity (.inr (by rw [← hname, String.toList_ofList]))
    case h_3 hname =>
      obtain rfl := Option.some.inj h
      exact .nan (by rw [← hname, String.toList_ofList])
    case h_4 =>
      obtain ⟨d, hd, rfl⟩ := Option.map_eq_some_iff.1 h
      exact .decimal (Decimal.ofText?_eq_some_iff.1 hd)
  · intro h
    unfold ofUnsignedText?
    cases h with
    | infinity isName =>
      obtain hname | hname := isName <;>
        · rw [hname, String.ofList_toList]
          rfl
    | nan isName =>
      rw [isName, String.ofList_toList]
      rfl
    | decimal isDecimal =>
      split
      case h_1 h => exact absurd h (isDecimal.ne_name (by decide))
      case h_2 h => exact absurd h (isDecimal.ne_name (by decide))
      case h_3 h => exact absurd h (isDecimal.ne_name (by decide))
      case h_4 =>
        rw [Decimal.ofText?_eq_some_iff.2 isDecimal]
        rfl

/-- The reader of numbers accepts the texts of numbers, and reads the numbers that they stand
for. -/
theorem ofText?_eq_some_iff {text : String} {x : Binary f} :
    ofText? f text = some x ↔ NumberText text.toList x := by
  have hsplit : ofText? f text =
      ofUnsignedText? f (splitSign text.toList).1 (splitSign text.toList).2 := by
    unfold ofText?
    generalize text.toList = chars
    split
    case h_1 => rfl
    case h_2 => rfl
    case h_3 => simp_all [splitSign]
  rw [hsplit, ofUnsignedText?_eq_some_iff]
  constructor
  · intro h
    obtain ⟨sign, hsign, htext⟩ := exists_signText text.toList
    rw [← htext]
    exact .signed hsign h
  · intro h
    generalize text.toList = chars at h
    cases h with
    | signed isSign isUnsigned => rwa [splitSign_append isSign isUnsigned.signless]

end Binary

/-! ## Writing -/

/-- A decimal that is written without an exponent is the text of a decimal of the same value. -/
lemma exists_decimalText_writePositional (d : Decimal) :
    ∃ k : Nat, DecimalText (Style.writePositional false d.digits d.exponent)
      ⟨d.coefficient * 10 ^ k, d.exponent - k⟩ := by
  have hne : d.digits ≠ [] := Nat.toDigits_ne_nil
  have hsame : (⟨d.coefficient * 10 ^ 0, d.exponent - (0 : Nat)⟩ : Decimal) = d := by simp
  unfold Style.writePositional
  split
  case isTrue hwhole =>
    refine ⟨d.exponent.toNat, ?_⟩
    have hdigits : ∀ c ∈ d.digits ++ List.replicate d.exponent.toNat '0', c.isDigit = true :=
      List.forall_mem_append.2 ⟨d.isDigit_digits, isDigit_zeros _⟩
    have htext := DecimalText.whole hdigits (List.append_ne_nil_of_left_ne_nil hne _) .none
    rwa [show ([] : List Char) = List.replicate 0 '0' from rfl, d.ofDigits_zeros hwhole 0] at htext
  case isFalse hwhole =>
    refine ⟨0, ?_⟩
    rw [hsame]
    by_cases hpoint : d.digits.length + d.exponent ≤ 0
    · rw [if_pos hpoint]
      have hfraction : ∀ c ∈ List.replicate (-(d.digits.length + d.exponent)).toNat '0' ++ d.digits,
          c.isDigit = true := List.forall_mem_append.2 ⟨isDigit_zeros _, d.isDigit_digits⟩
      have htext := DecimalText.point (List.forall_mem_singleton.2 (by decide : '0'.isDigit = true))
        hfraction (.inl (List.cons_ne_nil _ _)) .none
      rwa [d.ofDigits_below_one hpoint, List.append_nil] at htext
    · rw [if_neg hpoint]
      obtain ⟨point, hpoint⟩ : ∃ n : Nat, (n : Int) = d.digits.length + d.exponent :=
        ⟨(d.digits.length + d.exponent).toNat, by omega⟩
      rw [← hpoint, Int.toNat_natCast]
      have hbefore : ∀ c ∈ d.digits.take point, c.isDigit = true :=
        fun c hc => d.isDigit_digits c (List.mem_of_mem_take hc)
      have hbehind : ∀ c ∈ d.digits.drop point, c.isDigit = true :=
        fun c hc => d.isDigit_digits c (List.mem_of_mem_drop hc)
      have hdrop : d.digits.drop point ≠ [] := by
        rw [ne_eq, List.drop_eq_nil_iff]
        omega
      have htext := DecimalText.point hbefore hbehind (.inr hdrop) .none
      rwa [d.ofDigits_among hpoint.symm (by omega), List.append_nil] at htext

lemma signText_minus (negative : Bool) : SignText (if negative then ['-'] else []) negative := by
  cases negative
  · exact .none
  · exact .minus

namespace Binary

variable {f : Format}

/-- A number is written as a text that stands for it. -/
theorem numberText_toText (x : Binary f) : NumberText x.toText.toList x := by
  cases x with
  | nan =>
    show NumberText ([] ++ "NaN".toList) _
    exact .signed .none (.nan (by decide))
  | infinity negative =>
    have htext : (infinity negative : Binary f).toText.toList =
        (if negative then ['-'] else []) ++ "inf".toList := by
      cases negative
      · rfl
      · show "-inf".toList = ['-'] ++ "inf".toList
        decide
    rw [htext]
    exact .signed (signText_minus negative) (.infinity (.inl (by decide)))
  | finite negative m s h =>
    have hread := toBinary_written h Style.plain.tie negative
    rw [toText, Style.writeFinite, String.toList_ofList]
    generalize (if m = 0 then ⟨0, 0⟩ else shortest f Style.plain.tie m s : Decimal) = d at hread ⊢
    obtain ⟨k, htext⟩ := exists_decimalText_writePositional d
    rw [← hread, ← Decimal.toBinary_scale f negative d.coefficient k d.exponent]
    exact .signed (signText_minus negative) (.decimal htext)

/-- A number that is written is read back. -/
theorem ofText?_toText (x : Binary f) : ofText? f x.toText = some x :=
  ofText?_eq_some_iff.2 x.numberText_toText

end Binary

/-! ## Characters -/

/-- The characters that the texts of numbers are made of. -/
def isNumberChar (c : Char) : Bool :=
  c.isAlphanum || c == '+' || c == '-' || c == '.'

lemma isNumberChar_iff {c : Char} : isNumberChar c = true ↔
    c.isAlpha = true ∨ c.isDigit = true ∨ c = '+' ∨ c = '-' ∨ c = '.' := by
  have halphanum : c.isAlphanum = true ↔ c.isAlpha = true ∨ c.isDigit = true := Bool.or_eq_true_iff
  simp only [isNumberChar, Bool.or_eq_true, beq_iff_eq, halphanum, or_assoc]

lemma isNumberChar_of_isAlpha {c : Char} (h : c.isAlpha = true) : isNumberChar c = true :=
  isNumberChar_iff.2 (.inl h)

lemma isNumberChar_of_isDigit {c : Char} (h : c.isDigit = true) : isNumberChar c = true :=
  isNumberChar_iff.2 (.inr (.inl h))

/-- Number texts are made of visible characters of ASCII. -/
lemma toNat_of_isNumberChar {c : Char} (h : isNumberChar c = true) :
    0x21 ≤ c.toNat ∧ c.toNat ≤ 0x7e := by
  obtain hletter | hdigit | rfl | rfl | rfl := isNumberChar_iff.1 h
  · have hrange : (65 ≤ c.toNat ∧ c.toNat ≤ 90) ∨ 97 ≤ c.toNat ∧ c.toNat ≤ 122 :=
      isAlpha_iff_toNat.1 hletter
    omega
  · have hrange : 48 ≤ c.toNat ∧ c.toNat ≤ 57 := Char.isDigit_iff_toNat.1 hdigit
    omega
  · decide
  · decide
  · decide

lemma SignText.isNumberChar {sign : List Char} {negative : Bool} (h : SignText sign negative) :
    ∀ c ∈ sign, isNumberChar c = true := by
  refine List.all_eq_true.1 ?_
  cases h <;> rfl

lemma ExponentText.isNumberChar {text : List Char} {n : Int} (h : ExponentText text n) :
    ∀ c ∈ text, isNumberChar c = true := by
  cases h with
  | none => exact nofun
  | marked isMark isSign areDigits =>
    refine List.forall_mem_cons.2 ⟨?_, List.forall_mem_append.2 ⟨isSign.isNumberChar, ?_⟩⟩
    · obtain rfl | rfl := isMark <;> decide
    · exact fun c hc => isNumberChar_of_isDigit (areDigits c hc)

lemma DecimalText.isNumberChar {text : List Char} {d : Decimal} (h : DecimalText text d) :
    ∀ c ∈ text, isNumberChar c = true := by
  cases h with
  | whole areDigits _ hasExponent =>
    refine List.forall_mem_append.2 ⟨?_, hasExponent.isNumberChar⟩
    exact fun c hc => isNumberChar_of_isDigit (areDigits c hc)
  | point areDigits areDigits' _ hasExponent =>
    refine List.forall_mem_append.2 ⟨?_, List.forall_mem_cons.2 ⟨by decide, ?_⟩⟩
    · exact fun c hc => isNumberChar_of_isDigit (areDigits c hc)
    · refine List.forall_mem_append.2 ⟨?_, hasExponent.isNumberChar⟩
      exact fun c hc => isNumberChar_of_isDigit (areDigits' c hc)

lemma NumberText.isNumberChar {f : Format} {text : List Char} {x : Binary f}
    (h : NumberText text x) : ∀ c ∈ text, isNumberChar c = true := by
  cases h with
  | signed isSign isUnsigned =>
    refine List.forall_mem_append.2 ⟨isSign.isNumberChar, ?_⟩
    obtain hletters | ⟨d, hdecimal⟩ := isUnsigned.isAlpha_or_decimalText
    · exact fun c hc => isNumberChar_of_isAlpha (hletters c hc)
    · exact hdecimal.isNumberChar

end SearchCriteria.Numeric
