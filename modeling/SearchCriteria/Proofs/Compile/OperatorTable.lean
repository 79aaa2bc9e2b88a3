/-
# What values operators take

Each operator wants a value of a certain shape, and the table is short: most operators compare with
a scalar, a range has two bounds, a list of values has items, and only the operators that ask
whether a field is there do with less.  The table is stated over the shapes of values alone; it
mentions neither the texts of scalars nor the order of the checks.

Main statement: there is a clause for an entry exactly if its value has the shape that its operator
wants.  What is refused where criteria are built has no clause either, and it is complained about in
the same terms; a range that is not refused there has a clause unless both of its ends are open.
-/
import SearchCriteria.Criteria.Builder
import SearchCriteria.Proofs.Compile.LiteralTexts
import SearchCriteria.Proofs.Compile.Refusal

namespace SearchCriteria

open Outcome

/-! ## Shapes of values -/

/-- The scalars: truth values, numbers, moments and texts. -/
inductive Value.Scalar : Value → Prop where
  | bool (b : Bool) : Scalar (.bool b)
  | integer (n : Int64) : Scalar (.integer n)
  /-- A floating-point number, be it a number or not. -/
  | float (x : Numeric.Binary64) : Scalar (.float x)
  /-- A text, which may be empty. -/
  | text (s : String) : Scalar (.text s)
  | dateTime (t : Time.DateTime) : Scalar (.dateTime t)

/-- What an operator wants its value to be. -/
inductive ValueShape where
  | scalar
  /-- A list of two bounds. -/
  | range
  /-- A list of scalars. -/
  | values
  /-- Nothing, or a truth value. -/
  | flag
  /-- Whatever it is, the value makes no difference. -/
  | anything
  /-- No value is taken. -/
  | nothing

/-- The table of operators. -/
def Operator.valueShape : Operator → ValueShape
  | equals => .scalar
  | contains => .scalar
  | startsWith => .scalar
  | endsWith => .scalar
  | expression => .scalar
  | fuzzy => .scalar
  | matchesAny => .scalar
  | matchesAll => .scalar
  | regexp => .scalar
  | less => .scalar
  | lessEqual => .scalar
  | greater => .scalar
  | greaterEqual => .scalar
  | between => .range
  | oneOf => .values
  | noneOf => .values
  | present => .flag
  | empty => .anything
  | notEmpty => .anything
  | within => .nothing
  | boundingBox => .nothing

/-- The bounds of ranges: scalars, and null for an open end. -/
def Value.EndsRange (v : Value) : Prop :=
  v = .null ∨ v.Scalar

/-- The values of each shape. -/
inductive ValueShape.Admits : ValueShape → Option Value → Prop where
  | scalar {v : Value} (hv : v.Scalar) : Admits .scalar (some v)
  /-- Two bounds, one of which is there. -/
  | range {lower upper : Value} (hlower : lower.EndsRange) (hupper : upper.EndsRange)
      (hbounded : ¬(lower = .null ∧ upper = .null)) : Admits .range (some (.list [lower, upper]))
  /-- Scalars, and at least one. -/
  | values {vs : List Value} (hne : vs ≠ []) (hvs : ∀ v ∈ vs, v.Scalar) :
      Admits .values (some (.list vs))
  | noFlag : Admits .flag none
  | flag (b : Bool) : Admits .flag (some (.bool b))
  | anything (v : Option Value) : Admits .anything v

lemma Value.isScalar_iff {v : Value} : v.isScalar = true ↔ v.Scalar := by
  constructor
  · intro h
    cases v with
    | bool b => exact .bool b
    | integer n => exact .integer n
    | float x => exact .float x
    | dateTime t => exact .dateTime t
    | text s => exact .text s
    | null => cases h
    | point p => cases h
    | distance d => cases h
    | list vs => cases h
  · rintro (_ | _ | _ | _ | _) <;> rfl

lemma Value.exists_scalarText?_iff {v : Value} : (∃ s, v.scalarText? = some s) ↔ v.Scalar := by
  rw [← isScalar_iff, isScalar, Option.isSome_iff_exists]

/-- What is left when lists, points and distances are excluded is null and the scalars: the check of
bounds where criteria are built has the same bounds as the table. -/
lemma Criteria.isBound_iff {v : Value} : isBound v = true ↔ v.EndsRange := by
  rw [Value.EndsRange, ← Value.isScalar_iff]
  cases v <;> simp [isBound, Value.isScalar, Value.scalarText?]

lemma Value.isNull_or_isScalar_iff {v : Value} :
    (v.isNull || v.isScalar) = true ↔ v.EndsRange := by
  rw [Bool.or_eq_true, EndsRange, isScalar_iff]
  cases v <;> simp [isNull]

lemma Value.isNull_iff {v : Value} : v.isNull = true ↔ v = .null := by
  cases v <;> simp [isNull]

lemma Value.exists_mapM_scalarText?_iff {vs : List Value} :
    (∃ texts, vs.mapM scalarText? = some texts) ↔ ∀ v ∈ vs, v.Scalar := by
  constructor
  · rintro ⟨texts, h⟩ v hv
    exact isScalar_iff.1 (isScalar_of_mapM h v hv)
  · intro h
    induction vs with
    | nil => exact ⟨[], rfl⟩
    | cons v vs ih =>
      obtain ⟨hv, hvs⟩ := List.forall_mem_cons.1 h
      obtain ⟨s, hs⟩ := exists_scalarText?_iff.2 hv
      obtain ⟨texts, htexts⟩ := ih hvs
      exact ⟨s :: texts, mapM_scalarText?_cons.2 ⟨s, texts, hs, htexts, rfl⟩⟩

/-! ## Clauses, shape by shape -/

namespace ValueShape

lemma admits_scalar_iff {value : Option Value} :
    scalar.Admits value ↔ ∃ v, value = some v ∧ v.Scalar := by
  constructor
  · rintro ⟨hv⟩
    exact ⟨_, rfl, hv⟩
  · rintro ⟨v, rfl, hv⟩
    exact .scalar hv

lemma not_admits_nothing (value : Option Value) : ¬nothing.Admits value := nofun

end ValueShape

namespace Compile

variable {field : Field} {entry : Entry}

lemma exists_textValue_iff :
    (∃ text, entry.textValue field = .ok text) ↔ ValueShape.scalar.Admits entry.value := by
  simp only [textValue_eq_ok_iff, Entry.text?, Option.bind_eq_some_iff,
    ValueShape.admits_scalar_iff, ← Value.exists_scalarText?_iff, ← exists_and_left]
  exact exists_comm

lemma exists_scalarValue_iff :
    (∃ v, entry.scalarValue field = .ok v) ↔ ValueShape.scalar.Admits entry.value := by
  rw [ValueShape.admits_scalar_iff]
  constructor
  · rintro ⟨v, h⟩
    obtain ⟨hvalue, hscalar⟩ := Entry.scalarValue_eq_ok h
    exact ⟨v, hvalue, Value.isScalar_iff.1 hscalar⟩
  · rintro ⟨v, hvalue, hscalar⟩
    refine ⟨v, bind_eq_ok_iff.2 ⟨v, Entry.requiredValue_eq_ok_iff.2 hvalue, ?_⟩⟩
    rw [if_pos (Value.isScalar_iff.2 hscalar)]

lemma exists_escapedLeaf_iff {wrap : String → Query} :
    (∃ q, escapedLeaf field entry wrap = .ok q) ↔ ValueShape.scalar.Admits entry.value := by
  rw [← exists_textValue_iff, escapedLeaf, exists_bind_ok_iff]

lemma exists_textLeaf_iff {wrap : String → Query} :
    (∃ q, textLeaf field entry wrap = .ok q) ↔ ValueShape.scalar.Admits entry.value := by
  rw [← exists_textValue_iff, textLeaf, exists_bind_ok_iff]

lemma exists_boundLeaf_iff {set : RangeLeaf → Value → RangeLeaf} :
    (∃ q, boundLeaf field entry set = .ok q) ↔ ValueShape.scalar.Admits entry.value := by
  rw [← exists_scalarValue_iff, boundLeaf, exists_bind_ok_iff]

lemma exists_rangeLeaf_iff :
    (∃ q, rangeLeaf field entry = .ok q) ↔ ValueShape.range.Admits entry.value := by
  constructor
  · rintro ⟨q, h⟩
    obtain ⟨lower, upper, hvalue, hlower, hupper, hboth, -⟩ := rangeLeaf_eq_ok h
    rw [hvalue]
    refine .range (Value.isNull_or_isScalar_iff.1 hlower) (Value.isNull_or_isScalar_iff.1 hupper) ?_
    rintro ⟨rfl, rfl⟩
    exact Bool.noConfusion hboth
  · intro h
    obtain ⟨op, value⟩ := entry
    cases h with
    | @range lower upper hlower hupper hbounded =>
      have hboth : ¬(lower.isNull && upper.isNull) = true := by
        rwa [Bool.and_eq_true, Value.isNull_iff, Value.isNull_iff]
      rw [← Value.isNull_or_isScalar_iff] at hlower hupper
      simp only [rangeLeaf, Entry.requiredValue, ok_bind, hlower, hupper, hboth]
      exact ⟨_, rfl⟩

lemma exists_valuesLeaf_iff {negated : Bool} :
    (∃ q, valuesLeaf field entry negated = .ok q) ↔ ValueShape.values.Admits entry.value := by
  constructor
  · rintro ⟨q, h⟩
    obtain ⟨vs, texts, hvalue, hne, htexts, -⟩ := valuesLeaf_eq_ok h
    rw [hvalue]
    exact .values hne (Value.exists_mapM_scalarText?_iff.1 ⟨texts, htexts⟩)
  · intro h
    obtain ⟨op, value⟩ := entry
    cases h with
    | @values vs hne hvs =>
      obtain ⟨texts, htexts⟩ := Value.exists_mapM_scalarText?_iff.2 hvs
      obtain ⟨v, vs, rfl⟩ := List.exists_cons_of_ne_nil hne
      have hitems : Entry.itemTexts ⟨op, some (.list (v :: vs))⟩ field (v :: vs) = .ok texts :=
        Entry.itemTexts_eq_ok_iff.2 htexts
      simp only [valuesLeaf, Entry.requiredValue, ok_bind, hitems]
      cases field.isKeyword <;> exact ⟨_, rfl⟩

lemma exists_presentLeaf_iff :
    (∃ q, presentLeaf field entry = .ok q) ↔ ValueShape.flag.Admits entry.value := by
  obtain ⟨op, value⟩ := entry
  constructor
  · rintro ⟨q, h⟩
    unfold presentLeaf at h
    split at h
    case h_1 heq => exact heq ▸ .noFlag
    case h_2 heq => exact heq ▸ .flag true
    case h_3 heq => exact heq ▸ .flag false
    case h_4 => exact absurd h (Entry.refuse_ne_ok _ _)
  · rintro (_ | _ | _ | _ | b | _)
    · exact ⟨_, rfl⟩
    · cases b <;> exact ⟨_, rfl⟩

/-- There is a clause for an entry exactly if its value has the shape that the table says. -/
lemma exists_queryLeaf_iff_admits (field : Field) (entry : Entry) :
    (∃ q, queryLeaf field entry = .ok q) ↔ entry.operator.valueShape.Admits entry.value := by
  unfold queryLeaf
  cases entry.operator with
  | equals | contains | startsWith | endsWith => exact exists_escapedLeaf_iff
  | expression | fuzzy | matchesAny | matchesAll | regexp => exact exists_textLeaf_iff
  | less | lessEqual | greater | greaterEqual => exact exists_boundLeaf_iff
  | between => exact exists_rangeLeaf_iff
  | oneOf | noneOf => exact exists_valuesLeaf_iff
  | present => exact exists_presentLeaf_iff
  | empty | notEmpty => exact iff_of_true ⟨_, rfl⟩ (.anything _)
  | within | boundingBox => exact iff_of_false nofun (ValueShape.not_admits_nothing _)

/-! ## Checks where criteria are built -/

/-- A refused value has no clause: the refusal names the field and the operator, and so does the
error of the clause. -/
def RefusesWithTable (field : Field) (operator : Operator) (v : Value)
    (built : Except CriteriaError Criteria) : Prop :=
  ∀ e, built = .error e →
    (∃ complaint, e = .invalidEntry field.name operator complaint) ∧
      ∃ complaint, queryLeaf field (.of operator v) =
        .error (.invalidEntry field.name operator complaint)

/-- Where the table does not admit a value, the clause is refused in terms of the field and the
operator. -/
lemma queryLeaf_eq_invalidEntry {operator : Operator} (hop : operator.isFilter = false) {v : Value}
    (h : ¬operator.valueShape.Admits (some v)) :
    ∃ complaint, queryLeaf field (.of operator v) =
      .error (.invalidEntry field.name operator complaint) := by
  have hcomplains : ComplainsOnly field (.of operator v) (queryLeaf field (.of operator v)) :=
    complainsOnly_queryLeaf hop
  cases hleaf : queryLeaf field (.of operator v) with
  | ok q => exact absurd ((exists_queryLeaf_iff_admits field _).1 ⟨q, hleaf⟩) h
  | error e =>
    obtain ⟨complaint, rfl⟩ := hcomplains e hleaf
    exact ⟨complaint, rfl⟩

end Compile

namespace Criteria

open Compile

variable {c : Criteria} {field : Field} {v : Value}

/-- A range is accepted where criteria are built if it has two bounds; they may both be null. -/
lemma tryBetween_cases (c : Criteria) (v : Value) :
    (∃ lower upper, v = .list [lower, upper] ∧ lower.EndsRange ∧ upper.EndsRange ∧
      c.tryBetween v = .ok (c.compare .between v)) ∨
    (∃ complaint, c.tryBetween v = .error (.invalidEntry c.currentFieldName .between complaint)) ∧
      ¬ValueShape.range.Admits (some v) := by
  unfold tryBetween
  split
  case h_1 lower upper =>
    split
    case isTrue h =>
      rw [Bool.and_eq_true, isBound_iff, isBound_iff] at h
      exact .inl ⟨lower, upper, rfl, h.1, h.2, rfl⟩
    case isFalse h =>
      rw [Bool.and_eq_true, isBound_iff, isBound_iff] at h
      refine .inr ⟨⟨_, rfl⟩, fun hadmits => ?_⟩
      cases hadmits with
      | range hlower hupper => exact h ⟨hlower, hupper⟩
  case h_2 hpair =>
    refine .inr ⟨⟨_, rfl⟩, fun hadmits => ?_⟩
    cases hadmits with
    | @range lower upper => exact hpair lower upper rfl

lemma refusesWithTable_tryBetween (hfield : c.currentFieldName = field.name) :
    RefusesWithTable field .between v (c.tryBetween v) := by
  intro e he
  obtain ⟨_, _, -, -, -, hok⟩ | ⟨⟨complaint, herror⟩, hadmits⟩ := c.tryBetween_cases v
  · rw [hok] at he
    cases he
  · rw [herror, hfield] at he
    exact ⟨⟨complaint, (Except.error.inj he).symm⟩, queryLeaf_eq_invalidEntry rfl hadmits⟩

/-- Only lists are accepted where criteria are built, and only they may have clauses. -/
lemma refusesWithTable_tryValues (hfield : c.currentFieldName = field.name) {operator : Operator}
    (hop : operator.isFilter = false) (hshape : operator.valueShape = .values) :
    RefusesWithTable field operator v (c.tryValues operator v) := by
  intro e he
  unfold tryValues at he
  split at he
  case h_1 => cases he
  case h_2 hlist =>
    rw [hfield] at he
    refine ⟨⟨_, (Except.error.inj he).symm⟩, queryLeaf_eq_invalidEntry hop fun hadmits => ?_⟩
    rw [hshape] at hadmits
    cases hadmits with
    | @values vs => exact hlist vs rfl

/-- A range that is accepted where criteria are built has no clause only if both ends are open. -/
lemma queryLeaf_between_of_tryBetween {d : Criteria} (h : c.tryBetween v = .ok d) :
    (∃ e, queryLeaf field (.of .between v) = .error e) ↔ v = .list [.null, .null] := by
  obtain ⟨lower, upper, rfl, hlower, hupper, -⟩ | ⟨⟨_, herror⟩, -⟩ := c.tryBetween_cases v
  · rw [exists_error_iff, exists_queryLeaf_iff_admits]
    constructor
    · intro hadmits
      obtain ⟨rfl, rfl⟩ : lower = .null ∧ upper = .null :=
        Classical.not_not.1 fun hbounded => hadmits (.range hlower hupper hbounded)
      rfl
    · rintro ⟨⟩ hadmits
      cases hadmits with
      | range _ _ hbounded => exact hbounded ⟨rfl, rfl⟩
  · rw [herror] at h
    cases h

/-- There is a clause for an entry exactly if its value has the shape that the operator wants, as
the table of operators says.  Where the last node of criteria has a field, what is refused while the
criteria are built has no clause either, with complaints about the same field and operator; and of
the ranges that are accepted there, all have a clause but the one that is open at both ends. -/
theorem queryLeaf_operatorTable :
    (∀ (field : Field) (entry : Entry),
      (∃ q, queryLeaf field entry = .ok q) ↔ entry.operator.valueShape.Admits entry.value) ∧
    ∀ (c : Criteria) (last : Node) (field : Field), c.chain.getLast? = some last →
      last.field = some field → ∀ v : Value,
        RefusesWithTable field .between v (c.tryBetween v) ∧
        RefusesWithTable field .oneOf v (c.tryOneOf v) ∧
        RefusesWithTable field .noneOf v (c.tryNoneOf v) ∧
        ∀ d, c.tryBetween v = .ok d →
          ((∃ e, queryLeaf field (.of .between v) = .error e) ↔ v = .list [.null, .null]) := by
  refine ⟨exists_queryLeaf_iff_admits, fun c last field hlast hfield v => ?_⟩
  have hname : c.currentFieldName = field.name := by
    simp only [currentFieldName, hlast, Node.fieldName, hfield]
  exact ⟨refusesWithTable_tryBetween hname, refusesWithTable_tryValues hname rfl rfl,
    refusesWithTable_tryValues hname rfl rfl, fun d => queryLeaf_between_of_tryBetween⟩

/-- A list as a bound is refused early and late, not-a-number as a bound is not refused at all, and
a range that is open at both ends is refused late only. -/
theorem queryLeaf_oddRanges :
    let age : Field := .named "age"
    let listed : Value := .list [.null, .list []]
    (on age).chain.getLast? = some (.bare (some age) .and) ∧
      RefusesWithTable age .between listed ((on age).tryBetween listed) ∧
      error? ((on age).tryBetween listed) =
        some (.invalidEntry "age" .between (.unexpected .range "a list of 2 values")) ∧
      (∃ q, queryLeaf age (.of .between (.list [.float .nan, .null])) = .ok q) ∧
      ((on age).tryBetween (.list [.null, .null])).toOption.isSome ∧
      ∃ e, queryLeaf age (.of .between (.list [.null, .null])) = .error e := by
  intro age listed
  obtain ⟨htable, hbuilt⟩ := queryLeaf_operatorTable
  have hlisted := hbuilt (on age) (.bare (some age) .and) age rfl rfl listed
  have hopen := hbuilt (on age) (.bare (some age) .and) age rfl rfl (.list [.null, .null])
  refine ⟨rfl, hlisted.1, rfl, ?_, rfl, (hopen.2.2.2 _ rfl).2 rfl⟩
  refine (htable age _).2 (.range (.inr (.float _)) (.inl rfl) ?_)
  rintro ⟨h, -⟩
  cases h

end Criteria

end SearchCriteria
