/-
# Results that may fail

Small facts about `Except`: how a result with further steps behind it succeeds and fails, and the
error of a result as an optional value.  The last form turns "the first step that fails decides"
into `Option.or`.  Two results are related if they fail alike or their values are related.
-/
import Mathlib.Tactic.Lemma

namespace SearchCriteria.Outcome

variable {ε α β : Type}

@[simp] lemma ok_bind (a : α) (f : α → Except ε β) : (Except.ok a >>= f) = f a := rfl

@[simp] lemma error_bind (e : ε) (f : α → Except ε β) :
    ((Except.error e : Except ε α) >>= f) = .error e := rfl

@[simp] lemma bind_ok (x : Except ε α) : (x >>= fun a => Except.ok a) = x := by
  cases x <;> rfl

lemma bind_eq_ok_iff {x : Except ε α} {f : α → Except ε β} {b : β} :
    (x >>= f) = .ok b ↔ ∃ a, x = .ok a ∧ f a = .ok b := by
  cases x with
  | error e => simp
  | ok a => simp

lemma exists_error_iff {x : Except ε α} : (∃ e, x = .error e) ↔ ¬∃ a, x = .ok a := by
  cases x <;> simp

lemma exists_bind_ok_iff {x : Except ε α} {f : α → β} :
    (∃ b, (x >>= fun a => Except.ok (f a)) = .ok b) ↔ ∃ a, x = .ok a := by
  cases x <;> simp

/-- Changing the value of the last step is changing the value of all steps. -/
lemma map_bind {γ : Type} (x : Except ε α) (f : α → Except ε β) (g : β → γ) :
    (x >>= f).map g = x >>= fun a => (f a).map g := by
  cases x <;> rfl

lemma map_eq_ok_iff {x : Except ε α} {f : α → β} {b : β} :
    x.map f = .ok b ↔ ∃ a, x = .ok a ∧ f a = b := by
  cases x <;> simp [Except.map]

lemma eq_ok_of_toOption {x : Except ε α} {a : α} (h : x.toOption = some a) : x = .ok a := by
  cases x with
  | error e => cases h
  | ok b => rw [Option.some.inj h]

/-- The error of a result, if it has one. -/
def error? : Except ε α → Option ε
  | .ok _ => none
  | .error e => some e

@[simp] lemma error?_ok (a : α) : error? (.ok a : Except ε α) = none := rfl

@[simp] lemma error?_error (e : ε) : error? (.error e : Except ε α) = some e := rfl

lemma error?_eq_none_iff {x : Except ε α} : error? x = none ↔ ∃ a, x = .ok a := by
  cases x with
  | error e => simp
  | ok a => simp

lemma error?_eq_some_iff {x : Except ε α} {e : ε} : error? x = some e ↔ x = .error e := by
  cases x with
  | error e' => simp
  | ok a => simp

/-- If the error of what follows does not depend on the value passed on, the error of the first
step comes first. -/
lemma error?_bind {x : Except ε α} {f : α → Except ε β} {o : Option ε}
    (h : ∀ a, error? (f a) = o) : error? (x >>= f) = (error? x).or o := by
  cases x with
  | error e => simp
  | ok a => simpa using h a

lemma error?_bind_ok (x : Except ε α) (f : α → β) :
    error? (x >>= fun a => .ok (f a)) = error? x := by
  cases x with
  | error e => rfl
  | ok a => rfl

/-! ## Related results -/

/-- Two results are related if they fail with the same error, or their values are related. -/
inductive Rel (r : α → β → Prop) : Except ε α → Except ε β → Prop where
  /-- Both have a value. -/
  | ok {a : α} {b : β} (h : r a b) : Rel r (.ok a) (.ok b)
  /-- Both fail with this error. -/
  | error (e : ε) : Rel r (.error e) (.error e)

lemma Rel.bind {α' β' : Type} {r : α → β → Prop} {s : α' → β' → Prop} {x : Except ε α}
    {y : Except ε β} {f : α → Except ε α'} {g : β → Except ε β'} (h : Rel r x y)
    (hfg : ∀ a b, r a b → Rel s (f a) (g b)) : Rel s (x >>= f) (y >>= g) := by
  cases h with
  | ok h => exact hfg _ _ h
  | error e => exact .error e

/-- The same first step is followed by related ones. -/
lemma Rel.bind_same {α' β' : Type} {s : α' → β' → Prop} {f : α → Except ε α'}
    {g : α → Except ε β'} (h : ∀ a, Rel s (f a) (g a)) (x : Except ε α) :
    Rel s (x >>= f) (x >>= g) := by
  cases x with
  | ok a => exact h a
  | error e => exact .error e

lemma Rel.refl {r : α → α → Prop} (h : ∀ a, r a a) (x : Except ε α) : Rel r x x := by
  cases x with
  | ok a => exact .ok (h a)
  | error e => exact .error e

/-- Results with the same error are related if their values are. -/
lemma Rel.of_error?_eq {r : α → β → Prop} {x : Except ε α} {y : Except ε β}
    (herror : error? x = error? y) (hok : ∀ a b, x = .ok a → y = .ok b → r a b) : Rel r x y := by
  cases x with
  | ok a =>
    obtain ⟨b, rfl⟩ := error?_eq_none_iff.1 herror.symm
    exact .ok (hok a b rfl rfl)
  | error e =>
    obtain rfl := error?_eq_some_iff.1 herror.symm
    exact .error e

lemma Rel.eq {r : α → α → Prop} (h : ∀ a b, r a b → a = b) {x y : Except ε α} (hxy : Rel r x y) :
    x = y := by
  cases hxy with
  | ok hab => rw [h _ _ hab]
  | error e => rfl

/-! ## Steps over a list -/

lemma mapM_nil_eq (f : α → Except ε β) : [].mapM f = .ok [] := rfl

lemma mapM_cons_eq_ok_iff {f : α → Except ε β} {x : α} {xs : List α} {ys : List β} :
    (x :: xs).mapM f = .ok ys ↔
      ∃ y rest, f x = .ok y ∧ xs.mapM f = .ok rest ∧ ys = y :: rest := by
  rw [List.mapM_cons]
  constructor
  · intro h
    obtain ⟨y, hy, h⟩ := bind_eq_ok_iff.1 h
    obtain ⟨rest, hrest, h⟩ := bind_eq_ok_iff.1 h
    exact ⟨y, rest, hy, hrest, (Except.ok.inj h).symm⟩
  · rintro ⟨y, rest, hy, hrest, rfl⟩
    rw [hy, hrest]
    rfl

lemma length_of_mapM {f : α → Except ε β} {xs : List α} {ys : List β}
    (h : xs.mapM f = .ok ys) : ys.length = xs.length := by
  induction xs generalizing ys with
  | nil =>
    rw [mapM_nil_eq] at h
    rw [← Except.ok.inj h]
    rfl
  | cons x xs ih =>
    obtain ⟨y, rest, -, hrest, rfl⟩ := mapM_cons_eq_ok_iff.1 h
    rw [List.length_cons, List.length_cons, ih hrest]

lemma ne_nil_of_mapM {f : α → Except ε β} {xs : List α} {ys : List β} (h : xs.mapM f = .ok ys)
    (hne : xs ≠ []) : ys ≠ [] := by
  rintro rfl
  exact hne (List.length_eq_zero_iff.1 (length_of_mapM h).symm)

/-- Where all steps succeed, their values are those of the steps that succeed. -/
lemma filterMap_of_mapM {f : α → Except ε β} {xs : List α} {ys : List β}
    (h : xs.mapM f = .ok ys) : xs.filterMap (fun x => (f x).toOption) = ys := by
  induction xs generalizing ys with
  | nil =>
    rw [mapM_nil_eq] at h
    exact Except.ok.inj h
  | cons x xs ih =>
    obtain ⟨y, rest, hy, hrest, rfl⟩ := mapM_cons_eq_ok_iff.1 h
    rw [← ih hrest, List.filterMap_cons_some (by rw [hy]; rfl)]

/-- What holds of all values holds of the value of each step. -/
lemma forall_mem_of_mapM {f : α → Except ε β} {xs : List α} {ys : List β} {P : β → Prop}
    (h : xs.mapM f = .ok ys) : (∀ y ∈ ys, P y) ↔ ∀ x ∈ xs, ∃ y, f x = .ok y ∧ P y := by
  induction xs generalizing ys with
  | nil =>
    obtain rfl := Except.ok.inj h
    exact iff_of_true nofun nofun
  | cons x xs ih =>
    obtain ⟨y, rest, hy, hrest, rfl⟩ := mapM_cons_eq_ok_iff.1 h
    rw [List.forall_mem_cons, List.forall_mem_cons, ih hrest, hy]
    simp only [Except.ok.injEq, exists_eq_left']

lemma mapM_eq_ok_map {f : α → Except ε β} {g : α → β} {xs : List α}
    (h : ∀ x ∈ xs, f x = .ok (g x)) : xs.mapM f = .ok (xs.map g) := by
  induction xs with
  | nil => rfl
  | cons x xs ih =>
    obtain ⟨hx, hxs⟩ := List.forall_mem_cons.1 h
    exact mapM_cons_eq_ok_iff.2 ⟨g x, xs.map g, hx, ih hxs, rfl⟩

lemma mapM_append_eq_ok {f : α → Except ε β} {xs xs' : List α} {ys ys' : List β}
    (h : xs.mapM f = .ok ys) (h' : xs'.mapM f = .ok ys') :
    (xs ++ xs').mapM f = .ok (ys ++ ys') := by
  rw [List.mapM_append, h, h']
  rfl

lemma map_mapM {γ : Type} (f : α → Except ε β) (g : β → γ) (xs : List α) :
    (xs.mapM f).map (List.map g) = xs.mapM fun x => (f x).map g := by
  induction xs with
  | nil => rfl
  | cons x xs ih =>
    rw [List.mapM_cons, List.mapM_cons, ← ih]
    cases f x with
    | error e => rfl
    | ok y => cases xs.mapM f <;> rfl

/-- The first step that fails decides. -/
lemma error?_mapM (f : α → Except ε β) (xs : List α) :
    error? (xs.mapM f) = xs.findSome? fun x => error? (f x) := by
  induction xs with
  | nil => rfl
  | cons x xs ih =>
    rw [List.mapM_cons, List.findSome?_cons]
    cases f x with
    | error e => rfl
    | ok y =>
      rw [ok_bind, error?_ok, ← ih]
      cases xs.mapM f <;> rfl

/-- All steps together succeed if each of them does. -/
lemma exists_mapM_eq_ok {f : α → Except ε β} {xs : List α} (h : ∀ x ∈ xs, ∃ y, f x = .ok y) :
    ∃ ys, xs.mapM f = .ok ys := by
  rw [← error?_eq_none_iff, error?_mapM, List.findSome?_eq_none_iff]
  exact fun x hx => error?_eq_none_iff.2 (h x hx)

end SearchCriteria.Outcome
