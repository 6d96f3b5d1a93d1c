import Calculator.Grammar

/-!
# The value of a tree

What value a tree has, told without errors: each number is the finite number nearest its digits,
each operator is applied to the values below it, and a quotient by either zero has no value. The
evaluation of a tree that stops at its first error finds this value whenever there is one.
-/

namespace Calculator

theorem bind_eq_ok_iff {ε α β : Type} {x : Except ε α} {f : α → Except ε β} {b : β} :
    x >>= f = .ok b ↔ ∃ a, x = .ok a ∧ f a = .ok b := by
  constructor
  · intro h
    cases x with
    | error e => cases h
    | ok a => exact ⟨a, rfl, h⟩
  · rintro ⟨a, rfl, h⟩
    exact h

namespace Grammar

mutual

def Expr.HasValue : Expr → Binary64 → Prop
  | .term t, v => t.HasValue v
  | .sum e .add t, v => ∃ x y, e.HasValue x ∧ t.HasValue y ∧ v = x + y
  | .sum e .sub t, v => ∃ x y, e.HasValue x ∧ t.HasValue y ∧ v = x - y

def Term.HasValue : Term → Binary64 → Prop
  | .factor f, v => f.HasValue v
  | .product t .mul f, v => ∃ x y, t.HasValue x ∧ f.HasValue y ∧ v = x * y
  | .product t .div f, v =>
    ∃ x y, t.HasValue x ∧ f.HasValue y ∧ y.isZero = false ∧ v = x / y

def Factor.HasValue : Factor → Binary64 → Prop
  | .number digits, v => v = .ofNat (digitsValue digits.toList) ∧ v.isFinite = true
  | .group e, v => e.HasValue v

end

theorem literalValue_eq_ok_iff {text : String} {v : Binary64} :
    literalValue text = .ok v ↔ v = .ofNat (digitsValue text.toList) ∧ v.isFinite = true := by
  simp only [literalValue]
  constructor
  · intro h
    split at h
    · next hf =>
      cases h
      exact ⟨rfl, hf⟩
    · cases h
  · rintro ⟨rfl, hf⟩
    exact if_pos hf

theorem div_eq_ok_iff {x y v : Binary64} :
    ProductOp.div.apply x y = .ok v ↔ y.isZero = false ∧ v = x / y := by
  simp only [ProductOp.apply]
  split
  · next hy => simp [hy]
  · next hy =>
    have hy' : y.isZero = false := by simpa using hy
    rw [Except.ok.injEq, eq_comm]
    exact (and_iff_right hy').symm

mutual

theorem Expr.value_eq_ok_iff (e : Expr) {v : Binary64} : e.value = .ok v ↔ e.HasValue v := by
  cases e with
  | term t => exact t.value_eq_ok_iff
  | sum e op t =>
      simp only [Expr.value, bind_eq_ok_iff]
      cases op <;>
        simp only [Expr.HasValue, e.value_eq_ok_iff, t.value_eq_ok_iff, SumOp.apply, pure,
          Except.pure, Except.ok.injEq, eq_comm, exists_and_left]

theorem Term.value_eq_ok_iff (t : Term) {v : Binary64} : t.value = .ok v ↔ t.HasValue v := by
  cases t with
  | factor f => exact f.value_eq_ok_iff
  | product t op f =>
      simp only [Term.value, bind_eq_ok_iff, t.value_eq_ok_iff, f.value_eq_ok_iff]
      cases op with
      | mul =>
          simp only [Term.HasValue, ProductOp.apply, Except.ok.injEq, eq_comm, exists_and_left]
      | div => simp only [Term.HasValue, div_eq_ok_iff, exists_and_left]

theorem Factor.value_eq_ok_iff (f : Factor) {v : Binary64} : f.value = .ok v ↔ f.HasValue v := by
  cases f with
  | number digits => exact literalValue_eq_ok_iff
  | group e => exact e.value_eq_ok_iff

end

end Grammar

end Calculator
