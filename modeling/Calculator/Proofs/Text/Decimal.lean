import Calculator.Binary64.Basic
import Mathlib.Algebra.Field.Rat
import Mathlib.Data.List.Basic

/-!
# Decimals in positional form

Digits, with or without a point and more digits behind it, and a minus sign in front or none. No
text denotes two numbers.
-/

namespace Calculator

/-- A run of digits. -/
structure IsDigits (ds : List Char) : Prop where
  ne_nil : ds ≠ []
  isDigit : ∀ c ∈ ds, c.isDigit = true

/-- The natural number that digits denote. -/
def numberOf (ds : List Char) : ℕ := Nat.ofDigitChars 10 ds 0

theorem numberOf_toDigits (n : ℕ) : numberOf (Nat.toDigits 10 n) = n :=
  Nat.ofDigitChars_ten_toDigits

theorem numberOf_append (ds es : List Char) :
    numberOf (ds ++ es) = 10 ^ es.length * numberOf ds + numberOf es := by
  rw [numberOf, Nat.ofDigitChars_append, Nat.ofDigitChars_eq_ofDigitChars_zero]
  rfl

theorem numberOf_zeros (k : ℕ) : numberOf (List.replicate k '0') = 0 := by
  rw [numberOf, Nat.ofDigitChars_replicate_zero, Nat.mul_zero]

theorem numberOf_zeros_append (k : ℕ) (ds : List Char) :
    numberOf (List.replicate k '0' ++ ds) = numberOf ds := by
  rw [numberOf_append, numberOf_zeros, Nat.mul_zero, Nat.zero_add]

namespace IsDigits

variable {ds es : List Char}

theorem toDigits (n : ℕ) : IsDigits (Nat.toDigits 10 n) where
  ne_nil := Nat.toDigits_ne_nil
  isDigit _ hc := Nat.isDigit_of_mem_toDigits (by decide) (by decide) hc

theorem zeros_append (h : IsDigits ds) (k : ℕ) : IsDigits (List.replicate k '0' ++ ds) where
  ne_nil := List.append_ne_nil_of_right_ne_nil _ h.ne_nil
  isDigit c hc := by
    rcases List.mem_append.mp hc with hc | hc
    · rw [List.eq_of_mem_replicate hc]
      rfl
    · exact h.isDigit c hc

theorem of_subset (h : IsDigits ds) (hes : es ≠ []) (hsub : es ⊆ ds) : IsDigits es where
  ne_nil := hes
  isDigit c hc := h.isDigit c (hsub hc)

theorem point_not_mem (h : IsDigits ds) : '.' ∉ ds := fun hmem =>
  Bool.false_ne_true (h.isDigit _ hmem)

end IsDigits

/-- The characters denote a number as digits, or as digits with a point between them. -/
inductive UnsignedDecimal : List Char → ℚ → Prop where
  | whole {ds : List Char} (h : IsDigits ds) : UnsignedDecimal ds (numberOf ds)
  | fraction {ds fs : List Char} (h : IsDigits ds) (hf : IsDigits fs) :
      UnsignedDecimal (ds ++ '.' :: fs) (numberOf ds + numberOf fs / 10 ^ fs.length)

/-- The characters denote a number in positional form, without an exponent. -/
inductive PlainDecimal : List Char → ℚ → Prop where
  | unsigned {cs : List Char} {q : ℚ} (h : UnsignedDecimal cs q) : PlainDecimal cs q
  | negative {cs : List Char} {q : ℚ} (h : UnsignedDecimal cs q) : PlainDecimal ('-' :: cs) (-q)

variable {cs : List Char} {q r : ℚ}

namespace UnsignedDecimal

theorem mem (h : UnsignedDecimal cs q) {c : Char} (hc : c ∈ cs) : c.isDigit = true ∨ c = '.' := by
  cases h with
  | whole h => exact .inl (h.isDigit c hc)
  | fraction h hf =>
      rcases List.mem_append.mp hc with hc | hc
      · exact .inl (h.isDigit c hc)
      · rcases List.mem_cons.mp hc with rfl | hc
        · exact .inr rfl
        · exact .inl (hf.isDigit c hc)

theorem minus_not_mem (h : UnsignedDecimal cs q) : '-' ∉ cs := by
  intro hc
  rcases h.mem hc with hc | hc <;> cases hc

theorem unique (hq : UnsignedDecimal cs q) (hr : UnsignedDecimal cs r) : q = r := by
  generalize hcs : cs = ds at hr
  cases hq with
  | whole h =>
      cases hr with
      | whole => rw [hcs]
      | fraction =>
          rw [hcs] at h
          exact absurd (List.mem_append_right _ List.mem_cons_self) h.point_not_mem
  | fraction h hf =>
      cases hr with
      | whole h' =>
          rw [← hcs] at h'
          exact absurd (List.mem_append_right _ List.mem_cons_self) h'.point_not_mem
      | fraction h' hf' =>
          obtain ⟨rfl, -, rfl⟩ :=
            (List.append_cons_inj_of_notMem h.point_not_mem hf.point_not_mem).mp hcs
          rfl

end UnsignedDecimal

namespace PlainDecimal

theorem mem (h : PlainDecimal cs q) {c : Char} (hc : c ∈ cs) :
    c.isDigit = true ∨ c = '.' ∨ c = '-' := by
  cases h with
  | unsigned h => exact (h.mem hc).imp_right .inl
  | negative h =>
      rcases List.mem_cons.mp hc with rfl | hc
      · exact .inr (.inr rfl)
      · exact (h.mem hc).imp_right .inl

/-- A text denotes one number at most. -/
theorem unique (hq : PlainDecimal cs q) (hr : PlainDecimal cs r) : q = r := by
  cases hq with
  | unsigned h =>
      cases hr with
      | unsigned h' => exact h.unique h'
      | negative => exact absurd List.mem_cons_self h.minus_not_mem
  | negative h =>
      cases hr with
      | unsigned h' => exact absurd List.mem_cons_self h'.minus_not_mem
      | negative h' => rw [h.unique h']

end PlainDecimal

end Calculator
