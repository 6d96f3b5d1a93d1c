import Calculator.Binary64.Arithmetic
import Calculator.Proofs.Binary64.Rounding
import Mathlib.Tactic.Ring

/-!
# Arithmetic on small integers

The integers of magnitude at most `2 ^ 53` are numbers of the format, so an operation on integers
whose exact result is one of them is not rounded.
-/

namespace Calculator

/-- One is a power of two of units, its exponent kept apart so that nothing computes the power. -/
theorem exists_unitsPerOne_eq : ∃ k, 1074 = k ∧ unitsPerOne = 2 ^ k := by
  obtain ⟨k, hk⟩ : ∃ k, 1074 = k := ⟨_, rfl⟩
  refine ⟨k, hk, ?_⟩
  unfold unitsPerOne
  congr 1

theorem unitsPerOne_pos : 0 < unitsPerOne := by
  obtain ⟨k, -, hk⟩ := exists_unitsPerOne_eq
  rw [hk]
  exact Nat.two_pow_pos k

/-- The magnitude up to which all integers are numbers of the format. -/
def exactLimit : Nat := 2 ^ 53

theorem Magnitude.exists_units_eq_mul {n : Nat} (h : n ≤ exactLimit) :
    ∃ x : Magnitude, x.units = n * unitsPerOne := by
  obtain ⟨k, hk, hone⟩ := exists_unitsPerOne_eq
  rw [hone]
  rcases Nat.eq_or_lt_of_le h with rfl | hlt
  · have hshift : exactLimit * 2 ^ k = 2 ^ 52 * 2 ^ (k + 1) := by
      rw [exactLimit, ← Nat.pow_add, ← Nat.pow_add, Nat.add_comm k 1, ← Nat.add_assoc]
    rw [hshift]
    exact exists_units (by decide) (by omega)
  · exact exists_units hlt (by omega)

/-! ## Signs -/

def signFactor (negative : Bool) : Int := if negative then -1 else 1

@[simp] theorem signFactor_false : signFactor false = 1 := rfl

@[simp] theorem signFactor_true : signFactor true = -1 := rfl

theorem signFactor_not (s : Bool) : signFactor (!s) = -signFactor s := by cases s <;> rfl

theorem signFactor_xor (s t : Bool) : signFactor (s ^^ t) = signFactor s * signFactor t := by
  cases s <;> cases t <;> rfl

theorem signFactor_mul_self (s : Bool) : signFactor s * signFactor s = 1 := by cases s <;> rfl

theorem natAbs_signFactor_mul (s : Bool) (n : Nat) : (signFactor s * n).natAbs = n := by
  have hone : (signFactor s).natAbs = 1 := by cases s <;> rfl
  rw [Int.natAbs_mul, hone, Int.natAbs_natCast, Nat.one_mul]

theorem Magnitude.signed_eq (s : Bool) (x : Magnitude) : x.signed s = signFactor s * x.units := by
  cases s <;> simp [signed, signFactor]

theorem Magnitude.units_of_signed_eq {s : Bool} {x : Magnitude} {z : Int}
    (h : x.signed s = z * unitsPerOne) : x.units = z.natAbs * unitsPerOne := by
  have habs := congrArg Int.natAbs h
  rwa [signed_eq, natAbs_signFactor_mul, Int.natAbs_mul, Int.natAbs_natCast] at habs

theorem Magnitude.units_eq (s : Bool) (x : Magnitude) :
    (x.units : Int) = signFactor s * x.signed s := by
  rw [signed_eq, ← Int.mul_assoc, signFactor_mul_self, Int.one_mul]

namespace Binary64

/-- The number is this integer. Both zeros are `0`. -/
def Denotes (x : Binary64) (z : Int) : Prop :=
  ∃ s m, x = .finite s m ∧ m.signed s = z * unitsPerOne

section Finite

variable (s t : Bool) (m n : Magnitude)

theorem finite_mul : Binary64.finite s m * .finite t n =
    ofRatio (s ^^ t) (m.units * n.units) unitsPerOne := by
  show mul _ _ = _
  rw [mul]

theorem finite_div {n : Magnitude} (hn : n.significand ≠ 0) : Binary64.finite s m / .finite t n =
    ofRatio (s ^^ t) (m.units * unitsPerOne) n.units := by
  show div _ _ = _
  rw [div, if_neg hn]

end Finite

variable {x y : Binary64} {a b z : Int}

theorem isZero_of_denotes (h : x.Denotes z) : x.isZero = true ↔ z = 0 := by
  obtain ⟨s, m, rfl, hm⟩ := h
  have hunits := m.units_eq s
  rw [hm] at hunits
  rw [isZero, beq_iff_eq, ← Magnitude.eq_zero_iff]
  constructor
  · rintro rfl
    rw [Magnitude.signed_eq, Magnitude.units_zero, Nat.cast_zero, Int.mul_zero] at hm
    have hpos := unitsPerOne_pos
    exact (Int.mul_eq_zero.mp hm.symm).resolve_right (by omega)
  · rintro rfl
    apply Magnitude.units_injective
    rw [Int.zero_mul, Int.mul_zero] at hunits
    rw [Magnitude.units_zero]
    exact_mod_cast hunits

/-- A quotient of units that is a small integer is not rounded. -/
theorem exists_nearest?_eq {n k d : Nat} (hd : 0 < d) (hk : k ≤ exactLimit)
    (hn : n = k * unitsPerOne * d) :
    ∃ m, Magnitude.nearest? n d = some m ∧ m.units = k * unitsPerOne := by
  obtain ⟨m, hm⟩ := Magnitude.exists_units_eq_mul hk
  refine ⟨m, ?_, hm⟩
  have hscale := Magnitude.nearest?_mul_mul m.units 1 hd
  rwa [Nat.one_mul, Magnitude.nearest?_units, hm, ← hn] at hscale

theorem denotes_ofRatio {s : Bool} {n d : Nat} (hd : 0 < d) (hz : z.natAbs ≤ exactLimit)
    (h : signFactor s * n = z * unitsPerOne * d) : (ofRatio s n d).Denotes z := by
  have hn : n = z.natAbs * unitsPerOne * d := by
    have habs := congrArg Int.natAbs h
    rwa [natAbs_signFactor_mul, Int.natAbs_mul, Int.natAbs_mul, Int.natAbs_natCast,
      Int.natAbs_natCast] at habs
  obtain ⟨m, hnearest, hm⟩ := exists_nearest?_eq hd hz hn
  have hd' : (d : Int) ≠ 0 := by omega
  have hsigned : m.signed s = z * unitsPerOne := by
    refine Int.eq_of_mul_eq_mul_right hd' ?_
    rw [← h, Magnitude.signed_eq, hm, hn, Int.mul_assoc, Nat.cast_mul _ d]
  exact ⟨s, m, ofRatio_of_nearest? s hnearest, hsigned⟩

theorem denotes_ofNat {n : Nat} (h : n ≤ exactLimit) : (ofNat n).Denotes n := by
  refine denotes_ofRatio Nat.one_pos h ?_
  rw [signFactor_false, Int.one_mul, Nat.cast_one, Int.mul_one, Nat.cast_mul]

theorem denotes_ofUnits (hz : z.natAbs ≤ exactLimit) (s : Bool) :
    (ofUnits (z * unitsPerOne) s).Denotes z := by
  rw [ofUnits]
  split
  · next h0 =>
    refine ⟨s, .zero, rfl, ?_⟩
    rw [h0, Magnitude.signed_eq, Magnitude.units_zero, Nat.cast_zero, Int.mul_zero]
  · refine denotes_ofRatio Nat.one_pos hz ?_
    generalize z * (unitsPerOne : Int) = w
    rw [Nat.cast_one, Int.mul_one]
    by_cases hw : w < 0
    · rw [signFactor, if_pos (decide_eq_true hw)]
      omega
    · rw [signFactor, if_neg (by simpa using hw)]
      omega

theorem denotes_neg (hx : x.Denotes a) : x.neg.Denotes (-a) := by
  obtain ⟨s, m, rfl, h⟩ := hx
  refine ⟨!s, m, rfl, ?_⟩
  rw [Int.neg_mul, ← h]
  cases s <;> simp [Magnitude.signed]

theorem denotes_add (hx : x.Denotes a) (hy : y.Denotes b) (h : (a + b).natAbs ≤ exactLimit) :
    (x + y).Denotes (a + b) := by
  obtain ⟨s, m, rfl, hm⟩ := hx
  obtain ⟨t, n, rfl, hn⟩ := hy
  show (ofUnits (m.signed s + n.signed t) (s && t)).Denotes (a + b)
  rw [hm, hn, ← Int.add_mul]
  exact denotes_ofUnits h _

theorem denotes_sub (hx : x.Denotes a) (hy : y.Denotes b) (h : (a - b).natAbs ≤ exactLimit) :
    (x - y).Denotes (a - b) :=
  denotes_add hx (denotes_neg hy) h

theorem denotes_mul (hx : x.Denotes a) (hy : y.Denotes b) (h : (a * b).natAbs ≤ exactLimit) :
    (x * y).Denotes (a * b) := by
  obtain ⟨s, m, rfl, hm⟩ := hx
  obtain ⟨t, n, rfl, hn⟩ := hy
  rw [finite_mul]
  refine denotes_ofRatio unitsPerOne_pos h ?_
  calc signFactor (s ^^ t) * (m.units * n.units : Nat)
      = m.signed s * n.signed t := by
        rw [signFactor_xor, Magnitude.signed_eq, Magnitude.signed_eq]
        push_cast
        ring
    _ = a * b * unitsPerOne * unitsPerOne := by
        rw [hm, hn]
        ring

/-- A quotient that is an integer is exact. -/
theorem denotes_div (hx : x.Denotes (z * b)) (hy : y.Denotes b) (hb : b ≠ 0)
    (h : z.natAbs ≤ exactLimit) : (x / y).Denotes z := by
  have hzero : y.isZero = false := by
    rwa [← Bool.not_eq_true, isZero_of_denotes hy]
  obtain ⟨s, m, rfl, hm⟩ := hx
  obtain ⟨t, n, rfl, hn⟩ := hy
  have hn0 : n.significand ≠ 0 := by simpa [isZero] using hzero
  have hpos : 0 < n.units := Nat.mul_pos (Nat.pos_of_ne_zero hn0) (Nat.two_pow_pos _)
  rw [finite_div s t m hn0]
  refine denotes_ofRatio hpos h ?_
  calc signFactor (s ^^ t) * (m.units * unitsPerOne : Nat)
      = signFactor t * m.signed s * unitsPerOne := by
        rw [signFactor_xor, Magnitude.signed_eq]
        push_cast
        ring
    _ = z * unitsPerOne * (signFactor t * n.signed t) := by
        rw [hm, hn]
        ring
    _ = z * unitsPerOne * n.units := by rw [← Magnitude.units_eq]

end Binary64

end Calculator
