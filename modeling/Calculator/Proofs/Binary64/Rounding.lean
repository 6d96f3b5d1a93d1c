import Calculator.Binary64.Basic
import Mathlib.Algebra.Order.Group.Nat

/-!
# Rounding quotients

The magnitude nearest a quotient depends on the quotient alone, and it is not below any magnitude
that the quotient is not below. What 53 bits and a power of two can hold is a magnitude.
-/

namespace Calculator

theorem roundHalfEven_mul_mul (n d : Nat) {k : Nat} (hk : 0 < k) :
    roundHalfEven (n * k) (d * k) = roundHalfEven n d := by
  have hrem : 2 * (n % d * k) = 2 * (n % d) * k := (Nat.mul_assoc _ _ _).symm
  simp only [roundHalfEven, Nat.mul_div_mul_right _ _ hk, Nat.mul_mod_mul_right, hrem,
    Nat.mul_lt_mul_right hk]

namespace Magnitude

theorem nearest?_mul_mul (n d : Nat) {k : Nat} (hk : 0 < k) :
    nearest? (n * k) (d * k) = nearest? n d := by
  have he : exponentFor (n * k) (d * k) = exponentFor n d := by
    rw [exponentFor, Nat.mul_div_mul_right _ _ hk, exponentFor]
  have hm : roundHalfEven (n * k) (d * k * 2 ^ exponentFor n d) =
      roundHalfEven n (d * 2 ^ exponentFor n d) := by
    rw [Nat.mul_right_comm, roundHalfEven_mul_mul _ _ hk]
  simp only [nearest?, he, hm]

theorem units_of_nearest? {n d : Nat} {x : Magnitude} (h : nearest? n d = some x) :
    x.units = roundHalfEven n (d * 2 ^ exponentFor n d) * 2 ^ exponentFor n d := by
  simp only [nearest?] at h
  split at h
  · split at h
    · cases h
      rfl
    · cases h
  · next hm =>
    split at h
    · cases h
      have hlt := div_lt_of_exponentFor n d
      have hle := roundHalfEven_le n (d * 2 ^ exponentFor n d)
      have hround : roundHalfEven n (d * 2 ^ exponentFor n d) = 2 ^ 53 := by omega
      rw [hround]
      show 2 ^ 52 * 2 ^ (exponentFor n d + 1) = 2 ^ 53 * 2 ^ exponentFor n d
      omega
    · cases h

/-- With a smaller exponent a magnitude lies below the 53 bits of a greater one. -/
theorem units_lt_of_exponent_lt {x : Magnitude} {e : Nat} (h : x.exponent < e) :
    x.units < 2 ^ 52 * 2 ^ e := by
  calc x.units < 2 ^ 53 * 2 ^ x.exponent :=
        Nat.mul_lt_mul_of_pos_right x.significand_lt (Nat.two_pow_pos _)
    _ = 2 ^ 52 * 2 ^ (x.exponent + 1) := by rw [← Nat.pow_add, ← Nat.pow_add]; congr 1; omega
    _ ≤ 2 ^ 52 * 2 ^ e := Nat.mul_le_mul_left _ (Nat.pow_le_pow_right (by decide) h)

/-- The exponent of a magnitude is at most that of a quotient it is not above. -/
theorem exponent_le_exponentFor {x : Magnitude} {n d : Nat} (hd : 0 < d) (h : x.units * d ≤ n) :
    x.exponent ≤ exponentFor n d := by
  have hle : x.units ≤ n / d := (Nat.le_div_iff_mul_le hd).mpr h
  rw [← exponentFor_units x, exponentFor, exponentFor, Nat.div_one]
  have hlog : x.units.log2 ≤ (n / d).log2 := by
    by_cases h0 : x.units = 0
    · rw [h0, Nat.log2_zero]
      exact Nat.zero_le _
    · refine (Nat.le_log2 (by omega)).mpr (Nat.le_trans (Nat.log2_self_le h0) hle)
  omega

/-- Rounding does not pass a magnitude on the way down. -/
theorem le_units_of_nearest? {x y : Magnitude} {n d : Nat} (hd : 0 < d) (h : x.units * d ≤ n)
    (hy : nearest? n d = some y) : x.units ≤ y.units := by
  have hexp := exponent_le_exponentFor hd h
  have hround := div_le_roundHalfEven n (d * 2 ^ exponentFor n d)
  rw [units_of_nearest? hy]
  refine Nat.le_trans ?_ (Nat.mul_le_mul_right _ hround)
  rcases Nat.eq_or_lt_of_le hexp with heq | hlt
  · rw [units, heq]
    refine Nat.mul_le_mul_right _ ((Nat.le_div_iff_mul_le ?_).mpr ?_)
    · exact Nat.mul_pos hd (Nat.two_pow_pos _)
    · rw [units, heq] at h
      rwa [Nat.mul_comm d, ← Nat.mul_assoc]
  · have hbig : 2 ^ 52 ≤ n / (d * 2 ^ exponentFor n d) := le_div_of_exponentFor (by omega)
    calc x.units ≤ 2 ^ 52 * 2 ^ exponentFor n d := Nat.le_of_lt (units_lt_of_exponent_lt hlt)
      _ ≤ _ := Nat.mul_le_mul_right _ hbig

/-- Up to 53 bits at a power of two of the format are a magnitude. -/
theorem exists_units {c k : Nat} (hc : c < 2 ^ 53) (hk : k ≤ 2045) :
    ∃ x : Magnitude, x.units = c * 2 ^ k := by
  by_cases h0 : c = 0
  · exact ⟨zero, by simp [h0]⟩
  have hlog : c.log2 < 53 := (Nat.log2_lt h0).mpr hc
  have hlo : 2 ^ c.log2 ≤ c := Nat.log2_self_le h0
  have hhi : c < 2 ^ (c.log2 + 1) := Nat.lt_log2_self
  -- the significand is shifted up to 53 bits, or as far as the exponent lets it
  by_cases hj : 52 - c.log2 ≤ k
  · have hlt : c * 2 ^ (52 - c.log2) < 2 ^ 53 := by
      have hmul := Nat.mul_lt_mul_of_pos_right hhi (Nat.two_pow_pos (52 - c.log2))
      rwa [← Nat.pow_add, show c.log2 + 1 + (52 - c.log2) = 53 by omega] at hmul
    have hle : 2 ^ 52 ≤ c * 2 ^ (52 - c.log2) := by
      have hmul := Nat.mul_le_mul_right (2 ^ (52 - c.log2)) hlo
      rwa [← Nat.pow_add, show c.log2 + (52 - c.log2) = 52 by omega] at hmul
    refine ⟨⟨c * 2 ^ (52 - c.log2), k - (52 - c.log2), hlt, by omega, .inl hle⟩, ?_⟩
    rw [units, Nat.mul_assoc, ← Nat.pow_add, Nat.add_sub_of_le hj]
  · have hlt : c * 2 ^ k < 2 ^ 53 := by
      have hmul := Nat.mul_lt_mul_of_pos_right hhi (Nat.two_pow_pos k)
      rw [← Nat.pow_add] at hmul
      exact Nat.lt_of_lt_of_le hmul (Nat.pow_le_pow_right (by decide) (by omega))
    exact ⟨⟨c * 2 ^ k, 0, hlt, Nat.zero_le _, .inr rfl⟩, by simp [units]⟩

end Magnitude

namespace Binary64

theorem ofRatio_of_nearest? {n d : Nat} {x : Magnitude} (s : Bool)
    (h : Magnitude.nearest? n d = some x) : ofRatio s n d = .finite s x := by
  unfold ofRatio
  rw [h]

theorem ofRatio_of_none {n d : Nat} (s : Bool) (h : Magnitude.nearest? n d = none) :
    ofRatio s n d = .infinite s := by
  unfold ofRatio
  rw [h]

end Binary64

end Calculator
