import Calculator.Proofs.Binary64.Nearest

/-!
# Rounding and overflow

On finite operands an operation rounds its exact result: to the nearest number if there is one, and
to an infinity from the overflow limit on. There is no other way to an infinity, and none to a
`nan`, unless a number is divided by zero.
-/

namespace Calculator

open Magnitude (quotient)

/-- What `q` is rounded to: the nearest number, or the infinity with its sign where there is
none. -/
inductive Rounded (q : ℚ) : Binary64 → Prop where
  | finite {s : Bool} {m : Magnitude} (h : RoundsTo q s m) : Rounded q (.finite s m)
  | infinite {s : Bool} (h : overflowLimit ≤ signFactor s * q) : Rounded q (.infinite s)

namespace Binary64

/-- The number that a finite one is, and zero for the others. -/
def toRat : Binary64 → ℚ
  | finite s m => m.value s
  | infinite _ => 0
  | nan => 0

theorem signFactor_mul_quotient (s : Bool) (n d : ℕ) :
    signFactor s * quotient s n d = n / d / unitsPerOne := by
  have hsquare : (signFactor s * signFactor s : ℚ) = 1 := by exact_mod_cast signFactor_mul_self s
  rw [quotient, ← mul_assoc, hsquare, one_mul]

theorem rounded_ofRatio (s : Bool) {n d : ℕ} (hd : 0 < d) :
    Rounded (quotient s n d) (ofRatio s n d) := by
  cases h : Magnitude.nearest? n d with
  | some m =>
      rw [ofRatio_of_nearest? s h]
      exact .finite (Magnitude.roundsTo_of_nearest? s hd h)
  | none =>
      rw [ofRatio_of_none s h]
      refine .infinite ?_
      rw [Magnitude.nearest?_eq_none_iff hd, ← Nat.not_lt, ← Magnitude.abs_quotient_lt_iff s hd,
        Magnitude.abs_quotient, not_lt] at h
      rwa [signFactor_mul_quotient]

theorem rounded_ofUnits (z : ℤ) (s : Bool) : Rounded (z / unitsPerOne) (ofUnits z s) := by
  rw [ofUnits]
  split
  · next hz =>
    have hround := Magnitude.roundsTo_self s .zero
    rw [Magnitude.value_eq, Magnitude.units_zero, Nat.cast_zero, zero_div, mul_zero] at hround
    rw [hz, Int.cast_zero, zero_div]
    exact .finite hround
  · have hround := rounded_ofRatio (decide (z < 0)) (n := z.natAbs) Nat.one_pos
    have hsigned : signFactor (decide (z < 0)) * z.natAbs = z := by
      by_cases hz : z < 0
      · rw [signFactor, if_pos (decide_eq_true hz)]
        omega
      · rw [signFactor, if_neg (by simpa using hz)]
        omega
    have hcast := congrArg (Int.cast : ℤ → ℚ) hsigned
    rw [Int.cast_mul, Int.cast_natCast] at hcast
    have hq : quotient (decide (z < 0)) z.natAbs 1 = z / unitsPerOne := by
      rw [quotient, Nat.cast_one, div_one, ← mul_div_assoc, hcast]
    rwa [hq] at hround

theorem toRat_neg (x : Binary64) : (-x).toRat = -x.toRat := by
  cases x with
  | finite s m => exact m.value_not s
  | infinite s => exact neg_zero.symm
  | nan => exact neg_zero.symm

variable {x y : Binary64}

theorem rounded_add (hx : x.isFinite = true) (hy : y.isFinite = true) :
    Rounded (x.toRat + y.toRat) (x + y) := by
  obtain ⟨s, m, rfl⟩ := isFinite_iff.mp hx
  obtain ⟨t, n, rfl⟩ := isFinite_iff.mp hy
  have hround := rounded_ofUnits (m.signed s + n.signed t) (s && t)
  rw [Int.cast_add, add_div] at hround
  exact hround

theorem rounded_sub (hx : x.isFinite = true) (hy : y.isFinite = true) :
    Rounded (x.toRat - y.toRat) (x - y) := by
  have hneg : (-y).isFinite = true := by
    obtain ⟨t, n, rfl⟩ := isFinite_iff.mp hy
    rfl
  have hround := rounded_add hx hneg
  rw [toRat_neg, ← sub_eq_add_neg] at hround
  exact hround

theorem rounded_mul (hx : x.isFinite = true) (hy : y.isFinite = true) :
    Rounded (x.toRat * y.toRat) (x * y) := by
  obtain ⟨s, m, rfl⟩ := isFinite_iff.mp hx
  obtain ⟨t, n, rfl⟩ := isFinite_iff.mp hy
  have hround := rounded_ofRatio (s ^^ t) (n := m.units * n.units) unitsPerOne_pos
  have hq : quotient (s ^^ t) (m.units * n.units) unitsPerOne = m.value s * n.value t := by
    rw [quotient, Magnitude.value_eq, Magnitude.value_eq, signFactor_xor]
    push_cast
    ring
  rwa [hq, ← finite_mul] at hround

theorem rounded_div (hx : x.isFinite = true) (hy : y.isFinite = true) (hzero : y.isZero = false) :
    Rounded (x.toRat / y.toRat) (x / y) := by
  obtain ⟨s, m, rfl⟩ := isFinite_iff.mp hx
  obtain ⟨t, n, rfl⟩ := isFinite_iff.mp hy
  have hn : n.significand ≠ 0 := by simpa [isZero] using hzero
  have hpos : 0 < n.units := Nat.mul_pos (Nat.pos_of_ne_zero hn) (Nat.two_pow_pos _)
  have hround := rounded_ofRatio (s ^^ t) (n := m.units * unitsPerOne) hpos
  have hq : quotient (s ^^ t) (m.units * unitsPerOne) n.units = m.value s / n.value t := by
    have hsign : (signFactor s / signFactor t : ℚ) = signFactor s * signFactor t := by
      cases t <;> simp [div_neg]
    rw [Magnitude.quotient_mul_unitsPerOne, Magnitude.value_eq, Magnitude.value_eq,
      mul_div_mul_comm, div_div_div_cancel_right₀ Magnitude.unitsPerOne_cast_pos.ne', hsign,
      signFactor_xor, Int.cast_mul]
  rwa [hq, ← finite_div s t m hn] at hround

end Binary64

end Calculator
