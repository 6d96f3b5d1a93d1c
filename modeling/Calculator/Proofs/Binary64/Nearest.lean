import Calculator.Proofs.Binary64.Integer
import Mathlib.Algebra.Order.Field.Rat
import Mathlib.Algebra.Order.Ring.Abs
import Mathlib.Tactic.Linarith
import Mathlib.Tactic.LinearCombination
import Mathlib.Tactic.Positivity

/-!
# The nearest number

What a rational number rounds to, told without rounding it: no number of the format is nearer, of
two equally near ones it is the one with the even significand, and from half a step above the
largest magnitude on there is none. The magnitude that is found for a quotient is this one, and
there is no other.
-/

namespace Calculator

/-! ## Rounding on a grid -/

theorem roundHalfEven_bounds (n : ℕ) {d : ℕ} (hd : 0 < d) :
    2 * n ≤ (2 * roundHalfEven n d + 1) * d ∧ 2 * roundHalfEven n d * d ≤ 2 * n + d ∧
      (2 * n = (2 * roundHalfEven n d + 1) * d ∨ 2 * roundHalfEven n d * d = 2 * n + d →
        Even (roundHalfEven n d)) := by
  have hn := Nat.div_add_mod n d
  have hr := Nat.mod_lt n hd
  rw [roundHalfEven, Nat.even_iff]
  generalize n / d = q at hn ⊢
  generalize n % d = r at hn hr ⊢
  have hq : (2 * q + 1) * d = 2 * (d * q) + d := by ring
  have hq' : (2 * (q + 1) + 1) * d = 2 * (d * q) + 3 * d := by ring
  have hq'' : 2 * (q + 1) * d = 2 * (d * q) + 2 * d := by ring
  have hq''' : 2 * q * d = 2 * (d * q) := by ring
  split
  · rw [hq, hq''']
    omega
  · split
    · rw [hq', hq'']
      omega
    · split
      · rw [hq, hq''']
        omega
      · rw [hq', hq'']
        omega

/-- Of the multiples of `g`, the one by `m` is next to `v`: at most half a step away, and half a step
only if `m` is even. -/
structure NextTo (g v : ℚ) (m : ℕ) : Prop where
  near : |m * g - v| ≤ g / 2
  even : |m * g - v| = g / 2 → Even m

theorem roundHalfEven_nextTo (n : ℕ) {d g : ℕ} (hd : 0 < d) (hg : 0 < g) :
    NextTo g (n / d) (roundHalfEven n (d * g)) := by
  obtain ⟨hhi, hlo, heven⟩ := roundHalfEven_bounds n (Nat.mul_pos hd hg)
  generalize roundHalfEven n (d * g) = m at hhi hlo heven ⊢
  have hd' : (0 : ℚ) < d := by exact_mod_cast hd
  have hn : (n : ℚ) = n / d * d := (div_mul_cancel₀ _ hd'.ne').symm
  generalize (n : ℚ) / d = v at hn ⊢
  have hhi' : 2 * v * d ≤ (2 * m + 1) * g * d := by
    have hcast : (2 * n : ℚ) ≤ (2 * m + 1) * (d * g) := by exact_mod_cast hhi
    linarith
  have hlo' : (2 * m * g) * d ≤ (2 * v + g) * d := by
    have hcast : (2 * m * (d * g) : ℚ) ≤ 2 * n + d * g := by exact_mod_cast hlo
    linarith
  have hhi'' := le_of_mul_le_mul_right hhi' hd'
  have hlo'' := le_of_mul_le_mul_right hlo' hd'
  refine ⟨abs_le.mpr ⟨by linarith, by linarith⟩, fun hhalf => heven ?_⟩
  have hg' : (0 : ℚ) ≤ g / 2 := by positivity
  rcases (abs_eq hg').mp hhalf with hhalf | hhalf
  · right
    have hcast : (2 * m * (d * g) : ℚ) = 2 * n + d * g := by
      linear_combination 2 * d * hhalf - 2 * hn
    exact_mod_cast hcast
  · left
    have hcast : (2 * n : ℚ) = (2 * m + 1) * (d * g) := by
      linear_combination 2 * hn - 2 * d * hhalf
    exact_mod_cast hcast

namespace NextTo

variable {g v : ℚ} {m : ℕ}

theorem half_le (h : NextTo g v m) (hg : 0 < g) {k : ℕ} (hk : k ≠ m) :
    g / 2 ≤ |k * g - v| := by
  obtain ⟨hlo, hhi⟩ := abs_le.mp h.near
  rw [le_abs]
  rcases Nat.lt_or_gt_of_ne hk with hlt | hlt
  · have hcast : ((k : ℚ) + 1) * g ≤ m * g := by gcongr; exact_mod_cast hlt
    right
    linarith
  · have hcast : ((m : ℚ) + 1) * g ≤ k * g := by gcongr; exact_mod_cast hlt
    left
    linarith

theorem le (h : NextTo g v m) (hg : 0 < g) (k : ℕ) : |m * g - v| ≤ |k * g - v| := by
  by_cases hk : k = m
  · rw [hk]
  · exact h.near.trans (h.half_le hg hk)

theorem tie (h : NextTo g v m) (hg : 0 < g) {k : ℕ} (hk : k ≠ m)
    (heq : |k * g - v| = |m * g - v|) : Even m ∧ Odd k := by
  have hhalf : |m * g - v| = g / 2 := le_antisymm h.near (heq ▸ h.half_le hg hk)
  have heven := h.even hhalf
  refine ⟨heven, ?_⟩
  have hdist : |(k : ℚ) - m| * g ≤ 1 * g := by
    calc |(k : ℚ) - m| * g = |k * g - m * g| := by rw [← sub_mul, abs_mul, abs_of_pos hg]
      _ = |(k * g - v) - (m * g - v)| := by rw [sub_sub_sub_cancel_right]
      _ ≤ |k * g - v| + |m * g - v| := abs_sub _ _
      _ = 1 * g := by rw [heq, hhalf]; ring
  obtain ⟨hlo, hhi⟩ := abs_le.mp (le_of_mul_le_mul_right hdist hg)
  have hlo' : m ≤ k + 1 := by
    have : (m : ℚ) ≤ k + 1 := by linarith
    exact_mod_cast this
  have hhi' : k ≤ m + 1 := by
    have : (k : ℚ) ≤ m + 1 := by linarith
    exact_mod_cast this
  rw [Nat.even_iff] at heven
  rw [Nat.odd_iff]
  omega

end NextTo

/-! ## The nearest magnitude -/

namespace Magnitude

variable {n d : ℕ} {x y : Magnitude}

theorem lt_mul_step (n : ℕ) (hd : 0 < d) : n < 2 ^ 53 * (d * 2 ^ exponentFor n d) :=
  (Nat.div_lt_iff_lt_mul (Nat.mul_pos hd (Nat.two_pow_pos _))).mp (div_lt_of_exponentFor n d)

theorem mul_step_le (hd : 0 < d) (he : exponentFor n d ≠ 0) :
    2 ^ 52 * (d * 2 ^ exponentFor n d) ≤ n :=
  (Nat.le_div_iff_mul_le (Nat.mul_pos hd (Nat.two_pow_pos _))).mp (le_div_of_exponentFor he)

theorem significand_of_nearest? (h : nearest? n d = some x) :
    x.significand = roundHalfEven n (d * 2 ^ exponentFor n d) ∨ x.significand = 2 ^ 52 := by
  simp only [nearest?] at h
  split at h
  · split at h
    · cases h
      exact .inl rfl
    · cases h
  · split at h
    · cases h
      exact .inr rfl
    · cases h

/-- On a grid a magnitude is one of the multiples, or it lies below the grid's 53 bits. -/
theorem exists_multiple_or_lt (y : Magnitude) (e : ℕ) :
    (∃ k, y.units = k * 2 ^ e ∧ (Odd k → Odd y.significand)) ∨
      e ≠ 0 ∧ y.units < 2 ^ 52 * 2 ^ e := by
  rcases Nat.lt_or_ge y.exponent e with hlt | hle
  · right
    exact ⟨Nat.ne_zero_of_lt hlt, units_lt_of_exponent_lt hlt⟩
  · left
    refine ⟨y.significand * 2 ^ (y.exponent - e), ?_, fun hodd => (Nat.odd_mul.mp hodd).1⟩
    rw [units, Nat.mul_assoc, ← Nat.pow_add, Nat.sub_add_cancel hle]

section Nearest

variable (hd : 0 < d) (h : nearest? n d = some x)
include hd h

theorem nextTo_of_nearest? : ∃ e m, x.units = m * 2 ^ e ∧ NextTo (2 ^ e) (n / d) m ∧
    (Even m → Even x.significand) ∧ (e ≠ 0 → (2 ^ 52 * 2 ^ e : ℚ) ≤ n / d) := by
  have hpos := Nat.two_pow_pos (exponentFor n d)
  have hnext := roundHalfEven_nextTo n hd hpos
  push_cast at hnext
  refine ⟨_, _, units_of_nearest? h, hnext, fun heven => ?_, fun he => ?_⟩
  · rcases significand_of_nearest? h with hm | hm
    · rwa [hm]
    · rw [hm]
      decide
  · have hle := mul_step_le hd he
    rw [le_div_iff₀ (by exact_mod_cast hd)]
    calc (2 ^ 52 * 2 ^ exponentFor n d * d : ℚ) = 2 ^ 52 * (d * 2 ^ exponentFor n d) := by ring
      _ ≤ n := by exact_mod_cast hle

/-- No magnitude is nearer, and one that is as near has the odd significand. -/
theorem nearest_of_nearest? (y : Magnitude) :
    |(x.units - n / d : ℚ)| ≤ |(y.units - n / d : ℚ)| ∧
      (y ≠ x → |(y.units - n / d : ℚ)| = |(x.units - n / d : ℚ)| →
        Even x.significand ∧ Odd y.significand) := by
  obtain ⟨e, m, hx, hnext, heven, hcoarse⟩ := nextTo_of_nearest? hd h
  generalize (n : ℚ) / d = v at hnext hcoarse ⊢
  have hpos : (0 : ℚ) < 2 ^ e := by positivity
  have hx' : (x.units : ℚ) = m * 2 ^ e := by exact_mod_cast hx
  rw [hx']
  rcases y.exists_multiple_or_lt e with ⟨k, hy, hodd⟩ | ⟨he, hlt⟩
  · have hy' : (y.units : ℚ) = k * 2 ^ e := by exact_mod_cast hy
    rw [hy']
    refine ⟨hnext.le hpos k, fun hne heq => ?_⟩
    have hk : k ≠ m := by
      rintro rfl
      exact hne (units_injective (hy.trans hx.symm))
    exact ⟨heven (hnext.tie hpos hk heq).1, hodd (hnext.tie hpos hk heq).2⟩
  · -- below the 53 bits of the grid a magnitude is further off than the least of them
    have hlt' : (y.units : ℚ) < 2 ^ 52 * 2 ^ e := by exact_mod_cast hlt
    have hle := hcoarse he
    have hfar : |m * 2 ^ e - v| < |y.units - v| := by
      calc |m * 2 ^ e - v| ≤ |((2 ^ 52 : ℕ) : ℚ) * 2 ^ e - v| := hnext.le hpos _
        _ = v - 2 ^ 52 * 2 ^ e := by
          rw [Nat.cast_pow, Nat.cast_ofNat, abs_of_nonpos (by linarith), neg_sub]
        _ < v - y.units := by linarith
        _ ≤ |y.units - v| := by
          rw [abs_sub_comm]
          exact le_abs_self _
    exact ⟨hfar.le, fun _ heq => absurd heq hfar.ne'⟩

end Nearest

theorem nearest?_eq_none_iff_exponentFor : nearest? n d = none ↔ 2045 < exponentFor n d ∨
    exponentFor n d = 2045 ∧ 2 ^ 53 ≤ roundHalfEven n (d * 2 ^ exponentFor n d) := by
  simp only [nearest?]
  split
  · split
    · simp only [reduceCtorEq, false_iff]
      omega
    · simp only [true_iff]
      omega
  · split
    · simp only [reduceCtorEq, false_iff]
      omega
    · simp only [true_iff]
      omega

end Magnitude

/-- Half a step above the largest magnitude. -/
def overflowLimit : ℕ := 2 ^ 1024 - 2 ^ 970

/-- The step between the largest magnitudes, in units. -/
def largestStep : ℕ := 2 ^ 2045

/-- Twice the overflow limit, in units of `1 / d`, is half a step below `2 ^ 54` steps. The exponent
of the step is kept apart so that nothing computes the power. -/
theorem exists_two_mul_overflowLimit (d : ℕ) : ∃ k, 2045 = k ∧
    2 * (overflowLimit * unitsPerOne * d) + d * 2 ^ k = 2 ^ 54 * (d * 2 ^ k) := by
  obtain ⟨k, hk⟩ : ∃ k, 2045 = k := ⟨_, rfl⟩
  have htop : largestStep = 2 ^ k := by
    unfold largestStep
    congr 1
  have hlimit : 2 * (overflowLimit * unitsPerOne) + largestStep = 2 ^ 54 * largestStep := by
    decide +kernel
  refine ⟨k, hk, ?_⟩
  rw [← htop]
  calc 2 * (overflowLimit * unitsPerOne * d) + d * largestStep
      = (2 * (overflowLimit * unitsPerOne) + largestStep) * d := by
        rw [Nat.add_mul, Nat.mul_assoc 2, Nat.mul_comm d]
    _ = 2 ^ 54 * (d * largestStep) := by rw [hlimit, Nat.mul_assoc, Nat.mul_comm d]

theorem two_mul_step_le (d : ℕ) {i j : ℕ} (h : i < j) : 2 * (d * 2 ^ i) ≤ d * 2 ^ j := by
  rw [Nat.mul_left_comm, ← Nat.pow_succ']
  exact Nat.mul_le_mul_left d (Nat.pow_le_pow_right Nat.two_pos h)

namespace Magnitude

variable {n d : ℕ}

theorem lt_of_exponentFor_lt (hd : 0 < d) (he : exponentFor n d < 2045) :
    n < overflowLimit * unitsPerOne * d := by
  obtain ⟨k, hk, hlimit⟩ := exists_two_mul_overflowLimit d
  rw [hk] at he
  have hpos : 0 < d * 2 ^ k := Nat.mul_pos hd (Nat.two_pow_pos k)
  have hstep := two_mul_step_le d he
  have hlt := lt_mul_step n hd
  generalize overflowLimit * unitsPerOne * d = limit at hlimit ⊢
  linarith only [hlimit, hpos, hstep, hlt]

theorem le_of_lt_exponentFor (hd : 0 < d) (he : 2045 < exponentFor n d) :
    overflowLimit * unitsPerOne * d ≤ n := by
  obtain ⟨k, hk, hlimit⟩ := exists_two_mul_overflowLimit d
  have hle := mul_step_le hd (Nat.ne_zero_of_lt he)
  rw [hk] at he
  have hstep := two_mul_step_le d he
  generalize overflowLimit * unitsPerOne * d = limit at hlimit ⊢
  linarith only [hlimit, hle, hstep]

theorem le_iff_of_exponentFor_eq (hd : 0 < d) (he : exponentFor n d = 2045) :
    overflowLimit * unitsPerOne * d ≤ n ↔
      2 ^ 53 ≤ roundHalfEven n (d * 2 ^ exponentFor n d) := by
  obtain ⟨k, hk, hlimit⟩ := exists_two_mul_overflowLimit d
  rw [hk] at he
  rw [he]
  have hpos : 0 < d * 2 ^ k := Nat.mul_pos hd (Nat.two_pow_pos k)
  obtain ⟨hhi, hlo, heven⟩ := roundHalfEven_bounds n hpos
  generalize roundHalfEven n (d * 2 ^ k) = m at hhi hlo heven ⊢
  generalize d * 2 ^ k = g at hlimit hpos hhi hlo heven
  generalize overflowLimit * unitsPerOne * d = limit at hlimit ⊢
  constructor
  · intro hle
    by_contra hm
    -- the largest significand is odd, so half a step above it is rounded up
    have hm' : (m + 1) * g ≤ 2 ^ 53 * g := Nat.mul_le_mul_right g (Nat.not_le.mp hm)
    have htie : 2 * n = (2 * m + 1) * g := by linarith only [hlimit, hhi, hle, hm']
    have hlargest : (m + 1) * g = 2 ^ 53 * g := by linarith only [hlimit, htie, hle, hm']
    obtain rfl : m = 2 ^ 53 - 1 :=
      Nat.eq_sub_of_add_eq (Nat.eq_of_mul_eq_mul_right hpos hlargest)
    exact absurd (heven (.inl htie)) (by decide)
  · intro hm
    have hm' : 2 ^ 53 * g ≤ m * g := Nat.mul_le_mul_right g hm
    linarith only [hlimit, hlo, hm']

/-- Exactly from half a step above the largest magnitude on there is none. -/
theorem nearest?_eq_none_iff (hd : 0 < d) :
    nearest? n d = none ↔ overflowLimit * unitsPerOne * d ≤ n := by
  rw [nearest?_eq_none_iff_exponentFor]
  rcases Nat.lt_trichotomy (exponentFor n d) 2045 with he | he | he
  · apply iff_of_false
    · rintro (he' | ⟨he', -⟩)
      · exact absurd he' (Nat.lt_asymm he)
      · exact absurd he' he.ne
    · exact Nat.not_le.mpr (lt_of_exponentFor_lt hd he)
  · rw [le_iff_of_exponentFor_eq hd he, and_iff_right he, or_iff_right he.not_gt]
  · exact iff_of_true (.inl he) (le_of_lt_exponentFor hd he)

/-! ## The nearest number -/

/-- The number that a magnitude with a sign is. -/
def value (s : Bool) (x : Magnitude) : ℚ := x.signed s / unitsPerOne

theorem unitsPerOne_cast_pos : (0 : ℚ) < unitsPerOne := by exact_mod_cast unitsPerOne_pos

theorem abs_signFactor (s : Bool) : |(signFactor s : ℚ)| = 1 := by
  cases s <;> simp

theorem value_eq (s : Bool) (x : Magnitude) :
    x.value s = signFactor s * (x.units / unitsPerOne) := by
  rw [value, signed_eq, Int.cast_mul, Int.cast_natCast, mul_div_assoc]

theorem abs_value (s : Bool) (x : Magnitude) : |x.value s| = x.units / unitsPerOne := by
  have hnonneg : (0 : ℚ) ≤ x.units / unitsPerOne := by positivity
  rw [value_eq, abs_mul, abs_signFactor, one_mul, abs_of_nonneg hnonneg]

theorem value_not (s : Bool) (x : Magnitude) : x.value (!s) = -x.value s := by
  rw [value_eq, value_eq, signFactor_not, Int.cast_neg, neg_mul]

theorem value_of_units (s : Bool) {n : ℕ} {x : Magnitude} (h : x.units = n * unitsPerOne) :
    x.value s = signFactor s * n := by
  rw [value_eq, h, Nat.cast_mul, mul_div_cancel_right₀ _ unitsPerOne_cast_pos.ne']

theorem unitsPerOne_dvd_iff (s : Bool) {x : Magnitude} :
    unitsPerOne ∣ x.units ↔ ∃ z : ℤ, x.value s = z := by
  constructor
  · rintro ⟨n, hn⟩
    refine ⟨signFactor s * n, ?_⟩
    rw [value_of_units s (hn.trans (Nat.mul_comm _ _)), Int.cast_mul, Int.cast_natCast]
  · rintro ⟨z, hz⟩
    rw [value, div_eq_iff unitsPerOne_cast_pos.ne'] at hz
    have hsigned : x.signed s = z * unitsPerOne := by exact_mod_cast hz
    rw [units_of_signed_eq hsigned]
    exact Nat.dvd_mul_left _ _

end Magnitude

/-- What `q` rounds to: no number of the format is nearer to `q` than this one, and if another one
is as near, this one has an even significand. From half a step above the largest magnitude on,
there is none. -/
structure RoundsTo (q : ℚ) (s : Bool) (x : Magnitude) : Prop where
  inRange : |q| < overflowLimit
  nearest : ∀ t y, |x.value s - q| ≤ |Magnitude.value t y - q|
  even : ∀ t y, Magnitude.value t y ≠ x.value s →
    |Magnitude.value t y - q| = |x.value s - q| → Even x.significand

namespace Magnitude

section Rational

variable (s : Bool) {n d : ℕ} {x : Magnitude} (hd : 0 < d) (h : nearest? n d = some x)

/-- The number with this sign and `n / d` units. -/
def quotient (s : Bool) (n d : ℕ) : ℚ := signFactor s * (n / d / unitsPerOne)

theorem abs_quotient (n d : ℕ) : |quotient s n d| = n / d / unitsPerOne := by
  have hnonneg : (0 : ℚ) ≤ n / d / unitsPerOne := by positivity
  rw [quotient, abs_mul, abs_signFactor, one_mul, abs_of_nonneg hnonneg]

theorem quotient_mul_unitsPerOne (n d : ℕ) :
    quotient s (n * unitsPerOne) d = signFactor s * (n / d) := by
  rw [quotient, Nat.cast_mul, div_right_comm, mul_div_cancel_right₀ _ unitsPerOne_cast_pos.ne']

theorem abs_value_sub_quotient (x : Magnitude) (n d : ℕ) :
    |x.value s - quotient s n d| = |(x.units - n / d : ℚ)| / unitsPerOne := by
  rw [value_eq, quotient, ← mul_sub, ← sub_div, abs_mul, abs_signFactor, one_mul, abs_div,
    abs_of_pos unitsPerOne_cast_pos]

theorem le_abs_value_sub_quotient (t : Bool) (y : Magnitude) (n d : ℕ) :
    |(y.units - n / d : ℚ)| / unitsPerOne ≤ |y.value t - quotient s n d| := by
  calc |(y.units - n / d : ℚ)| / unitsPerOne
      = |(|y.value t| - |quotient s n d|)| := by
        rw [abs_value, abs_quotient, ← sub_div, abs_div, abs_of_pos unitsPerOne_cast_pos]
    _ ≤ _ := abs_abs_sub_abs_le _ _

include hd

theorem abs_quotient_lt_iff (n : ℕ) :
    |quotient s n d| < overflowLimit ↔ n < overflowLimit * unitsPerOne * d := by
  have hd' : (0 : ℚ) < d := by exact_mod_cast hd
  rw [abs_quotient, div_lt_iff₀ unitsPerOne_cast_pos, div_lt_iff₀ hd']
  exact_mod_cast Iff.rfl

include h

/-- A number as near as the one found differs from it in the last bit of the significand. -/
theorem even_odd_of_nearest? {t : Bool} {y : Magnitude} (hne : y.value t ≠ x.value s)
    (heq : |y.value t - quotient s n d| = |x.value s - quotient s n d|) :
    Even x.significand ∧ Odd y.significand := by
  have hU := unitsPerOne_cast_pos
  obtain ⟨hnear, htie⟩ := nearest_of_nearest? hd h y
  by_cases hyx : y = x
  · -- only the signs differ, so the quotient lies in the middle, at zero
    subst hyx
    have ht : t = !s := Bool.eq_not.mpr fun ht => hne (by rw [ht])
    rw [ht, value_not] at hne heq
    exfalso
    apply hne
    rcases abs_eq_abs.mp heq with hsame | hmiddle
    · exact sub_left_injective hsame
    · have hzero := (nearest_of_nearest? hd h zero).1
      have hv : (n / d : ℚ) = 0 := by
        have habs := abs_quotient s n d
        rw [show quotient s n d = 0 by linarith, abs_zero] at habs
        exact (div_eq_zero_iff.mp habs.symm).resolve_right hU.ne'
      rw [hv, sub_zero, sub_zero, units_zero, Nat.cast_zero, abs_zero, abs_nonpos_iff] at hzero
      rw [value_eq, hzero, zero_div, mul_zero, neg_zero]
  · apply htie hyx
    have hle := le_abs_value_sub_quotient s t y n d
    rw [heq, abs_value_sub_quotient, div_le_div_iff_of_pos_right hU] at hle
    exact le_antisymm hle hnear

theorem roundsTo_of_nearest? : RoundsTo (quotient s n d) s x where
  inRange := by
    rw [abs_quotient_lt_iff s hd, ← Nat.not_le, ← nearest?_eq_none_iff hd, h]
    exact Option.some_ne_none x
  nearest t y := by
    rw [abs_value_sub_quotient]
    calc |(x.units - n / d : ℚ)| / unitsPerOne ≤ |(y.units - n / d : ℚ)| / unitsPerOne :=
          (div_le_div_iff_of_pos_right unitsPerOne_cast_pos).mpr (nearest_of_nearest? hd h y).1
      _ ≤ _ := le_abs_value_sub_quotient s t y n d
  even _ _ hne heq := (even_odd_of_nearest? s hd h hne heq).1

end Rational

theorem roundsTo_self (s : Bool) (x : Magnitude) : RoundsTo (x.value s) s x := by
  have hround := roundsTo_of_nearest? s Nat.zero_lt_one x.nearest?_units
  rwa [quotient, Nat.cast_one, div_one, ← value_eq] at hround

end Magnitude

theorem exists_quotient_eq (q : ℚ) : ∃ s n d, 0 < d ∧ q = Magnitude.quotient s n d := by
  have hq (s : Bool) (n : ℕ) (h : q.num = signFactor s * n) :
      q = Magnitude.quotient s (n * unitsPerOne) q.den := by
    calc q = q.num / q.den := (Rat.num_div_den q).symm
      _ = signFactor s * (n / q.den) := by
        rw [h, Int.cast_mul, Int.cast_natCast, mul_div_assoc]
      _ = _ := (Magnitude.quotient_mul_unitsPerOne s n q.den).symm
  rcases Int.natAbs_eq q.num with h | h
  · exact ⟨false, _, _, q.den_pos, hq false _ (h.trans (Int.one_mul _).symm)⟩
  · exact ⟨true, _, _, q.den_pos, hq true _ (h.trans (Int.neg_one_mul _).symm)⟩

namespace RoundsTo

variable {q : ℚ} {s t : Bool} {x y : Magnitude}

/-- Nothing else is what `q` rounds to. -/
theorem value_eq (hx : RoundsTo q s x) (hy : RoundsTo q t y) : x.value s = y.value t := by
  obtain ⟨u, n, d, hd, rfl⟩ := exists_quotient_eq q
  obtain ⟨z, hz⟩ : ∃ z, Magnitude.nearest? n d = some z := by
    rw [← Option.ne_none_iff_exists', Ne, Magnitude.nearest?_eq_none_iff hd, Nat.not_le,
      ← Magnitude.abs_quotient_lt_iff u hd]
    exact hx.inRange
  have hround := Magnitude.roundsTo_of_nearest? u hd hz
  -- one of two that are equally near is odd, and what is rounded to is not
  have hall : ∀ {r : Bool} {w : Magnitude}, RoundsTo (Magnitude.quotient u n d) r w →
      w.value r = z.value u := by
    intro r w hw
    by_contra hne
    have heq := le_antisymm (hw.nearest u z) (hround.nearest r w)
    have hodd := (Magnitude.even_odd_of_nearest? u hd hz hne heq).2
    exact Nat.not_even_iff_odd.mpr hodd (hw.even u z (Ne.symm hne) heq.symm)
  rw [hall hx, hall hy]

theorem add_le_of_abs_sub_le {a b q : ℚ} (hlt : b < a) (h : |a - q| ≤ |b - q|) :
    a + b ≤ 2 * q := by
  have hself := le_abs_self (a - q)
  rcases abs_cases (b - q) with ⟨hb, -⟩ | ⟨hb, -⟩ <;> linarith

/-- Rounding keeps the order. -/
theorem value_le {r : ℚ} (hqr : q ≤ r) (hx : RoundsTo q s x) (hy : RoundsTo r t y) :
    x.value s ≤ y.value t := by
  by_contra! hlt
  -- both numbers would lie in the middle between the results, and so be the same
  have hlo : x.value s + y.value t ≤ 2 * q := add_le_of_abs_sub_le hlt (hx.nearest t y)
  have hhi : -y.value t + -x.value s ≤ 2 * -r := by
    apply add_le_of_abs_sub_le (neg_lt_neg hlt)
    rw [neg_sub_neg, neg_sub_neg, abs_sub_comm, abs_sub_comm r]
    exact hy.nearest s x
  obtain rfl : q = r := by linarith
  exact hlt.ne (hy.value_eq hx)

end RoundsTo

namespace Binary64

variable {n : ℕ}

theorem nearest?_natCast_eq_none_iff :
    Magnitude.nearest? (n * unitsPerOne) 1 = none ↔ overflowLimit ≤ n := by
  rw [Magnitude.nearest?_eq_none_iff Nat.zero_lt_one, Nat.mul_one,
    Nat.mul_le_mul_right_iff unitsPerOne_pos]

theorem ofNat_of_le (h : overflowLimit ≤ n) : ofNat n = .infinite false :=
  ofRatio_of_none false (nearest?_natCast_eq_none_iff.mpr h)

theorem exists_ofNat_eq (h : n < overflowLimit) :
    ∃ x, ofNat n = .finite false x ∧ RoundsTo n false x := by
  obtain ⟨x, hx⟩ : ∃ x, Magnitude.nearest? (n * unitsPerOne) 1 = some x := by
    rw [← Option.ne_none_iff_exists', Ne, nearest?_natCast_eq_none_iff]
    exact Nat.not_le.mpr h
  have hround := Magnitude.roundsTo_of_nearest? false Nat.zero_lt_one hx
  rw [Magnitude.quotient_mul_unitsPerOne, signFactor_false, Int.cast_one, one_mul, Nat.cast_one,
    div_one] at hround
  exact ⟨x, ofRatio_of_nearest? false hx, hround⟩

end Binary64

end Calculator
