/-!
# Binary floating-point numbers of 64 bits

A finite number is a sign and a magnitude, and a magnitude is a whole number of units of
`2 ^ -1074`, the smallest positive number of the format. Every operation computes its exact
result as a quotient of units and rounds it once: to the nearest magnitude, a tie going to the
even significand, and to infinity where no magnitude is left.
-/

namespace Calculator

-- A power of natural numbers is the core library's, whatever else is in scope.
attribute [instance (high), default_instance (high + 1)] instPowNat

/-- A representable magnitude, `significand * 2 ^ exponent` units of `2 ^ -1074`. Each has one
form: below `2 ^ 52` the significand stands alone. -/
@[ext]
structure Magnitude where
  significand : Nat
  exponent : Nat
  significand_lt : significand < 2 ^ 53
  exponent_le : exponent ≤ 2045
  normal : 2 ^ 52 ≤ significand ∨ exponent = 0
  deriving DecidableEq

/-- The number of units in one. -/
def unitsPerOne : Nat := 2 ^ 1074

/-- The integer nearest `n / d`, a half going to the even neighbour. -/
def roundHalfEven (n d : Nat) : Nat :=
  if 2 * (n % d) < d then n / d
  else if d < 2 * (n % d) then n / d + 1
  else if n / d % 2 = 0 then n / d
  else n / d + 1

theorem div_le_roundHalfEven (n d : Nat) : n / d ≤ roundHalfEven n d := by
  unfold roundHalfEven
  split
  · exact Nat.le_refl _
  · split
    · omega
    · split <;> omega

theorem roundHalfEven_le (n d : Nat) : roundHalfEven n d ≤ n / d + 1 := by
  unfold roundHalfEven
  split
  · omega
  · split
    · exact Nat.le_refl _
    · split <;> omega

namespace Magnitude

def zero : Magnitude := ⟨0, 0, by decide, by decide, .inr rfl⟩

/-- The magnitude as a whole number of units. -/
def units (x : Magnitude) : Nat := x.significand * 2 ^ x.exponent

@[simp] theorem units_zero : zero.units = 0 := by simp [units, zero]

/-- The exponent at which a quotient of units has 53 significant bits, or the smallest one. -/
def exponentFor (n d : Nat) : Nat := (n / d).log2 - 52

theorem div_lt_of_exponentFor (n d : Nat) : n / (d * 2 ^ exponentFor n d) < 2 ^ 53 := by
  rw [← Nat.div_div_eq_div_mul, Nat.div_lt_iff_lt_mul (Nat.two_pow_pos _), ← Nat.pow_add]
  refine Nat.lt_of_lt_of_le Nat.lt_log2_self (Nat.pow_le_pow_right (by decide) ?_)
  unfold exponentFor
  omega

theorem le_div_of_exponentFor {n d : Nat} (h : exponentFor n d ≠ 0) :
    2 ^ 52 ≤ n / (d * 2 ^ exponentFor n d) := by
  rw [← Nat.div_div_eq_div_mul, Nat.le_div_iff_mul_le (Nat.two_pow_pos _), ← Nat.pow_add]
  have hq : n / d ≠ 0 := by
    intro h0
    simp [exponentFor, h0] at h
  have he : 52 + exponentFor n d = (n / d).log2 := by
    unfold exponentFor at h ⊢
    omega
  rw [he]
  exact Nat.log2_self_le hq

/-- The magnitude nearest `n / d` units, a tie going to the even significand. There is none from
half a step above the largest magnitude on. -/
def nearest? (n d : Nat) : Option Magnitude :=
  let e := exponentFor n d
  let m := roundHalfEven n (d * 2 ^ e)
  if h : m < 2 ^ 53 then
    if he : e ≤ 2045 then
      some ⟨m, e, h, he, by
        by_cases h0 : e = 0
        · exact .inr h0
        · exact .inl (Nat.le_trans (le_div_of_exponentFor h0) (div_le_roundHalfEven _ _))⟩
    else none
  else if he : e + 1 ≤ 2045 then
    some ⟨2 ^ 52, e + 1, by decide, he, .inl (Nat.le_refl _)⟩
  else none

theorem roundHalfEven_mul_self (n : Nat) {d : Nat} (hd : 0 < d) : roundHalfEven (n * d) d = n := by
  simp [roundHalfEven, Nat.mul_mod_left, Nat.mul_div_cancel _ hd, hd]

theorem exponentFor_units (x : Magnitude) : exponentFor x.units 1 = x.exponent := by
  rw [exponentFor, Nat.div_one, units]
  rcases x.normal with hm | he
  · have hm0 : x.significand ≠ 0 := by
      have := Nat.two_pow_pos 52
      omega
    have hlog : (x.significand * 2 ^ x.exponent).log2 = 52 + x.exponent := by
      refine (Nat.log2_eq_iff (Nat.mul_ne_zero hm0 (Nat.ne_of_gt (Nat.two_pow_pos _)))).2 ⟨?_, ?_⟩
      · rw [Nat.pow_add]
        exact Nat.mul_le_mul_right _ hm
      · rw [Nat.add_right_comm, Nat.pow_add]
        exact Nat.mul_lt_mul_of_pos_right x.significand_lt (Nat.two_pow_pos _)
    omega
  · rw [he, Nat.pow_zero, Nat.mul_one]
    by_cases hm0 : x.significand = 0
    · simp [hm0]
    · have hlt := (Nat.log2_lt hm0).2 x.significand_lt
      omega

/-- A magnitude is the one nearest to itself. -/
@[simp] theorem nearest?_units (x : Magnitude) : nearest? x.units 1 = some x := by
  have hround : roundHalfEven x.units (1 * 2 ^ x.exponent) = x.significand := by
    rw [Nat.one_mul, units]
    exact roundHalfEven_mul_self _ (Nat.two_pow_pos _)
  simp only [nearest?, exponentFor_units, hround, x.significand_lt, x.exponent_le, ↓reduceDIte]

theorem units_injective {x y : Magnitude} (h : x.units = y.units) : x = y := by
  have hx := x.nearest?_units
  rw [h, nearest?_units] at hx
  exact (Option.some.inj hx).symm

theorem eq_zero_iff {x : Magnitude} : x = zero ↔ x.significand = 0 := by
  constructor
  · rintro rfl
    rfl
  · intro h
    apply units_injective
    simp [units, zero, h]

end Magnitude

/-- A number of the format. The sign of a zero is kept; all invalid results are one `nan`. -/
inductive Binary64 where
  | finite (negative : Bool) (magnitude : Magnitude)
  | infinite (negative : Bool)
  | nan
  deriving DecidableEq

namespace Binary64

/-- The number nearest `n / d` units, with the given sign. -/
def ofRatio (negative : Bool) (n d : Nat) : Binary64 :=
  match Magnitude.nearest? n d with
  | some m => .finite negative m
  | none => .infinite negative

def ofNat (n : Nat) : Binary64 := ofRatio false (n * unitsPerOne) 1

def isFinite : Binary64 → Bool
  | .finite _ _ => true
  | _ => false

/-- Both zeros. -/
def isZero : Binary64 → Bool
  | .finite _ m => m.significand == 0
  | _ => false

theorem isFinite_iff {x : Binary64} : x.isFinite = true ↔ ∃ s m, x = .finite s m := by
  cases x <;> simp [isFinite]

theorem isZero_iff {x : Binary64} : x.isZero = true ↔ ∃ s, x = .finite s .zero := by
  cases x <;> simp [isZero, Magnitude.eq_zero_iff]

end Binary64

end Calculator
