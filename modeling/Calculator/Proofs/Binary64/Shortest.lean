import Calculator.Binary64.Decimal
import Calculator.Proofs.Binary64.Integer

/-!
# The shortest decimal

The search for the shortest decimal goes down through the powers of ten, and whatever it ends with
reads back as the magnitude. For an integer it ends at one at the latest, and for no other
magnitude it ends as early.
-/

namespace Calculator

namespace Decimal

theorem magnitude?_natCast (c e : Nat) :
    (Decimal.mk c e).magnitude? = Magnitude.nearest? (c * 10 ^ e * unitsPerOne) 1 := by
  rw [magnitude?, if_pos (Int.natCast_nonneg e), Int.toNat_natCast]

theorem magnitude?_neg {c k : Nat} (hk : 0 < k) :
    (Decimal.mk c (-k)).magnitude? = Magnitude.nearest? (c * unitsPerOne) (10 ^ k) := by
  have hneg : ¬ (0 : Int) ≤ -k := by omega
  rw [magnitude?, if_neg hneg, Int.neg_neg, Int.toNat_natCast]

end Decimal

namespace Magnitude

variable {x : Magnitude} {n : Nat}

theorem of_decimalOn?_eq_some {e : Int} {d : Decimal} (h : x.decimalOn? e = some d) :
    d.exponent = e ∧ d.magnitude? = some x := by
  simp only [decimalOn?] at h
  split at h
  · split at h <;> cases h
    · next hbelow habove => exact ⟨rfl, habove.1⟩
    · next hbelow _ => exact ⟨rfl, hbelow⟩
  · split at h
    · next habove =>
      cases h
      exact ⟨rfl, habove⟩
    · cases h

theorem decimalOn?_zero (hx : x.units = n * unitsPerOne) :
    x.decimalOn? 0 = some ⟨n, 0⟩ := by
  have hpos := unitsPerOne_pos
  have hover : x.overPowerOfTen 0 = (x.units, unitsPerOne) := by
    rw [overPowerOfTen, if_pos (Int.le_refl 0), Int.toNat_zero, Nat.pow_zero, Nat.one_mul]
  have hread : (Decimal.mk n 0).magnitude? = some x := by
    have hcast := Decimal.magnitude?_natCast n 0
    rw [Nat.pow_zero, Nat.mul_one, ← hx, nearest?_units] at hcast
    exact hcast
  have hdiv : x.units / unitsPerOne = n := by rw [hx, Nat.mul_div_cancel _ hpos]
  have hmod : x.units % unitsPerOne = 0 := by rw [hx, Nat.mul_mod_left]
  simp only [decimalOn?, hover, hdiv, hmod, if_pos hread]
  -- the next integer may read back as well, but it is no nearer
  rw [if_neg]
  omega

theorem decimalFrom_zero {k : Nat} (hk : 1074 = k) (x : Magnitude) :
    x.decimalFrom 0 = ⟨x.units * 5 ^ k, -k⟩ := by
  subst hk
  unfold decimalFrom
  rfl

theorem decimalFrom_succ (x : Magnitude) (k : Nat) : x.decimalFrom (k + 1) =
    match x.decimalOn? ((k : Int) - 1073) with
    | some d => d
    | none => x.decimalFrom k := by
  cases hd : x.decimalOn? ((k : Int) - 1073) with
  | some d => rw [decimalFrom, hd]
  | none => rw [decimalFrom, hd]

/-- Every decimal that the search can end with reads back. -/
theorem magnitude?_decimalFrom (x : Magnitude) (i : Nat) :
    (x.decimalFrom i).magnitude? = some x := by
  induction i with
  | zero =>
      obtain ⟨k, hk, hone⟩ := exists_unitsPerOne_eq
      have hpos : 0 < k := by omega
      have hten : x.units * 5 ^ k * unitsPerOne = x.units * 10 ^ k := by
        rw [hone, Nat.mul_assoc, ← Nat.mul_pow]
      have hscale := nearest?_mul_mul x.units 1 (Nat.pow_pos (by decide) : 0 < 10 ^ k)
      rw [Nat.one_mul, nearest?_units] at hscale
      rw [decimalFrom_zero hk, Decimal.magnitude?_neg hpos, hten, hscale]
  | succ i ih =>
      rw [decimalFrom_succ]
      cases hd : x.decimalOn? ((i : Int) - 1073) with
      | none => exact ih
      | some d => exact (of_decimalOn?_eq_some hd).2

theorem magnitude?_shortest (x : Magnitude) : x.shortest.magnitude? = some x :=
  x.magnitude?_decimalFrom _

/-! ## Integers -/

/-- On an integer the search ends at the power one, where the integer itself is found, or above. -/
theorem exists_decimalFrom_eq (hx : x.units = n * unitsPerOne) {k : Nat} (hk : 1073 ≤ k) :
    ∃ c e : Nat, x.decimalFrom (k + 1) = ⟨c, e⟩ ∧ (e = 0 → c = n) := by
  induction k, hk using Nat.le_induction with
  | base =>
      refine ⟨n, 0, ?_, fun _ => rfl⟩
      rw [decimalFrom_succ, show ((1073 : Nat) : Int) - 1073 = 0 by decide, decimalOn?_zero hx]
      rfl
  | succ k hk ih =>
      rw [decimalFrom_succ]
      cases hd : x.decimalOn? (((k + 1 : Nat) : Int) - 1073) with
      | none => exact ih
      | some d =>
          have hexp := (of_decimalOn?_eq_some hd).1
          obtain ⟨c, e⟩ := d
          obtain rfl : e = ((k + 1 - 1073 : Nat) : Int) := by
            dsimp only at hexp
            omega
          exact ⟨c, _, rfl, fun he => absurd he (by omega)⟩

theorem exists_shortest_natCast (hx : x.units = n * unitsPerOne) (h0 : n ≠ 0) :
    ∃ c e : Nat, x.shortest = ⟨c, e⟩ ∧ (e = 0 → c = n) := by
  obtain ⟨k, hk, hone⟩ := exists_unitsPerOne_eq
  have hlog : k ≤ x.units.log2 := by
    have hpos : 0 < n * unitsPerOne := Nat.mul_pos (by omega) unitsPerOne_pos
    rw [hx, Nat.le_log2 hpos.ne', ← hone]
    exact Nat.le_mul_of_pos_left _ (by omega)
  have htens : 1 ≤ tensAbove ((x.units.log2 : Int) + 2 - 1074) := by
    rw [tensAbove, if_pos (by omega)]
    omega
  obtain ⟨i, hi, hindex⟩ : ∃ i, 1073 ≤ i ∧
      (tensAbove ((x.units.log2 : Int) + 2 - 1074) + 1073).toNat = i + 1 :=
    ⟨(tensAbove ((x.units.log2 : Int) + 2 - 1074) + 1072).toNat, by omega, by omega⟩
  rw [shortest, hindex]
  exact exists_decimalFrom_eq hx hi

/-- The magnitude nearest an integer is an integer. -/
theorem unitsPerOne_dvd_of_nearest? (h : nearest? (n * unitsPerOne) 1 = some x) :
    unitsPerOne ∣ x.units := by
  obtain ⟨k, -, hone⟩ := exists_unitsPerOne_eq
  rw [units_of_nearest? h, Nat.one_mul]
  generalize exponentFor (n * unitsPerOne) 1 = e
  rw [hone]
  rcases Nat.le_total e k with hle | hle
  · -- an integer is a multiple of the step, so it is not rounded
    have hstep : n * 2 ^ k = n * 2 ^ (k - e) * 2 ^ e := by
      rw [Nat.mul_assoc, ← Nat.pow_add, Nat.sub_add_cancel hle]
    rw [hstep, roundHalfEven_mul_self _ (Nat.two_pow_pos e), ← hstep]
    exact Nat.dvd_mul_left _ _
  · exact Dvd.dvd.mul_left (Nat.pow_dvd_pow 2 hle) _

/-- The shortest decimal of any other magnitude has digits behind the point. -/
theorem exists_shortest_neg (h : ¬ unitsPerOne ∣ x.units) :
    ∃ c k : Nat, 0 < c ∧ 0 < k ∧ x.shortest = ⟨c, -k⟩ := by
  have hread := x.magnitude?_shortest
  generalize x.shortest = d at hread
  obtain ⟨c, e⟩ := d
  rcases lt_or_ge e 0 with he | he
  · obtain ⟨k, rfl⟩ : ∃ k : Nat, e = -k := ⟨e.natAbs, by omega⟩
    have hk : 0 < k := by omega
    refine ⟨c, k, Nat.pos_of_ne_zero ?_, hk, rfl⟩
    rintro rfl
    have hzero := nearest?_mul_mul zero.units 1 (Nat.pow_pos (by decide) : 0 < 10 ^ k)
    rw [nearest?_units, units_zero, Nat.zero_mul, Nat.one_mul] at hzero
    rw [Decimal.magnitude?_neg hk, Nat.zero_mul, hzero] at hread
    rw [← Option.some.inj hread, units_zero] at h
    exact h (Nat.dvd_zero _)
  · obtain ⟨k, rfl⟩ := Int.eq_ofNat_of_zero_le he
    rw [Decimal.magnitude?_natCast] at hread
    exact absurd (unitsPerOne_dvd_of_nearest? hread) h

end Magnitude

end Calculator
