import Calculator.Proofs.Binary64.Shortest

/-!
# The text of small integers

An integer of magnitude at most `2 ^ 53` is answered with its own digits. From `10 ^ 15` on they
come out of the search for the shortest decimal: on a multiple of ten nothing but the integer
itself reads back as it, and on one it is there.
-/

namespace Calculator

theorem toDigits_mul_pow {c : Nat} (hc : 0 < c) (e : Nat) :
    Nat.toDigits 10 (c * 10 ^ e) = Nat.toDigits 10 c ++ List.replicate e '0' := by
  induction e with
  | zero => simp
  | succ e ih =>
      have hpos : 0 < c * 10 ^ e := Nat.mul_pos hc (Nat.pow_pos (by decide))
      have happend := @Nat.toDigits_append_toDigits 10 (c * 10 ^ e) 0 (by decide) hpos (by decide)
      have hzero : Nat.toDigits 10 0 = ['0'] := rfl
      have hmul : c * 10 ^ (e + 1) = 10 * (c * 10 ^ e) + 0 := by
        rw [Nat.pow_succ', Nat.mul_left_comm, Nat.add_zero]
      rw [hmul, ← happend, ih, hzero, List.replicate_succ', List.append_assoc]

namespace Decimal

theorem text_natCast (c e : Nat) : (Decimal.mk c e).text = toString (c * 10 ^ e) := by
  by_cases hc : c = 0
  · rw [text, if_pos hc, hc, Nat.zero_mul]
    rfl
  · have hexp : (0 : Int) ≤ e := Int.natCast_nonneg e
    simp only [text, if_neg hc, if_pos hexp, Int.toNat_natCast]
    rw [← toDigits_mul_pow (Nat.pos_of_ne_zero hc), Nat.toString_eq_ofList_toDigits]

end Decimal

namespace Magnitude

variable {x : Magnitude} {n : Nat}

theorem units_of_nearest?_integer {a : Nat} (ha : a ≤ exactLimit)
    (h : nearest? (a * unitsPerOne) 1 = some x) : x.units = a * unitsPerOne := by
  obtain ⟨m, hm⟩ := exists_units_eq_mul ha
  rw [← hm, nearest?_units] at h
  rw [← Option.some.inj h, hm]

/-- An even integer above `2 ^ 53` reads as more than `2 ^ 53`. -/
theorem lt_units_of_nearest?_even {a : Nat} (ha : exactLimit < a) (heven : 2 ∣ a)
    (h : nearest? (a * unitsPerOne) 1 = some x) : exactLimit * unitsPerOne < x.units := by
  obtain ⟨k, hk, hone⟩ := exists_unitsPerOne_eq
  have hsig : 2 ^ 52 + 1 < 2 ^ 53 := by decide
  have hexp : k + 1 ≤ 2045 := by omega
  obtain ⟨y, hy⟩ := exists_units hsig hexp
  have hy' : y.units = (exactLimit + 2) * unitsPerOne := by
    have hpow : 2 ^ (k + 1) = 2 ^ k * 2 := Nat.pow_succ 2 k
    rw [hy, hone, hpow, exactLimit]
    omega
  have hlimit : exactLimit % 2 = 0 := by decide
  have hle : y.units * 1 ≤ a * unitsPerOne := by
    rw [Nat.mul_one, hy']
    exact Nat.mul_le_mul_right _ (by omega)
  calc exactLimit * unitsPerOne < (exactLimit + 2) * unitsPerOne :=
        Nat.mul_lt_mul_of_pos_right (by omega) unitsPerOne_pos
    _ = y.units := hy'.symm
    _ ≤ x.units := le_units_of_nearest? Nat.one_pos hle h

/-- A multiple of ten that reads as a small integer is this integer. -/
theorem eq_of_magnitude? (hx : x.units = n * unitsPerOne) (hn : n ≤ exactLimit) {c e : Nat}
    (he : 0 < e) (h : (Decimal.mk c e).magnitude? = some x) : c * 10 ^ e = n := by
  rw [Decimal.magnitude?_natCast] at h
  by_cases ha : c * 10 ^ e ≤ exactLimit
  · have hunits := units_of_nearest?_integer ha h
    rw [hx] at hunits
    exact (Nat.eq_of_mul_eq_mul_right unitsPerOne_pos hunits).symm
  · have heven : 2 ∣ c * 10 ^ e :=
      Dvd.dvd.mul_left (Dvd.dvd.trans (by decide : 2 ∣ 10) (dvd_pow_self 10 he.ne')) c
    have hlt := lt_units_of_nearest?_even (Nat.not_le.mp ha) heven h
    rw [hx] at hlt
    exact absurd (Nat.lt_of_mul_lt_mul_right hlt) (Nat.not_lt.mpr hn)

theorem exists_shortest_eq (hx : x.units = n * unitsPerOne) (hn : n ≤ exactLimit) (h0 : n ≠ 0) :
    ∃ c e : Nat, x.shortest = ⟨c, e⟩ ∧ c * 10 ^ e = n := by
  obtain ⟨c, e, hshortest, hone⟩ := exists_shortest_natCast hx h0
  refine ⟨c, e, hshortest, ?_⟩
  rcases Nat.eq_zero_or_pos e with rfl | he
  · rw [hone rfl, Nat.pow_zero, Nat.mul_one]
  · have hread := x.magnitude?_shortest
    rw [hshortest] at hread
    exact eq_of_magnitude? hx hn he hread

theorem text_shortest (hx : x.units = n * unitsPerOne) (hn : n ≤ exactLimit) (h0 : n ≠ 0) :
    x.shortest.text = toString n := by
  obtain ⟨c, e, hshortest, rfl⟩ := exists_shortest_eq hx hn h0
  rw [hshortest, Decimal.text_natCast]

end Magnitude

namespace Binary64

theorem toString_signFactor_mul (s : Bool) {n : Nat} (h : n ≠ 0) :
    toString (signFactor s * n) = signText s ++ toString n := by
  obtain ⟨k, rfl⟩ := Nat.exists_eq_succ_of_ne_zero h
  cases s with
  | false =>
      rw [signFactor_false, Int.one_mul]
      rfl
  | true =>
      rw [signFactor_true, Int.neg_one_mul]
      rfl

theorem answerText_integer (s : Bool) {m : Magnitude} {n : Nat}
    (h : m.units = n * unitsPerOne) : (finite s m).answerText =
      if n < 10 ^ 15 then signText (s && n != 0) ++ toString n
      else signText s ++ m.shortest.text := by
  have hpos := unitsPerOne_pos
  have hintegral : m.isIntegral = true := by
    rw [Magnitude.isIntegral, h, Nat.mul_mod_left, beq_iff_eq]
  have hbelow : m.units < 10 ^ 15 * unitsPerOne ↔ n < 10 ^ 15 := by
    rw [h, Nat.mul_lt_mul_right hpos]
  have hdiv : m.units / unitsPerOne = n := by rw [h, Nat.mul_div_cancel _ hpos]
  simp only [answerText, hintegral, hbelow, hdiv, Bool.true_and, decide_eq_true_eq]

/-- A small integer is answered with its own text. -/
theorem answerText_of_denotes {v : Binary64} {z : Int} (h : v.Denotes z)
    (hz : z.natAbs ≤ exactLimit) : v.answerText = toString z := by
  obtain ⟨s, m, rfl, hm⟩ := h
  have hunits := Magnitude.units_of_signed_eq hm
  have hsign : z = signFactor s * z.natAbs := by
    have hone : (unitsPerOne : Int) ≠ 0 := by
      have hpos := unitsPerOne_pos
      omega
    refine Int.eq_of_mul_eq_mul_right hone ?_
    rw [← hm, Magnitude.signed_eq, hunits, Int.mul_assoc, Nat.cast_mul]
  generalize z.natAbs = n at hz hunits hsign
  rw [answerText_integer s hunits]
  by_cases h0 : n = 0
  · rw [hsign, h0, if_pos (by decide), Nat.cast_zero, Int.mul_zero, bne_self_eq_false,
      Bool.and_false]
    rfl
  · have hne : (n != 0) = true := by simpa using h0
    rw [hsign, toString_signFactor_mul s h0, Magnitude.text_shortest hunits hz h0, hne,
      Bool.and_true, ite_self]

end Binary64

end Calculator
