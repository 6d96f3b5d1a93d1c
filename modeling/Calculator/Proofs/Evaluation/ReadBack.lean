import Calculator.Proofs.Binary64.IntegerText
import Calculator.Proofs.Evaluation.Literal

/-!
# Answers that read back

The answer of a finite number is a decimal in positional form that rounds to this number, written
without a point exactly for the integers. So different numbers have different answers, and the
answer of an integer is an expression for it.
-/

namespace Calculator

/-! ## Digits behind a point -/

theorem Decimal.exists_text_neg {c k : ℕ} (hc : 0 < c) (hk : 0 < k) :
    ∃ ds fs, IsDigits ds ∧ IsDigits fs ∧
      (Decimal.mk c (-k)).text = String.ofList (ds ++ '.' :: fs) ∧
      numberOf (ds ++ fs) = c ∧ fs.length = k := by
  have hneg : ¬ (0 : ℤ) ≤ -k := by omega
  have hdigits := IsDigits.toDigits c
  have hnumber := numberOf_toDigits c
  simp only [text, if_neg hc.ne', if_neg hneg, neg_neg, Int.toNat_natCast]
  generalize Nat.toDigits 10 c = cs at hdigits hnumber ⊢
  have hpos : 0 < cs.length := List.length_pos_iff.mpr hdigits.ne_nil
  -- the point stands between the digits, or in front of them all and of zeros
  by_cases hlen : k < cs.length
  · refine ⟨cs.take (cs.length - k), cs.drop (cs.length - k), ?_, ?_, if_pos hlen, ?_, ?_⟩
    · apply hdigits.of_subset
      · apply List.ne_nil_of_length_pos
        rw [List.length_take]
        omega
      · exact List.take_subset _ _
    · apply hdigits.of_subset
      · apply List.ne_nil_of_length_pos
        rw [List.length_drop]
        omega
      · exact List.drop_subset _ _
    · rw [List.take_append_drop, hnumber]
    · rw [List.length_drop]
      omega
  · have hzero : IsDigits ['0'] := .toDigits 0
    refine ⟨['0'], List.replicate (k - cs.length) '0' ++ cs, hzero, hdigits.zeros_append _,
      if_neg hlen, ?_, ?_⟩
    · have hnone : numberOf ['0'] = 0 := numberOf_zeros 1
      rw [numberOf_append, hnone, Nat.mul_zero, Nat.zero_add, numberOf_zeros_append, hnumber]
    · rw [List.length_append, List.length_replicate]
      omega

/-! ## What a decimal rounds to -/

namespace Magnitude

variable {x : Magnitude} {n c k : ℕ} (s : Bool)

theorem roundsTo_natCast (h : (Decimal.mk c k).magnitude? = some x) :
    RoundsTo (signFactor s * (c * 10 ^ k : ℕ)) s x := by
  rw [Decimal.magnitude?_natCast] at h
  have hround := roundsTo_of_nearest? s Nat.zero_lt_one h
  rwa [quotient_mul_unitsPerOne, Nat.cast_one, div_one] at hround

theorem roundsTo_neg (hk : 0 < k) (h : (Decimal.mk c (-k)).magnitude? = some x) :
    RoundsTo (signFactor s * (c / 10 ^ k)) s x := by
  rw [Decimal.magnitude?_neg hk] at h
  have hround := roundsTo_of_nearest? s (Nat.pow_pos (by decide)) h
  rwa [quotient_mul_unitsPerOne, Nat.cast_pow, Nat.cast_ofNat] at hround

end Magnitude

/-! ## The two ways of writing a number -/

namespace Binary64

variable {m : Magnitude} {n : ℕ} (s : Bool)

theorem eq_false_of_nonneg {s : Bool} (h0 : n ≠ 0) (h : (0 : ℚ) ≤ signFactor s * n) :
    s = false := by
  cases s with
  | false => rfl
  | true =>
      have hpos : (0 : ℚ) < n := by exact_mod_cast Nat.pos_of_ne_zero h0
      rw [signFactor_true, Int.cast_neg, Int.cast_one, neg_one_mul] at h
      exact absurd (neg_nonneg.mp h) hpos.not_ge

/-- An integer is written with digits alone, on both sides of `10 ^ 15`. -/
theorem exists_answerText_integer (h : m.units = n * unitsPerOne) :
    ∃ t ds, IsDigits ds ∧ (finite s m).answerText = signText t ++ String.ofList ds ∧
      RoundsTo (signFactor t * numberOf ds) s m ∧ (0 ≤ m.value s → t = false) := by
  have hvalue := m.value_of_units s h
  rw [answerText_integer s h]
  -- below the border the integer itself is written, from there on the shortest decimal
  by_cases hn : n < 10 ^ 15
  · have hsign : m.value s = signFactor (s && n != 0) * n := by
      rw [hvalue]
      by_cases h0 : n = 0
      · rw [h0, Nat.cast_zero, mul_zero, mul_zero]
      · rw [bne_iff_ne.mpr h0, Bool.and_true]
    refine ⟨s && n != 0, _, .toDigits n, ?_, ?_, fun hnonneg => ?_⟩
    · rw [if_pos hn, Nat.toString_eq_ofList_toDigits]
    · rw [numberOf_toDigits, ← hsign]
      exact m.roundsTo_self s
    · rw [hvalue] at hnonneg
      by_cases h0 : n = 0
      · rw [h0, bne_self_eq_false, Bool.and_false]
      · rw [eq_false_of_nonneg h0 hnonneg, Bool.false_and]
  · have h0 : n ≠ 0 := fun h0 => hn (by rw [h0]; decide)
    obtain ⟨c, e, hshortest, -⟩ := Magnitude.exists_shortest_natCast h h0
    have hread := m.magnitude?_shortest
    rw [hshortest] at hread
    refine ⟨s, _, .toDigits (c * 10 ^ e), ?_, ?_, fun hnonneg => ?_⟩
    · rw [if_neg hn, hshortest, Decimal.text_natCast, Nat.toString_eq_ofList_toDigits]
    · rw [numberOf_toDigits]
      exact Magnitude.roundsTo_natCast s hread
    · rw [hvalue] at hnonneg
      exact eq_false_of_nonneg h0 hnonneg

/-- Every other number is written with a point. -/
theorem exists_answerText_fraction (h : ¬ unitsPerOne ∣ m.units) :
    ∃ ds fs, IsDigits ds ∧ IsDigits fs ∧
      (finite s m).answerText = signText s ++ String.ofList (ds ++ '.' :: fs) ∧
      RoundsTo (signFactor s * (numberOf ds + numberOf fs / 10 ^ fs.length)) s m := by
  have hintegral : m.isIntegral = false := by
    rw [Magnitude.isIntegral, ← Bool.not_eq_true, beq_iff_eq]
    exact fun h0 => h (Nat.dvd_of_mod_eq_zero h0)
  obtain ⟨c, k, hc, hk, hshortest⟩ := Magnitude.exists_shortest_neg h
  have hread := m.magnitude?_shortest
  rw [hshortest] at hread
  have hround := Magnitude.roundsTo_neg s hk hread
  obtain ⟨ds, fs, hds, hfs, htext, hnumber, rfl⟩ := Decimal.exists_text_neg hc hk
  refine ⟨ds, fs, hds, hfs, ?_, ?_⟩
  · rw [answerText, hintegral, hshortest, htext, Bool.false_and, if_neg Bool.false_ne_true]
  · have hpos : (10 : ℚ) ^ fs.length ≠ 0 := by positivity
    have hsum : (c / 10 ^ fs.length : ℚ) = numberOf ds + numberOf fs / 10 ^ fs.length := by
      rw [← hnumber, numberOf_append, div_eq_iff hpos, add_mul, div_mul_cancel₀ _ hpos]
      push_cast
      ring
    rwa [hsum] at hround

end Binary64

theorem PlainDecimal.signText {cs : List Char} {q : ℚ} (s : Bool) (h : UnsignedDecimal cs q) :
    PlainDecimal (Binary64.signText s ++ String.ofList cs).toList (signFactor s * q) := by
  rw [String.toList_append, String.toList_ofList]
  cases s with
  | false =>
      rw [signFactor_false, Int.cast_one, one_mul]
      exact .unsigned h
  | true =>
      rw [signFactor_true, Int.cast_neg, Int.cast_one, neg_one_mul]
      exact .negative h

theorem Binary64.zero_answerText (s : Bool) : (finite s .zero).answerText = "0" := by
  have hzero : Magnitude.zero.units = 0 * unitsPerOne := by
    rw [Magnitude.units_zero, Nat.zero_mul]
  rw [answerText_integer s hzero, if_pos (by decide), bne_self_eq_false, Bool.and_false]
  rfl

/-- What the answer of a finite number says of it. -/
structure ReadsBack (s : Bool) (m : Magnitude) (text : String) : Prop where
  plain : ∃ q, PlainDecimal text.toList q
  nearest : ∀ q, PlainDecimal text.toList q → RoundsTo q s m
  zero : m = .zero → text = "0"
  point : '.' ∉ text.toList ↔ ∃ z : ℤ, m.value s = z
  /-- Only the same number has the same answer. -/
  value : ∀ t y, (Binary64.finite t y).answerText = text → y.value t = m.value s
  special : ∀ v : Binary64, v.isFinite = false → v.answerText ≠ text
  /-- The answer of an integer that is not negative is an expression for it. -/
  integer : ∀ n : ℕ, m.value s = n →
    ∃ t y, evaluate text = .ok (.finite t y) ∧ y.value t = m.value s

namespace Binary64

variable (s : Bool) (m : Magnitude)

theorem exists_plainDecimal : ∃ q, PlainDecimal (finite s m).answerText.toList q ∧
    RoundsTo q s m ∧ ('.' ∉ (finite s m).answerText.toList ↔ unitsPerOne ∣ m.units) := by
  have hsign (t : Bool) : '.' ∉ (signText t).toList := by cases t <;> decide
  by_cases h : unitsPerOne ∣ m.units
  · obtain ⟨n, hn⟩ := h
    obtain ⟨t, ds, hds, htext, hround, -⟩ :=
      exists_answerText_integer s (hn.trans (Nat.mul_comm _ _))
    rw [htext]
    refine ⟨_, .signText t (.whole hds), hround, iff_of_true ?_ ⟨n, hn⟩⟩
    rw [String.toList_append, String.toList_ofList, List.mem_append]
    exact not_or_intro (hsign t) hds.point_not_mem
  · obtain ⟨ds, fs, hds, hfs, htext, hround⟩ := exists_answerText_fraction s h
    rw [htext]
    refine ⟨_, .signText s (.fraction hds hfs), hround, iff_of_false ?_ h⟩
    rw [String.toList_append, String.toList_ofList, not_not, List.mem_append]
    exact .inr (List.mem_append_right _ List.mem_cons_self)

theorem roundsTo_of_plainDecimal {s : Bool} {m : Magnitude} {q : ℚ}
    (h : PlainDecimal (finite s m).answerText.toList q) : RoundsTo q s m := by
  obtain ⟨r, hr, hround, -⟩ := exists_plainDecimal s m
  rwa [h.unique hr]

/-- The answers of infinities and of `nan` have letters in them. -/
theorem not_plainDecimal {v : Binary64} (hv : v.isFinite = false) (q : ℚ) :
    ¬ PlainDecimal v.answerText.toList q := by
  intro h
  have hletter : ∃ c ∈ v.answerText.toList, c.isDigit = false ∧ c ≠ '.' ∧ c ≠ '-' := by
    cases v with
    | finite => cases hv
    | infinite t => cases t <;> exact ⟨'I', by decide, by decide⟩
    | nan => exact ⟨'N', by decide, by decide⟩
  obtain ⟨c, hc, hdigit, hpoint, hminus⟩ := hletter
  rcases h.mem hc with h | h | h
  · rw [hdigit] at h
    cases h
  · exact hpoint h
  · exact hminus h

theorem exists_evaluate_answerText {n : ℕ} (hn : m.value s = n) :
    ∃ t y, evaluate (finite s m).answerText = .ok (.finite t y) ∧ y.value t = m.value s := by
  obtain ⟨k, hk⟩ := (Magnitude.unitsPerOne_dvd_iff s).mpr ⟨n, by rw [hn, Int.cast_natCast]⟩
  obtain ⟨t, ds, hds, htext, hround, hsign⟩ :=
    exists_answerText_integer s (hk.trans (Nat.mul_comm _ _))
  have hnonneg : 0 ≤ m.value s := by
    rw [hn]
    exact Nat.cast_nonneg n
  rw [hsign hnonneg, signFactor_false, Int.cast_one, one_mul] at hround
  have hlt : numberOf ds < overflowLimit := by
    have hrange := hround.inRange
    rw [Nat.abs_cast] at hrange
    exact_mod_cast hrange
  obtain ⟨y, hy, hround'⟩ := hds.exists_evaluate_eq hlt
  have hempty : signText false = "" := rfl
  refine ⟨false, y, ?_, hround'.value_eq hround⟩
  rw [htext, hsign hnonneg, hempty, String.empty_append, hy]

/-- The answer of every finite number reads back as this number. -/
theorem readsBack_answerText : ReadsBack s m (finite s m).answerText where
  plain := by
    obtain ⟨q, hq, -, -⟩ := exists_plainDecimal s m
    exact ⟨q, hq⟩
  nearest _ hq := roundsTo_of_plainDecimal hq
  zero h := by rw [h, zero_answerText]
  point := by
    obtain ⟨-, -, -, hpoint⟩ := exists_plainDecimal s m
    rw [hpoint, Magnitude.unitsPerOne_dvd_iff s]
  value t y h := by
    obtain ⟨q, hq, hround, -⟩ := exists_plainDecimal s m
    rw [← h] at hq
    exact (roundsTo_of_plainDecimal hq).value_eq hround
  special v hv h := by
    obtain ⟨q, hq, -, -⟩ := exists_plainDecimal s m
    rw [← h] at hq
    exact not_plainDecimal hv q hq
  integer n hn := exists_evaluate_answerText s m hn

end Binary64

end Calculator
