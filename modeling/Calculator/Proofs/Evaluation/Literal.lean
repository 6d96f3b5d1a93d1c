import Calculator.Proofs.Binary64.Nearest
import Calculator.Proofs.Evaluation.Trees
import Calculator.Proofs.Scanner.Joining
import Calculator.Proofs.Text.Decimal

/-!
# Numbers of any length

A run of digits alone is an expression. What it comes to depends on nothing but the natural number
that it denotes: below the overflow limit it is the number of the format nearest to that, and from
the limit on it is too large. So zeros in front change nothing, and the order is kept.
-/

namespace Calculator

open Grammar

theorem digitsValue_toList_ofList (ds : List Char) :
    digitsValue (String.ofList ds).toList = numberOf ds := by
  rw [String.toList_ofList]
  rfl

namespace IsDigits

variable {ds : List Char}

theorem tokenize_eq (h : IsDigits ds) :
    tokenize (String.ofList ds) = .ok [⟨.number, String.ofList ds, 0⟩] := by
  have hend : ∀ c ∈ ([] : List Char).head?, c.isDigit = false := by simp
  have hlay : Layout 0 (ds ++ []) [⟨.number, String.ofList ds, 0⟩] _ :=
    Layout.munch (.number h.ne_nil h.isDigit hend) (.finish .nil)
  have hall : ds ++ [] = (String.ofList ds).toList := by
    rw [List.append_nil, String.toList_ofList]
  rw [hall] at hlay
  exact tokenize_of_layout hlay

theorem evaluate_eq (h : IsDigits ds) :
    evaluate (String.ofList ds) = literalValue (String.ofList ds) :=
  evaluate_eq_value (e := .term (.factor (.number (String.ofList ds)))) h.tokenize_eq rfl

theorem evaluate_of_le (h : IsDigits ds) (hle : overflowLimit ≤ numberOf ds) :
    evaluate (String.ofList ds) = .error (.numberTooLarge (String.ofList ds)) := by
  have hinfinite : ¬ (Binary64.infinite false).isFinite = true := Bool.false_ne_true
  rw [h.evaluate_eq, literalValue, digitsValue_toList_ofList, Binary64.ofNat_of_le hle]
  exact if_neg hinfinite

theorem exists_evaluate_eq (h : IsDigits ds) (hlt : numberOf ds < overflowLimit) :
    ∃ x, evaluate (String.ofList ds) = .ok (.finite false x) ∧ RoundsTo (numberOf ds) false x := by
  obtain ⟨x, hx, hround⟩ := Binary64.exists_ofNat_eq hlt
  refine ⟨x, ?_, hround⟩
  rw [h.evaluate_eq, literalValue_eq_ok_iff, digitsValue_toList_ofList, hx]
  exact ⟨rfl, rfl⟩

theorem evaluate_eq_error_iff (h : IsDigits ds) :
    evaluate (String.ofList ds) = .error (.numberTooLarge (String.ofList ds)) ↔
      overflowLimit ≤ numberOf ds := by
  refine ⟨fun herror => ?_, h.evaluate_of_le⟩
  by_contra hlt
  obtain ⟨x, hx, -⟩ := h.exists_evaluate_eq (Nat.not_le.mp hlt)
  rw [hx] at herror
  cases herror

theorem roundsTo_of_evaluate (h : IsDigits ds) {s : Bool} {x : Magnitude}
    (hx : evaluate (String.ofList ds) = .ok (.finite s x)) : RoundsTo (numberOf ds) s x := by
  have hlt : numberOf ds < overflowLimit := by
    by_contra hle
    rw [h.evaluate_of_le (Nat.not_lt.mp hle)] at hx
    cases hx
  obtain ⟨y, hy, hround⟩ := h.exists_evaluate_eq hlt
  rw [hx] at hy
  cases hy
  exact hround

/-- Zeros in front of a number change nothing but the text in an error. -/
theorem evaluate_zeros_append (h : IsDigits ds) (k : ℕ) (v : Binary64) :
    evaluate (String.ofList (List.replicate k '0' ++ ds)) = .ok v ↔
      evaluate (String.ofList ds) = .ok v := by
  rw [(h.zeros_append k).evaluate_eq, h.evaluate_eq, literalValue_eq_ok_iff, literalValue_eq_ok_iff,
    digitsValue_toList_ofList, digitsValue_toList_ofList, numberOf_zeros_append]

end IsDigits

/-- What a run of digits comes to, whatever its length. -/
structure ReadByNumber (ds : List Char) : Prop where
  /-- It is rejected by its number alone. -/
  tooLarge : evaluate (String.ofList ds) = .error (.numberTooLarge (String.ofList ds)) ↔
    overflowLimit ≤ numberOf ds
  nearest : numberOf ds < overflowLimit →
    ∃ x, evaluate (String.ofList ds) = .ok (.finite false x) ∧ RoundsTo (numberOf ds) false x
  zeros : ∀ k v, evaluate (String.ofList (List.replicate k '0' ++ ds)) = .ok v ↔
    evaluate (String.ofList ds) = .ok v
  /-- Of two numbers that are read, the larger is not read as less. -/
  monotone : ∀ es s t x y, IsDigits es → numberOf ds ≤ numberOf es →
    evaluate (String.ofList ds) = .ok (.finite s x) →
    evaluate (String.ofList es) = .ok (.finite t y) → x.value s ≤ y.value t

/-- Digits are read by the number that they denote. -/
theorem readByNumber_of_isDigits {ds : List Char} (h : IsDigits ds) : ReadByNumber ds where
  tooLarge := h.evaluate_eq_error_iff
  nearest := h.exists_evaluate_eq
  zeros := h.evaluate_zeros_append
  monotone _ _ _ _ _ hes hle hx hy := by
    apply RoundsTo.value_le ?_ (h.roundsTo_of_evaluate hx) (hes.roundsTo_of_evaluate hy)
    exact_mod_cast hle

/-- The border: the limit itself is too large, and the integer below it is not. -/
theorem readByNumber_overflowLimit :
    evaluate (String.ofList (Nat.toDigits 10 overflowLimit)) =
      .error (.numberTooLarge (String.ofList (Nat.toDigits 10 overflowLimit))) ∧
    ∃ x, evaluate (String.ofList (Nat.toDigits 10 (overflowLimit - 1))) =
      .ok (.finite false x) ∧ RoundsTo (overflowLimit - 1 : ℕ) false x := by
  have hlt : overflowLimit - 1 < overflowLimit := Nat.sub_lt (by decide +kernel) Nat.one_pos
  have habove := readByNumber_of_isDigits (.toDigits overflowLimit)
  have hbelow := readByNumber_of_isDigits (.toDigits (overflowLimit - 1))
  refine ⟨habove.tooLarge.mpr (numberOf_toDigits _).ge, ?_⟩
  have hnearest := hbelow.nearest
  rw [numberOf_toDigits] at hnearest
  exact hnearest hlt

end Calculator
