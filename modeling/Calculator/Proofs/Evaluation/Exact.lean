import Calculator.Grammar
import Calculator.Proofs.Binary64.Integer
import Mathlib.Algebra.Order.Field.Rat

/-!
# Exact evaluation

A tree is evaluated in rational numbers, from left to right, as long as every number and every
result is an integer of magnitude at most `2 ^ 53` and no divisor is zero. So far the rounded
evaluation goes the same way: its values are these integers, and it stops at the same divisor.
-/

namespace Calculator

/-- Why a tree is not evaluated exactly. -/
inductive Inexact where
  | zeroDivisor
  /-- A fraction, or an integer of a magnitude above `2 ^ 53`. -/
  | notSmall
  deriving DecidableEq

def smallInteger (q : ℚ) : Except Inexact ℤ :=
  if q.den = 1 ∧ q.num.natAbs ≤ exactLimit then .ok q.num else .error .notSmall

def SumOp.rational : SumOp → ℚ → ℚ → ℚ
  | add, a, b => a + b
  | sub, a, b => a - b

def ProductOp.rational : ProductOp → ℚ → ℚ → Except Inexact ℚ
  | mul, a, b => .ok (a * b)
  | div, a, b => if b = 0 then .error .zeroDivisor else .ok (a / b)

namespace Grammar

mutual

/-- The integer that the tree comes to, or what keeps it from being one on the way from left to
right. -/
def Expr.exact : Expr → Except Inexact ℤ
  | .term t => t.exact
  | .sum e op t => do
    let a ← e.exact
    let b ← t.exact
    smallInteger (op.rational a b)

def Term.exact : Term → Except Inexact ℤ
  | .factor f => f.exact
  | .product t op f => do
    let a ← t.exact
    let b ← f.exact
    let q ← op.rational a b
    smallInteger q

def Factor.exact : Factor → Except Inexact ℤ
  | .number digits => smallInteger (digitsValue digits.toList)
  | .group e => e.exact

end

end Grammar

/-- What the rounded evaluation comes to, by what the exact one does. -/
inductive Follows : Except Inexact ℤ → Except EvalError Binary64 → Prop where
  | value {z : ℤ} {x : Binary64} (hz : z.natAbs ≤ exactLimit) (hx : x.Denotes z) :
      Follows (.ok z) (.ok x)
  | zeroDivisor : Follows (.error .zeroDivisor) (.error .divisionByZero)
  | notSmall (r : Except EvalError Binary64) : Follows (.error .notSmall) r

namespace Follows

theorem bind {r : Except Inexact ℤ} {v : Except EvalError Binary64}
    {f : ℤ → Except Inexact ℤ} {g : Binary64 → Except EvalError Binary64} (h : Follows r v)
    (hfg : ∀ z x, x.Denotes z → Follows (f z) (g x)) : Follows (r >>= f) (v >>= g) := by
  cases h with
  | value _ hx => exact hfg _ _ hx
  | zeroDivisor => exact .zeroDivisor
  | notSmall r => exact .notSmall _

/-- Where the exact result is a small integer, the rounded one has to be it. -/
theorem of_smallInteger {q : ℚ} {v : Except EvalError Binary64}
    (h : ∀ z : ℤ, q = z → z.natAbs ≤ exactLimit → ∃ x, v = .ok x ∧ x.Denotes z) :
    Follows (smallInteger q) v := by
  rw [smallInteger]
  split
  · next hq =>
    obtain ⟨x, rfl, hx⟩ := h q.num (Rat.coe_int_num_of_den_eq_one hq.1).symm hq.2
    exact .value hq.2 hx
  · exact .notSmall v

variable {x y : Binary64} {a b : ℤ}

theorem sum (hx : x.Denotes a) (hy : y.Denotes b) (op : SumOp) :
    Follows (smallInteger (op.rational a b)) (.ok (op.apply x y)) := by
  refine of_smallInteger fun z hq hz => ⟨_, rfl, ?_⟩
  cases op with
  | add =>
      rw [SumOp.rational] at hq
      obtain rfl : a + b = z := by exact_mod_cast hq
      exact Binary64.denotes_add hx hy hz
  | sub =>
      rw [SumOp.rational] at hq
      obtain rfl : a - b = z := by exact_mod_cast hq
      exact Binary64.denotes_sub hx hy hz

theorem product (hx : x.Denotes a) (hy : y.Denotes b) (op : ProductOp) :
    Follows (op.rational a b >>= smallInteger) (op.apply x y) := by
  cases op with
  | mul =>
      refine of_smallInteger fun z hq hz => ⟨_, rfl, ?_⟩
      obtain rfl : a * b = z := by exact_mod_cast hq
      exact Binary64.denotes_mul hx hy hz
  | div =>
      have hzero := Binary64.isZero_of_denotes hy
      rw [ProductOp.rational, ProductOp.apply]
      by_cases hb : b = 0
      · rw [if_pos (by exact_mod_cast hb), if_pos (hzero.mpr hb)]
        exact .zeroDivisor
      · rw [if_neg (by exact_mod_cast hb), if_neg fun h => hb (hzero.mp h)]
        refine of_smallInteger fun z hq hz => ⟨_, rfl, ?_⟩
        have hb' : (b : ℚ) ≠ 0 := by exact_mod_cast hb
        obtain rfl : a = z * b := by
          rw [div_eq_iff hb'] at hq
          exact_mod_cast hq
        exact Binary64.denotes_div hx hy hb hz

theorem literal (digits : String) :
    Follows (smallInteger (digitsValue digits.toList)) (literalValue digits) := by
  refine of_smallInteger fun z hq hz => ?_
  obtain rfl : ((digitsValue digits.toList : ℕ) : ℤ) = z := by exact_mod_cast hq
  rw [Int.natAbs_natCast] at hz
  have hx := Binary64.denotes_ofNat hz
  refine ⟨_, ?_, hx⟩
  obtain ⟨s, m, hfinite, -⟩ := hx
  rw [literalValue, if_pos (Binary64.isFinite_iff.mpr ⟨s, m, hfinite⟩)]

end Follows

namespace Grammar

mutual

theorem Expr.follows (e : Expr) : Follows e.exact e.value := by
  cases e with
  | term t => exact t.follows
  | sum e op t => exact e.follows.bind fun a x hx => t.follows.bind fun b y hy => .sum hx hy op

theorem Term.follows (t : Term) : Follows t.exact t.value := by
  cases t with
  | factor f => exact f.follows
  | product t op f =>
      exact t.follows.bind fun a x hx => f.follows.bind fun b y hy => .product hx hy op

theorem Factor.follows (f : Factor) : Follows f.exact f.value := by
  cases f with
  | number digits => exact .literal digits
  | group e => exact e.follows

end

end Grammar

end Calculator
