import Calculator.Binary64.Basic

/-!
# The interchange format

A number as a word of 64 bits: the sign, eleven bits of exponent, 52 bits of fraction. For a
finite number the last 63 bits are `exponent * 2 ^ 52 + significand`, since the leading bit of a
full significand carries into the exponent field.
-/

namespace Calculator

namespace Magnitude

/-- The magnitude with the given exponent field and fraction. -/
def ofFields (field fraction : Nat) (hfield : field < 2047) (hfraction : fraction < 2 ^ 52) :
    Magnitude :=
  if h : field = 0 then ⟨fraction, 0, by omega, by omega, .inr rfl⟩
  else ⟨2 ^ 52 + fraction, field - 1, by omega, by omega, .inl (by omega)⟩

theorem significand_ofFields {f r : Nat} (hf : f < 2047) (hr : r < 2 ^ 52) :
    (ofFields f r hf hr).significand = if f = 0 then r else 2 ^ 52 + r := by
  unfold ofFields
  split <;> rfl

theorem exponent_ofFields {f r : Nat} (hf : f < 2047) (hr : r < 2 ^ 52) :
    (ofFields f r hf hr).exponent = f - 1 := by
  unfold ofFields
  split
  · rename_i h
    simp [h]
  · rfl

end Magnitude

namespace Binary64

/-- The sign bit in its place. -/
def signBit (negative : Bool) : Nat := if negative then 2 ^ 63 else 0

def toWord : Binary64 → UInt64
  | .finite s m => .ofNat (signBit s + m.exponent * 2 ^ 52 + m.significand)
  | .infinite s => .ofNat (signBit s + 2047 * 2 ^ 52)
  | .nan => .ofNat (2047 * 2 ^ 52 + 2 ^ 51)

/-- All words with a full exponent field and a fraction denote the one `nan`. -/
def ofWord (w : UInt64) : Binary64 :=
  let negative := decide (2 ^ 63 ≤ w.toNat)
  let field := w.toNat / 2 ^ 52 % 2 ^ 11
  let fraction := w.toNat % 2 ^ 52
  if h : field < 2047 then
    .finite negative (.ofFields field fraction h (Nat.mod_lt _ (by decide)))
  else if fraction = 0 then .infinite negative
  else .nan

/-- Reading a word undoes writing it. -/
@[simp] theorem ofWord_toWord (x : Binary64) : ofWord x.toWord = x := by
  rcases x with ⟨s, m⟩ | s | _
  · have hm := m.significand_lt
    have he := m.exponent_le
    have hn := m.normal
    have hw : (toWord (.finite s m)).toNat =
        signBit s + m.exponent * 2 ^ 52 + m.significand := by
      rw [toWord, UInt64.toNat_ofNat_of_lt']
      cases s <;> simp only [signBit, Bool.false_eq_true, ↓reduceIte, UInt64.size] <;> omega
    have hs : decide (2 ^ 63 ≤ (toWord (.finite s m)).toNat) = s := by
      rw [hw]
      cases s <;> simp only [signBit, Bool.false_eq_true, ↓reduceIte, decide_eq_true_eq,
        decide_eq_false_iff_not] <;> omega
    have hf : (toWord (.finite s m)).toNat / 2 ^ 52 % 2 ^ 11 =
        m.exponent + m.significand / 2 ^ 52 := by
      rw [hw]
      cases s <;> simp only [signBit, Bool.false_eq_true, ↓reduceIte] <;> omega
    have hr : (toWord (.finite s m)).toNat % 2 ^ 52 = m.significand % 2 ^ 52 := by
      rw [hw]
      cases s <;> simp only [signBit, Bool.false_eq_true, ↓reduceIte] <;> omega
    unfold ofWord
    simp only [hs]
    rw [dif_pos (by omega)]
    congr 1
    ext
    · rw [Magnitude.significand_ofFields]
      split <;> omega
    · rw [Magnitude.exponent_ofFields]
      omega
  · cases s <;> decide
  · decide

end Binary64

end Calculator
