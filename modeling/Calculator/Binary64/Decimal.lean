import Calculator.Binary64.Basic

/-!
# Decimal text

The shortest decimal of a magnitude: the coarsest power of ten of which some multiple next to the
magnitude reads back as it, and of two such multiples the nearer one, a tie going up. It is
written positionally, never with an exponent.
-/

namespace Calculator

/-- The decimal `coefficient * 10 ^ exponent`. -/
structure Decimal where
  coefficient : Nat
  exponent : Int
  deriving DecidableEq

namespace Decimal

/-- The magnitude that the decimal reads as. -/
def magnitude? (d : Decimal) : Option Magnitude :=
  if 0 ≤ d.exponent then
    Magnitude.nearest? (d.coefficient * 10 ^ d.exponent.toNat * unitsPerOne) 1
  else
    Magnitude.nearest? (d.coefficient * unitsPerOne) (10 ^ (-d.exponent).toNat)

/-- The digits of the coefficient with the point in its place and no needless zeros before it. -/
def text (d : Decimal) : String :=
  if d.coefficient = 0 then "0"
  else
    let digits := Nat.toDigits 10 d.coefficient
    if 0 ≤ d.exponent then
      String.ofList (digits ++ List.replicate d.exponent.toNat '0')
    else
      let places := (-d.exponent).toNat
      if places < digits.length then
        String.ofList (digits.take (digits.length - places) ++
          '.' :: digits.drop (digits.length - places))
      else
        String.ofList ('0' :: '.' :: List.replicate (places - digits.length) '0' ++ digits)

end Decimal

namespace Magnitude

/-- `x / 10 ^ e` as a quotient of natural numbers. -/
def overPowerOfTen (x : Magnitude) (e : Int) : Nat × Nat :=
  if 0 ≤ e then (x.units, 10 ^ e.toNat * unitsPerOne)
  else (x.units * 10 ^ (-e).toNat, unitsPerOne)

/-- The multiple of `10 ^ e` next to `x` that reads back as `x`: of two the nearer, a tie going
up. -/
def decimalOn? (x : Magnitude) (e : Int) : Option Decimal :=
  let (n, d) := x.overPowerOfTen e
  let below : Decimal := ⟨n / d, e⟩
  let above : Decimal := ⟨n / d + 1, e⟩
  if below.magnitude? = some x then
    if above.magnitude? = some x ∧ d ≤ 2 * (n % d) then some above else some below
  else if above.magnitude? = some x then some above
  else none

/-- The first hit on the powers `10 ^ (k - 1074)`, …, `10 ^ -1073`; on `10 ^ -1074` every
magnitude is exact. -/
def decimalFrom (x : Magnitude) : Nat → Decimal
  | 0 => ⟨x.units * 5 ^ 1074, -1074⟩
  | k + 1 =>
    match x.decimalOn? ((k : Int) - 1073) with
    | some d => d
    | none => x.decimalFrom k

/-- An exponent of ten whose power is at least `2 ^ k`, as ten lies between `2 ^ 3` and
`2 ^ 4`. -/
def tensAbove (k : Int) : Int := if 0 ≤ k then (k + 2) / 3 else -(-k / 4)

/-- The shortest decimal that reads back as `x`. From a power of ten above twice the magnitude on
no multiple does. -/
def shortest (x : Magnitude) : Decimal :=
  x.decimalFrom (tensAbove (x.units.log2 + 2 - 1074) + 1073).toNat

/-- A whole number, not only of units. -/
def isIntegral (x : Magnitude) : Bool := x.units % unitsPerOne == 0

end Magnitude

namespace Binary64

def signText (negative : Bool) : String := if negative then "-" else ""

/-- The text of a value in a log message. -/
def plainText : Binary64 → String
  | .finite s m => signText s ++ m.shortest.text
  | .infinite s => signText s ++ "inf"
  | .nan => "NaN"

/-- The text of an answer. Whole numbers below `10 ^ 15` are written as integers, so zero has no
sign. -/
def answerText : Binary64 → String
  | .finite s m =>
    if m.isIntegral && m.units < 10 ^ 15 * unitsPerOne then
      let n := m.units / unitsPerOne
      signText (s && n != 0) ++ toString n
    else signText s ++ m.shortest.text
  | .infinite s => signText s ++ "Infinity"
  | .nan => "NaN"

end Binary64

end Calculator
