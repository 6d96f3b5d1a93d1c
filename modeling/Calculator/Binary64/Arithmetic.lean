import Calculator.Binary64.Basic

/-!
# Arithmetic

The four operations round the exact result once. A zero sum of operands of different signs is
positive, a product or quotient has the sign of both operands together, and what has no value
(`∞ - ∞`, `0 * ∞`, `0 / 0`, `∞ / ∞`) is `nan`.
-/

namespace Calculator

/-- A signed number of units. -/
def Magnitude.signed (negative : Bool) (x : Magnitude) : Int :=
  if negative then -(x.units : Int) else x.units

namespace Binary64

def neg : Binary64 → Binary64
  | .finite s m => .finite (!s) m
  | .infinite s => .infinite (!s)
  | .nan => .nan

/-- The number nearest a signed whole number of units; `negativeZero` is the sign of a zero. -/
def ofUnits (z : Int) (negativeZero : Bool) : Binary64 :=
  if z = 0 then .finite negativeZero .zero
  else ofRatio (decide (z < 0)) z.natAbs 1

def add : Binary64 → Binary64 → Binary64
  | .finite s m, .finite t n => ofUnits (m.signed s + n.signed t) (s && t)
  | .finite _ _, .infinite t => .infinite t
  | .infinite s, .finite _ _ => .infinite s
  | .infinite s, .infinite t => if s = t then .infinite s else .nan
  | .nan, _ => .nan
  | _, .nan => .nan

def sub (x y : Binary64) : Binary64 := x.add y.neg

def mul : Binary64 → Binary64 → Binary64
  | .finite s m, .finite t n => ofRatio (s ^^ t) (m.units * n.units) unitsPerOne
  | .finite s m, .infinite t => if m.significand = 0 then .nan else .infinite (s ^^ t)
  | .infinite s, .finite t n => if n.significand = 0 then .nan else .infinite (s ^^ t)
  | .infinite s, .infinite t => .infinite (s ^^ t)
  | .nan, _ => .nan
  | _, .nan => .nan

def div : Binary64 → Binary64 → Binary64
  | .finite s m, .finite t n =>
    if n.significand = 0 then
      if m.significand = 0 then .nan else .infinite (s ^^ t)
    else ofRatio (s ^^ t) (m.units * unitsPerOne) n.units
  | .finite s _, .infinite t => .finite (s ^^ t) .zero
  | .infinite s, .finite t _ => .infinite (s ^^ t)
  | .infinite _, .infinite _ => .nan
  | .nan, _ => .nan
  | _, .nan => .nan

instance : Neg Binary64 := ⟨neg⟩
instance : Add Binary64 := ⟨add⟩
instance : Sub Binary64 := ⟨sub⟩
instance : Mul Binary64 := ⟨mul⟩
instance : Div Binary64 := ⟨div⟩

end Binary64

end Calculator
