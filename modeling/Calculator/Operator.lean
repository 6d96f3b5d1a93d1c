import Calculator.Binary64.Arithmetic
import Calculator.EvalError

/-!
# Numbers and operators of expressions

What a digit run means, and what each operator does to two values. A number must be finite; no
value is divided by either zero; infinities are ordinary results.
-/

namespace Calculator

/-- The natural number that a run of digits denotes. -/
def digitsValue (cs : List Char) : Nat := cs.foldl (fun n c => 10 * n + (c.toNat - '0'.toNat)) 0

/-- The value of a digit run, rounded once however long the run is. -/
def literalValue (text : String) : Except EvalError Binary64 :=
  let x := Binary64.ofNat (digitsValue text.toList)
  if x.isFinite then .ok x else .error (.numberTooLarge text)

/-- The operators of sums. -/
inductive SumOp where
  | add
  | sub
  deriving DecidableEq

/-- The operators of products. -/
inductive ProductOp where
  | mul
  | div
  deriving DecidableEq

def SumOp.apply : SumOp → Binary64 → Binary64 → Binary64
  | add, x, y => x + y
  | sub, x, y => x - y

def ProductOp.apply : ProductOp → Binary64 → Binary64 → Except EvalError Binary64
  | mul, x, y => .ok (x * y)
  | div, x, y => if y.isZero then .error .divisionByZero else .ok (x / y)

end Calculator
