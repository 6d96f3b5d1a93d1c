import Calculator.Text.CategoryTable

/-!
# Characters of words

The characters that words are made of: letters, the marks on them, digits, and what joins them.
-/

namespace Calculator.Text

/-- Letters in circles and squares, which are symbols by category. -/
def framedLetters : List (Nat × Nat) :=
  [(0x24b6, 0x24e9), (0x1f130, 0x1f149), (0x1f150, 0x1f169), (0x1f170, 0x1f189)]

def isWordChar (c : Char) : Bool :=
  match category c with
  | .lu | .ll | .lt | .lm | .lo | .mn | .mc | .me | .nd | .nl | .pc => true
  | .so => framedLetters.any fun r => r.1 ≤ c.toNat && c.toNat ≤ r.2
  | _ => c.toNat == 0x200c || c.toNat == 0x200d

/-- A decimal digit of any script. -/
def isDecimalDigit (c : Char) : Bool := category c == .nd

/-- A word character among the first 128 characters. -/
def isAsciiWordChar (c : Char) : Bool := c.isAlphanum || c == '_'

end Calculator.Text
