/-!
# Blank space

The characters with the Unicode property White_Space, and what lies between the blank ends of a
text.
-/

namespace Calculator.Text

/-- The 25 characters with the property White_Space. -/
def isBlank (c : Char) : Bool :=
  let n := c.toNat
  (0x9 ≤ n && n ≤ 0xd) || n == 0x20 || n == 0x85 || n == 0xa0 || n == 0x1680 ||
    (0x2000 ≤ n && n ≤ 0x200a) || n == 0x2028 || n == 0x2029 || n == 0x202f || n == 0x205f ||
    n == 0x3000

theorem isBlank_of_isWhitespace {c : Char} (h : c.isWhitespace = true) : isBlank c = true := by
  simp only [Char.isWhitespace, Bool.or_eq_true, decide_eq_true_eq] at h
  rcases h with ((rfl | rfl) | rfl) | rfl <;> decide

/-- The text without its blank ends. -/
def trim (cs : List Char) : List Char :=
  ((cs.dropWhile isBlank).reverse.dropWhile isBlank).reverse

@[simp] theorem trim_nil : trim [] = [] := rfl

/-- Equality up to the case of the letters `a` to `z`. -/
def sameIgnoringCase (s t : List Char) : Bool :=
  s.map Char.toLower == t.map Char.toLower

theorem sameIgnoringCase_iff {s t : List Char} :
    sameIgnoringCase s t = true ↔ s.map Char.toLower = t.map Char.toLower := by
  simp [sameIgnoringCase]

end Calculator.Text
