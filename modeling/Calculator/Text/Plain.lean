/-!
# Text without control sequences

What is left of a line when it is written where no terminal reads it: the control characters
are gone, except those that are white space, and an escape character takes with it the
characters of its sequence.
-/

namespace Calculator.Text

/-- A control character that is neither a tab, a line feed, a form feed nor a carriage return. -/
def isControl (c : Char) : Bool :=
  (c.toNat < 0x20 && c != '\t' && c != '\n' && c != '\x0c' && c != '\r') || c == '\x7f'

mutual

/-- The text without control sequences. -/
def plain : List Char → List Char
  | [] => []
  | c :: cs =>
    if c = '\x1b' then afterEscape cs
    else if isControl c then plain cs
    else c :: plain cs

/-- The text after an escape character. The sequence goes on to the first character from `0` to
`~`, which ends it, unless white space or a character that cancels it comes before. The
sequences that have their end further on are those in which that character stands directly
behind the escape character; in a record it is always followed by the quote that closes it. -/
def afterEscape : List Char → List Char
  | [] => []
  | c :: cs =>
    if c = '\t' ∨ c = '\n' ∨ c = '\x0c' ∨ c = '\r' then c :: plain cs
    else if ('0' ≤ c ∧ c ≤ '~') ∨ c = '\x18' ∨ c = '\x1a' then plain cs
    else afterEscape cs

end

theorem plain_of_not_isControl {cs : List Char} (h : ∀ c ∈ cs, isControl c = false) :
    plain cs = cs := by
  induction cs with
  | nil => rfl
  | cons c cs ih =>
    have hc := h c List.mem_cons_self
    have he : c ≠ '\x1b' := by
      rintro rfl
      cases hc
    simp [plain, he, hc, ih fun d hd => h d (List.mem_cons_of_mem c hd)]

end Calculator.Text
