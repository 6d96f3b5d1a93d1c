import Calculator.Text.Blank
import Calculator.Text.CaseFold
import Calculator.Text.Word

/-!
# Sets of characters

The sets that a pattern can name. A set is written down as it was built and asked for its
members one at a time.
-/

namespace Calculator

inductive CharSet where
  | empty
  | range (first last : Char)
  | digit
  | blank
  | word
  /-- The characters of a general category. -/
  | category (c : Text.Category)
  | compl (s : CharSet)
  | union (s t : CharSet)
  | inter (s t : CharSet)
  /-- The members in either case; the cases of `a` to `z` only, if told so. -/
  | anyCase (asciiOnly : Bool) (s : CharSet)
  deriving DecidableEq

namespace CharSet

def contains : CharSet → Char → Bool
  | empty, _ => false
  | range first last, c => first ≤ c && c ≤ last
  | digit, c => Text.isDecimalDigit c
  | blank, c => Text.isBlank c
  | word, c => Text.isWordChar c
  | category k, c => Text.category c == k
  | compl s, c => !s.contains c
  | union s t, c => s.contains c || t.contains c
  | inter s t, c => s.contains c && t.contains c
  | anyCase asciiOnly s, c =>
    (if asciiOnly then Text.asciiCaseVariants c else Text.caseVariants c).any fun d => s.contains d

def single (c : Char) : CharSet := .range c c

def all : CharSet := .compl .empty

def diff (s t : CharSet) : CharSet := s.inter t.compl

/-- What is in one of the two only. -/
def symmDiff (s t : CharSet) : CharSet := (s.diff t).union (t.diff s)

def ofList (cs : List Char) : CharSet := cs.foldl (fun s c => s.union (single c)) .empty

/-- The union of some ranges. -/
def ofRanges (rs : List (Char × Char)) : CharSet :=
  rs.foldl (fun s r => s.union (.range r.1 r.2)) .empty

def ofCategories (cs : List Text.Category) : CharSet :=
  cs.foldl (fun s c => s.union (.category c)) .empty

/-- Has the set a member among the characters from 128 to 255? -/
def hasHighByte (s : CharSet) : Bool :=
  (List.range 128).any fun n => s.contains (Char.ofNat (128 + n))

theorem contains_all (c : Char) : all.contains c = true := rfl

theorem contains_single {c d : Char} : (single c).contains d = true ↔ d = c := by
  simp only [single, contains, Bool.and_eq_true, decide_eq_true_eq]
  constructor
  · rintro ⟨h, k⟩
    exact Char.le_antisymm k h
  · rintro rfl
    exact ⟨Char.le_refl d, Char.le_refl d⟩

end CharSet

end Calculator
