import Calculator.Pattern.Fault
import Calculator.Text.Blank

/-!
# Reading a written pattern

A reader stands somewhere in the text of a pattern. It knows the modes in force there; in one of
them blank space and comments between the parts of a pattern do not count.
-/

namespace Calculator.Pattern

/-- What a pattern can switch on and off inside itself. -/
inductive Flag where
  | anyCase
  | multiLine
  | dotAll
  /-- Which of several matches is preferred, of no effect on whether there is one. -/
  | swapGreed
  | unicode
  | carriageReturns
  | spaced
  deriving DecidableEq

def Flag.ofLetter? : Char → Option Flag
  | 'i' => some .anyCase
  | 'm' => some .multiLine
  | 's' => some .dotAll
  | 'U' => some .swapGreed
  | 'u' => some .unicode
  | 'R' => some .carriageReturns
  | 'x' => some .spaced
  | _ => none

structure Modes where
  anyCase : Bool
  multiLine : Bool
  dotAll : Bool
  unicode : Bool
  carriageReturns : Bool
  spaced : Bool
  deriving DecidableEq

namespace Modes

def initial : Modes := ⟨false, false, false, true, false, false⟩

def set (m : Modes) (value : Bool) : Flag → Modes
  | .anyCase => { m with anyCase := value }
  | .multiLine => { m with multiLine := value }
  | .dotAll => { m with dotAll := value }
  | .swapGreed => m
  | .unicode => { m with unicode := value }
  | .carriageReturns => { m with carriageReturns := value }
  | .spaced => { m with spaced := value }

end Modes

structure Reader where
  rest : List Char
  offset : Nat
  modes : Modes
  deriving DecidableEq

namespace Reader

def ofList (pattern : List Char) : Reader := ⟨pattern, 0, .initial⟩

/-- The place of the reader as a span without characters. -/
def here (r : Reader) : Span := ⟨r.offset, r.offset⟩

def ahead (r : Reader) : Span := ⟨r.offset, r.offset + 1⟩

def since (r : Reader) (start : Nat) : Span := ⟨start, r.offset⟩

def fail {α : Type} (cause : Cause) (span : Span) : Except Fault α := .error ⟨cause, span, none⟩

def skip (n : Nat) (r : Reader) : Reader := { r with rest := r.rest.drop n, offset := r.offset + n }

/-- How much blank space and comments, which go from `#` to the end of the line, come first. -/
def spaceLength (inComment : Bool) : List Char → Nat
  | [] => 0
  | c :: cs =>
    if inComment then spaceLength (c != '\n') cs + 1
    else if Text.isBlank c then spaceLength false cs + 1
    else if c = '#' then spaceLength true cs + 1
    else 0

def skipSpace (r : Reader) : Reader :=
  if r.modes.spaced then r.skip (spaceLength false r.rest) else r

/-- The next character that counts, after this one. -/
def next (r : Reader) : Reader := (r.skip 1).skipSpace

theorem length_rest_next_lt {r : Reader} (h : r.rest ≠ []) : r.next.rest.length < r.rest.length := by
  have h0 : 0 < r.rest.length := List.length_pos_iff.2 h
  unfold next skipSpace
  split <;> simp only [skip, List.length_drop] <;> omega

def takeWhile (p : Char → Bool) (r : Reader) : List Char × Reader :=
  match _h : r.rest with
  | [] => ([], r)
  | c :: _ =>
    if p c then
      let (cs, r) := takeWhile p r.next
      (c :: cs, r)
    else ([], r)
termination_by r.rest.length
decreasing_by exact length_rest_next_lt (by simp [_h])

def sees (r : Reader) (text : String) : Bool := text.toList.isPrefixOf r.rest

end Reader

end Calculator.Pattern
