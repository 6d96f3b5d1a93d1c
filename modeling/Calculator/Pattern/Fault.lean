/-!
# What can be wrong with a written pattern

A fault has a cause and the span of the text that is at fault. Its report repeats the pattern
and marks the span below the line it stands on.
-/

namespace Calculator.Pattern

/-- Characters of a pattern, the first one and the one behind the last, counted from zero. -/
structure Span where
  start : Nat
  stop : Nat
  deriving DecidableEq

inductive Cause where
  | classEscape
  | classRangeOrder
  | classRangeEnd
  | classUnclosed
  | decimalRange
  | hexEmpty
  | hexRange
  | hexDigit
  | escapeUnfinished
  | escapeUnknown
  | flagDangling
  | flagTwice
  | flagNegatedTwice
  | flagUnfinished
  | flagUnknown
  | groupNameTwice
  | groupNameEmpty
  | groupNameCharacter
  | groupNameUnclosed
  | groupUnclosed
  | groupUnopened
  | countOrder
  | countEmpty
  | countUnclosed
  | nothingToRepeat
  | boundaryUnclosed
  | boundaryUnknown
  | boundaryUnfinished
  | propertyLetter
  | backreference
  | lookAround
  | outsideAscii
  | invalidUtf8
  | propertyUnknown
  | propertyValueUnknown
  deriving DecidableEq

def Cause.message : Cause → String
  | classEscape => "invalid escape sequence found in character class"
  | classRangeOrder => "invalid character class range, the start must be <= the end"
  | classRangeEnd => "invalid range boundary, must be a literal"
  | classUnclosed => "unclosed character class"
  | decimalRange => "decimal literal invalid"
  | hexEmpty => "hexadecimal literal empty"
  | hexRange => "hexadecimal literal is not a Unicode scalar value"
  | hexDigit => "invalid hexadecimal digit"
  | escapeUnfinished => "incomplete escape sequence, reached end of pattern prematurely"
  | escapeUnknown => "unrecognized escape sequence"
  | flagDangling => "dangling flag negation operator"
  | flagTwice => "duplicate flag"
  | flagNegatedTwice => "flag negation operator repeated"
  | flagUnfinished => "expected flag but got end of regex"
  | flagUnknown => "unrecognized flag"
  | groupNameTwice => "duplicate capture group name"
  | groupNameEmpty => "empty capture group name"
  | groupNameCharacter => "invalid capture group character"
  | groupNameUnclosed => "unclosed capture group name"
  | groupUnclosed => "unclosed group"
  | groupUnopened => "unopened group"
  | countOrder => "invalid repetition count range, the start must be <= the end"
  | countEmpty => "repetition quantifier expects a valid decimal"
  | countUnclosed => "unclosed counted repetition"
  | nothingToRepeat => "repetition operator missing expression"
  | boundaryUnclosed =>
    "special word boundary assertion is either unclosed or contains an invalid character"
  | boundaryUnknown =>
    "unrecognized special word boundary assertion, valid choices are: start, end, start-half " ++
      "or end-half"
  | boundaryUnfinished =>
    "found either the beginning of a special word boundary or a bounded repetition on a \\b " ++
      "with an opening brace, but no closing brace"
  | propertyLetter => "invalid Unicode character class"
  | backreference => "backreferences are not supported"
  | lookAround => "look-around, including look-ahead and look-behind, is not supported"
  | outsideAscii => "Unicode not allowed here"
  | invalidUtf8 => "pattern can match invalid UTF-8"
  | propertyUnknown => "Unicode property not found"
  | propertyValueUnknown => "Unicode property value not found"

structure Fault where
  cause : Cause
  span : Span
  /-- What stands there already, where the fault is that it comes twice. -/
  earlier : Option Span
  deriving DecidableEq

/-- Line and column of a character, both counted from one. -/
structure Place where
  line : Nat
  column : Nat
  deriving DecidableEq

def Place.ofOffset (pattern : List Char) (offset : Nat) : Place :=
  let before := pattern.take offset
  ⟨before.count '\n' + 1, (before.reverse.takeWhile (· != '\n')).length + 1⟩

/-- The lines of a text without their ends. A line feed at the end begins no line. -/
def linesOf (text : List Char) : List (List Char) :=
  let all := text.splitOn '\n'
  let ended := if all.getLast? = some [] then all.dropLast else all
  ended.map fun l => if l.getLast? = some '\r' then l.dropLast else l

namespace Fault

def spans (f : Fault) : List Span := f.span :: f.earlier.toList

/-- The marks below a line of which some columns, from a first one up to another, are at fault. -/
def marks (column : Nat) : List (Nat × Nat) → List Char
  | [] => []
  | (first, last) :: rest =>
    let width := max 1 (last - first)
    List.replicate (first - column) ' ' ++ List.replicate width '^' ++
      marks (max column first + width) rest

/-- The lines of the pattern, each with its number if there are several, and the marks. -/
def notated (pattern : List Char) (spans : List Span) : List (List Char) :=
  let lines := linesOf pattern
  let count := lines.length + if pattern.getLast? = some '\n' then 1 else 0
  let width := if count ≤ 1 then 0 else (Nat.toDigits 10 count).length
  let margin (n : Nat) : List Char :=
    if width = 0 then [' ', ' ', ' ', ' ']
    else
      let digits := Nat.toDigits 10 n
      List.replicate (width - digits.length) ' ' ++ digits ++ [':', ' ']
  let indent := if width = 0 then 4 else width + 2
  let marked (n : Nat) : List (Nat × Nat) :=
    (spans.filterMap fun s =>
      let start := Place.ofOffset pattern s.start
      let stop := Place.ofOffset pattern s.stop
      if start.line = n ∧ stop.line = n then some (start.column, stop.column) else none).mergeSort
        fun a b => a.1 < b.1 || (a.1 == b.1 && a.2 ≤ b.2)
  (lines.zipIdx 1).flatMap fun (l, n) =>
    (margin n ++ l) ::
      if (marked n).isEmpty then [] else [List.replicate indent ' ' ++ marks 1 (marked n)]

/-- The spans that go over the end of a line, in words. -/
def acrossLines (pattern : List Char) (spans : List Span) : List String :=
  spans.filterMap fun s =>
    let start := Place.ofOffset pattern s.start
    let stop := Place.ofOffset pattern s.stop
    if start.line = stop.line then none
    else
      some ("on line " ++ toString start.line ++ " (column " ++ toString start.column ++
        ") through line " ++ toString stop.line ++ " (column " ++ toString (stop.column - 1) ++ ")")

def report (pattern : List Char) (f : Fault) : String :=
  let text := String.join ((notated pattern f.spans).map fun l => String.ofList l ++ "\n")
  let head := "regex parse error:\n"
  let foot := "error: " ++ f.cause.message
  if pattern.contains '\n' then
    let divider := String.ofList (List.replicate 79 '~') ++ "\n"
    let notes := acrossLines pattern f.spans
    head ++ divider ++ text ++ divider ++
      (if notes.isEmpty then "" else "\n".intercalate notes ++ "\n") ++ foot
  else head ++ text ++ foot

end Fault

end Calculator.Pattern
