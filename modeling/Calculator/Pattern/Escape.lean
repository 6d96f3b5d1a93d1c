import Calculator.Pattern.Basic
import Calculator.Pattern.Named
import Calculator.Pattern.Reader

/-!
# The smallest parts of a pattern

Single characters and what a backslash begins: characters by number, sets with a name, and
conditions on a place.
-/

namespace Calculator.Pattern

inductive Atom where
  /-- A character; it may be meant as a byte if it is written with two digits. -/
  | char (span : Span) (c : Char) (twoDigits : Bool)
  | dot (span : Span)
  | look (span : Span) (l : Look)
  /-- A set, or what is wrong with it, which counts only if all else is well written. -/
  | set (span : Span) (s : Except Fault CharSet)

namespace Atom

def span : Atom → Span
  | char s _ _ => s
  | dot s => s
  | look s _ => s
  | set s _ => s

end Atom

/-- The characters with a meaning of their own, which a backslash takes from them. -/
def isMeta (c : Char) : Bool := "\\.+*?()|[]\x7b\x7d^$#&-~".toList.contains c

def isEscapable (c : Char) : Bool :=
  isMeta c || (c.toNat < 0x80 && !c.isAlphanum && c != '<' && c != '>')

def isHexDigit (c : Char) : Bool := c.isDigit || ('a' ≤ c && c ≤ 'f') || ('A' ≤ c && c ≤ 'F')

def hexValue (cs : List Char) : Nat :=
  cs.foldl (fun n c =>
    16 * n + if c.isDigit then c.toNat - '0'.toNat else c.toLower.toNat - 'a'.toNat + 10) 0

/-- A hexadecimal number that is the number of a character. -/
def charOfHex? (cs : List Char) : Option Char :=
  if (hexValue cs).isValidChar then some (Char.ofNat (hexValue cs)) else none

namespace Reader

def hexDigits (r : Reader) : Nat → Except Fault (List Char × Reader)
  | 0 => .ok ([], r)
  | n + 1 =>
    match r.rest with
    | [] => fail .escapeUnfinished r.here
    | c :: _ =>
      if isHexDigit c then do
        let (cs, r) ← r.next.hexDigits n
        return (c :: cs, r)
      else fail .hexDigit r.ahead

/-- A character by number; the reader stands behind the letter that says how long the number
is. -/
def hex (r : Reader) (start : Nat) (letter : Char) : Except Fault (Atom × Reader) :=
  match r.rest with
  | [] => fail .escapeUnfinished r.here
  | '\x7b' :: _ =>
    let brace := r.offset
    let (cs, r) := r.next.takeWhile isHexDigit
    match r.rest with
    | [] => fail .escapeUnfinished (r.since brace)
    | '\x7d' :: _ =>
      if cs.isEmpty then fail .hexEmpty (r.next.since brace)
      else
        match charOfHex? cs with
        | some c => .ok (.char (r.next.since start) c false, r.next)
        | none => fail .hexRange (r.since (brace + 1))
    | _ => fail .hexDigit r.ahead
  | _ => do
    let digits := if letter = 'x' then 2 else if letter = 'u' then 4 else 8
    let begin := r.offset
    let (cs, r) ← r.hexDigits digits
    match charOfHex? cs with
    | some c => return (.char (r.since start) c (letter == 'x'), r)
    | none => fail .hexRange (r.since begin)

/-- The set of the characters with a property, written `name`, `name=value` or `name:value`. -/
def property (name : List Char) : Except Cause CharSet :=
  let isSign (c : Char) : Bool := c == '=' || c == ':'
  match name.dropWhile (!isSign ·) with
  | [] =>
    match CharSet.ofPropertyName? name with
    | some s => .ok s
    | none => .error .propertyUnknown
  | _ :: value =>
    let property := name.takeWhile (!isSign ·)
    let property := if property.getLast? = some '!' then property.dropLast else property
    if CharSet.isCategoryProperty property then
      match CharSet.ofCategoryName? value with
      | some s => .ok s
      | none => .error .propertyValueUnknown
    else .error .propertyUnknown

/-- The name of a property; the reader stands behind the letter `p`. -/
def propertyName (r : Reader) : Except Fault (List Char × Reader) :=
  match r.rest with
  | [] => fail .escapeUnfinished r.here
  | '\x7b' :: _ =>
    let (name, r) := r.next.takeWhile (· != '\x7d')
    match r.rest with
    | [] => fail .escapeUnfinished r.here
    | _ => .ok (name, r.skip 1)
  | '\\' :: _ => fail .propertyLetter r.ahead
  | c :: _ => .ok ([c], r.next)

/-- A set in the modes in force, or its fault. -/
def namedSet (r : Reader) (span : Span) (negated : Bool) (s : Except Cause CharSet) :
    Except Fault CharSet :=
  if !r.modes.unicode then fail .outsideAscii span
  else
    match s with
    | .error cause => fail cause span
    | .ok s =>
      let s := if r.modes.anyCase then s.anyCase false else s
      .ok (if negated then s.compl else s)

/-- The sets of digits, blanks and word characters, or of all others if the letter is a
capital. -/
def letterSet (r : Reader) (span : Span) (letter : Char) : Except Fault CharSet :=
  let negated := letter.isUpper
  if r.modes.unicode then
    let s := match letter.toLower with
      | 'd' => CharSet.digit
      | 's' => .blank
      | _ => .word
    .ok (if negated then s.compl else s)
  else if negated then fail .invalidUtf8 span
  else
    .ok ((CharSet.ofAsciiName? (match letter with
      | 'd' => "digit"
      | 's' => "space"
      | _ => "word")).getD .empty)

/-- A boundary of words that is written with a name between braces. What does not look like a
name is left for a repetition. -/
def namedBoundary? (r : Reader) (start : Nat) : Except Fault (Option (Look × Reader)) :=
  let ascii := !r.modes.unicode
  let isNameChar (c : Char) : Bool := c.isAlpha || c == '-'
  let inside := r.next
  match inside.rest with
  | [] => fail .boundaryUnfinished (inside.since start)
  | c :: _ =>
    if !isNameChar c then .ok none
    else
      let (name, behind) := inside.takeWhile isNameChar
      match behind.rest with
      | '\x7d' :: _ =>
        match String.ofList name with
        | "start" => .ok (some (.wordStart ascii, behind.skip 1))
        | "end" => .ok (some (.wordEnd ascii, behind.skip 1))
        | "start-half" => .ok (some (.noWordBefore ascii, behind.skip 1))
        | "end-half" => .ok (some (.noWordAfter ascii, behind.skip 1))
        | _ => fail .boundaryUnknown (behind.since inside.offset)
      | _ => fail .boundaryUnclosed (behind.since r.offset)

def charOfLetter? : Char → Option Char
  | 'a' => some '\x07'
  | 'f' => some '\x0c'
  | 't' => some '\t'
  | 'n' => some '\n'
  | 'r' => some '\r'
  | 'v' => some '\x0b'
  | _ => none

def lookOfLetter? (ascii : Bool) : Char → Option Look
  | 'A' => some .textStart
  | 'z' => some .textEnd
  | 'b' => some (.wordBoundary ascii)
  | 'B' => some (.noWordBoundary ascii)
  | '<' => some (.wordStart ascii)
  | '>' => some (.wordEnd ascii)
  | _ => none

/-- What a backslash and the letter `c` begin, where neither a number nor a set follows; the
reader stands behind the letter. -/
def lettered (r : Reader) (start : Nat) (c : Char) : Except Fault (Atom × Reader) :=
  let span := r.since start
  if isEscapable c then .ok (.char span c false, r)
  else
    match charOfLetter? c, lookOfLetter? (!r.modes.unicode) c with
    | some d, _ => .ok (.char span d false, r)
    | none, some l => do
      if c = 'b' ∧ r.rest.head? = some '\x7b' then
        match ← r.namedBoundary? start with
        | some (l, r) => return (.look (r.since start) l, r)
        | none => return (.look span l, r)
      else return (.look span l, r)
    | none, none => fail .escapeUnknown span

/-- What begins with the backslash at which the reader stands. -/
def escape (r : Reader) : Except Fault (Atom × Reader) :=
  let start := r.offset
  let r := r.skip 1
  match r.rest with
  | [] => fail .escapeUnfinished (r.since start)
  | c :: _ =>
    if c.isDigit then fail .backreference ((r.skip 1).since start)
    else if c = 'x' ∨ c = 'u' ∨ c = 'U' then r.next.hex start c
    else if c = 'p' ∨ c = 'P' then do
      let (name, behind) ← r.next.propertyName
      let span := behind.since start
      return (.set span (r.namedSet span (c == 'P') (property name)), behind)
    else if "dswDSW".toList.contains c then
      let behind := r.skip 1
      .ok (.set (behind.since start) (r.letterSet (behind.since start) c), behind)
    else (r.skip 1).lettered start c

end Reader

end Calculator.Pattern
