import Calculator.Pattern.Bracket

/-!
# Reading whole patterns

A pattern is a list of alternatives between bars, and an alternative a list of parts, each of
which may be repeated. Parentheses make a part of a whole pattern. They can be given a name and
can switch modes, which hold up to their end.
-/

namespace Calculator.Pattern

def concat : List Pattern → Pattern
  | [] => empty
  | [p] => p
  | p :: ps => append p (concat ps)

def oneOf (p : Pattern) : List Pattern → Pattern
  | [] => p
  | q :: qs => or p (oneOf q qs)

/-- What has been read of a group, the last first: the alternatives before the last bar, and the
parts since. A change of modes is a part that matches nothing and cannot be repeated. -/
structure Level where
  alternatives : List Pattern
  parts : List (Option Pattern)
  deriving DecidableEq

namespace Level

def start : Level := ⟨[], []⟩

def add (l : Level) (p : Option Pattern) : Level := { l with parts := p :: l.parts }

def alternative (l : Level) : Pattern := concat (l.parts.reverse.filterMap id)

def bar (l : Level) : Level := ⟨l.alternative :: l.alternatives, []⟩

def toPattern (l : Level) : Pattern :=
  match l.alternatives.reverse with
  | [] => l.alternative
  | p :: ps => oneOf p (ps ++ [l.alternative])

end Level

/-- A group that is open: its parenthesis, and what is to go on behind it. -/
structure OpenGroup where
  span : Span
  modes : Modes
  outside : Level
  deriving DecidableEq

/-- A pattern of which a part has been read. The fault counts only if all else is well
written. -/
structure Progress where
  reader : Reader
  level : Level
  groups : List OpenGroup
  names : List (List Char × Span)
  fault : Option Fault
  deriving DecidableEq

inductive FlagSign where
  | negation
  | flag (f : Flag)
  deriving DecidableEq

/-- Reads the signs for modes, each with its span, after those of `before`, the last first. -/
def flagSigns (before : List (FlagSign × Span)) (offset : Nat) :
    List Char → Except Fault (List (FlagSign × Span))
  | [] => .ok before.reverse
  | c :: cs => do
    let span : Span := ⟨offset, offset + 1⟩
    let sign ←
      if c = '-' then pure FlagSign.negation
      else
        match Flag.ofLetter? c with
        | some f => pure (.flag f)
        | none => Reader.fail .flagUnknown span
    match before.find? (·.1 == sign) with
    | some (_, earlier) =>
      .error ⟨if sign = .negation then .flagNegatedTwice else .flagTwice, span, some earlier⟩
    | none => flagSigns ((sign, span) :: before) (offset + 1) cs

/-- The modes after some signs; those behind a negation are switched off. -/
def Modes.change (m : Modes) (value : Bool) : List (FlagSign × Span) → Modes
  | [] => m
  | (.negation, _) :: signs => m.change false signs
  | (.flag f, _) :: signs => (m.set value f).change value signs

/-- A character that a name of a group may have, as its first one or another. -/
def isNameChar (first : Bool) (c : Char) : Bool :=
  c == '_' ||
    match Text.category c with
    | .lu | .ll | .lt | .lm | .lo | .nl => true
    | .nd | .no => !first
    | _ => !first && (c == '.' || c == '[' || c == ']')

/-- The length of the name up to the character that ends it or does not belong to it. -/
def nameLength (first : Bool) : List Char → Nat
  | [] => 0
  | c :: cs => if isNameChar first c then nameLength false cs + 1 else 0

namespace Reader

/-- The name of a group, which is not among those given before. -/
def groupName (r : Reader) (names : List (List Char × Span)) :
    Except Fault ((List Char × Span) × Reader) :=
  let length := nameLength true r.rest
  let name := r.rest.take length
  let behind := r.skip length
  let span := behind.since r.offset
  match behind.rest with
  | [] => fail .groupNameUnclosed behind.here
  | '>' :: _ =>
    if name.isEmpty then fail .groupNameEmpty span
    else
      match names.find? (·.1 == name) with
      | some (_, earlier) => .error ⟨.groupNameTwice, span, some earlier⟩
      | none => .ok ((name, span), behind.skip 1)
  | _ => fail .groupNameCharacter behind.ahead

/-- A decimal number with blanks around it. An empty one is a fault only where it is used. -/
def decimal (r : Reader) : Except Fault Nat × Reader :=
  let dropBlanks (r : Reader) : Reader := r.skip (r.rest.takeWhile Text.isBlank).length
  let r := dropBlanks r
  let (digits, behind) := r.takeWhile Char.isDigit
  let span := behind.since r.offset
  let n := digits.foldl (fun n c => 10 * n + (c.toNat - '0'.toNat)) 0
  let result :=
    if digits.isEmpty then fail .countEmpty span
    else if n < 2 ^ 32 then .ok n
    else fail .decimalRange span
  (result, (dropBlanks behind).skipSpace)

/-- The bounds of a repetition; the reader stands at the opening brace. -/
def counts (r : Reader) : Except Fault ((Nat × Option Nat) × Reader) := do
  let start := r.offset
  let inside := r.next
  if inside.rest.isEmpty then fail .countUnclosed (inside.since start)
  let (least, r) := inside.decimal
  match r.rest with
  | [] => fail .countUnclosed (r.since start)
  | ',' :: _ =>
    let r := r.next
    match r.rest with
    | [] => fail .countUnclosed (r.since start)
    | '\x7d' :: _ => return ((← least, none), r)
    | _ =>
      let least ← least
      let (most, r) := r.decimal
      return ((least, some (← most)), r)
  | _ =>
    let n ← least
    return ((n, some n), r)

end Reader

namespace Progress

def start (pattern : List Char) : Progress := ⟨.ofList pattern, .start, [], [], none⟩

def modes (p : Progress) : Modes := p.reader.modes

def skipSpace (p : Progress) : Progress := { p with reader := p.reader.skipSpace }

def add (p : Progress) (q : Option Pattern) (r : Reader) : Progress :=
  { p with level := p.level.add q, reader := r }

def note (p : Progress) (f : Option Fault) : Progress := { p with fault := p.fault.or f }

def addSet (p : Progress) (s : CharSet) (r : Reader) : Progress := p.add (some (.char s)) r

/-- A character as a part. Bytes that are no characters cannot be part of a pattern. -/
def addChar (p : Progress) (span : Span) (c : Char) (twoDigits : Bool) (r : Reader) : Progress :=
  let m := p.modes
  let isByte := !m.unicode && twoDigits && 0x80 ≤ c.toNat && c.toNat < 0x100
  let s := if m.unicode || c.toNat < 0x80 then m.cased (.single c) else .single c
  (p.addSet s r).note (if isByte then some ⟨.invalidUtf8, span, none⟩ else none)

/-- The characters that a dot stands for: all but the ends of lines, or all. -/
def dotSet (m : Modes) : CharSet :=
  if m.dotAll then .all
  else if m.carriageReturns then .compl (.ofList ['\n', '\r'])
  else .compl (.single '\n')

def addAtom (p : Progress) (a : Atom) (r : Reader) : Progress :=
  match a with
  | .char span c twoDigits => p.addChar span c twoDigits r
  | .dot span =>
    (p.addSet (dotSet p.modes) r).note
      (if p.modes.unicode then none else some ⟨.invalidUtf8, span, none⟩)
  | .look _ l => p.add (some (.look l)) r
  | .set _ (.ok s) => p.addSet s r
  | .set _ (.error f) => (p.addSet .empty r).note (some f)

def atom (p : Progress) (c : Char) : Except Fault Progress :=
  let r := p.reader
  let m := p.modes
  match c with
  | '\\' => do
    let (a, r) ← r.escape
    return p.addAtom a r
  | '.' => .ok (p.addAtom (.dot r.ahead) (r.skip 1))
  | '^' =>
    .ok (p.addAtom (.look r.ahead (if m.multiLine then .lineStart m.carriageReturns else .textStart))
      (r.skip 1))
  | '$' =>
    .ok (p.addAtom (.look r.ahead (if m.multiLine then .lineEnd m.carriageReturns else .textEnd))
      (r.skip 1))
  | c => .ok (p.addAtom (.char r.ahead c false) (r.skip 1))

/-- The last part, which a repetition needs, and the level without it. -/
def lastPart (p : Progress) : Except Fault (Pattern × Level) :=
  match p.level.parts with
  | some q :: parts => .ok (q, { p.level with parts })
  | _ => Reader.fail .nothingToRepeat p.reader.here

/-- A question mark behind a repetition says that few repetitions are preferred, which does not
matter here. -/
def skipPreference (r : Reader) : Reader := if r.rest.head? = some '?' then r.skip 1 else r

def repeatLast (p : Progress) (least : Nat) (most : Option Nat) : Except Fault Progress := do
  let (q, level) ← p.lastPart
  return { p with level := level.add (some (times q least most)),
                  reader := skipPreference (p.reader.skip 1) }

def repeatCounted (p : Progress) : Except Fault Progress := do
  let start := p.reader.offset
  let (q, level) ← p.lastPart
  let ((least, most), r) ← p.reader.counts
  if r.rest.head? != some '\x7d' then Reader.fail .countUnclosed (r.since start)
  let r := skipPreference r.next
  if most.any (· < least) then Reader.fail .countOrder (r.since start)
  return { p with level := level.add (some (times q least most)), reader := r }

def enter (p : Progress) (span : Span) (m : Modes) (r : Reader) : Progress :=
  { p with reader := { r with modes := m }, level := .start,
           groups := ⟨span, p.modes, p.level⟩ :: p.groups }

/-- A change of modes, for the rest of the group around it or for a group of its own. The reader
stands behind the question mark. -/
def changeModes (p : Progress) (span inner : Span) (r : Reader) : Except Fault Progress := do
  if r.rest.isEmpty then Reader.fail .groupUnclosed span
  let letters := r.rest.takeWhile fun c => c != ':' && c != ')'
  let signs ← flagSigns [] r.offset letters
  let r := r.skip letters.length
  let m := p.modes.change true signs
  match r.rest with
  | [] => Reader.fail .flagUnfinished r.here
  | c :: _ =>
    match signs.getLast? with
    | some (.negation, dangling) => Reader.fail .flagDangling dangling
    | _ =>
      if c = ':' then return p.enter span m (r.skip 1)
      else if signs.isEmpty then Reader.fail .nothingToRepeat inner
      else return p.add none { r.skip 1 with modes := m }

def openGroup (p : Progress) : Except Fault Progress := do
  let span := p.reader.ahead
  let r := p.reader.next
  match ["?=", "?!", "?<=", "?<!"].find? r.sees with
  | some looking => Reader.fail .lookAround ((r.skip looking.length).since span.start)
  | none =>
    match ["?P<", "?<"].find? r.sees with
    | some sign => do
      let (name, r) ← (r.skip sign.length).groupName p.names
      return { p with names := name :: p.names }.enter span p.modes r
    | none =>
      if r.sees "?" then p.changeModes span r.here (r.skip 1)
      else return p.enter span p.modes r

def closeGroup (p : Progress) : Except Fault Progress :=
  match p.groups with
  | [] => Reader.fail .groupUnopened p.reader.ahead
  | g :: gs =>
    .ok { p with reader := { p.reader.skip 1 with modes := g.modes },
                 level := g.outside.add (some p.level.toPattern), groups := gs }

def step (p : Progress) (c : Char) : Except Fault Progress :=
  match c with
  | '(' => p.openGroup
  | ')' => p.closeGroup
  | '|' => .ok { p with level := p.level.bar, reader := p.reader.skip 1 }
  | '[' => do
    let s ← p.reader.bracketSet
    return (p.addSet s.set s.reader).note s.fault
  | '?' => p.repeatLast 0 (some 1)
  | '*' => p.repeatLast 0 none
  | '+' => p.repeatLast 1 none
  | '\x7b' => p.repeatCounted
  | c => p.atom c

def toPattern (p : Progress) : Except Fault Pattern :=
  match p.groups, p.fault with
  | g :: _, _ => Reader.fail .groupUnclosed g.span
  | [], some f => .error f
  | [], none => .ok p.level.toPattern

/-- Reads to the end. Each step reads something. -/
def finish (p : Progress) : Except Fault Pattern := do
  let s := p.skipSpace
  match s.reader.rest with
  | [] => s.toPattern
  | c :: _ =>
    let q ← s.step c
    if q.reader.rest.length < p.reader.rest.length then q.finish else q.toPattern
termination_by p.reader.rest.length

end Progress

def parse (text : List Char) : Except Fault Pattern := (Progress.start text).finish

end Calculator.Pattern
