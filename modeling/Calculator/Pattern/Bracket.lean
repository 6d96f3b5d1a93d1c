import Calculator.Pattern.Escape

/-!
# Sets between brackets

A set is written as its members and ranges between brackets, with other sets among them. Before
the members a caret may stand, which turns the set into its complement; between members the
signs `&&`, `--` and `~~` combine all before them with all behind them, up to the next sign.
-/

namespace Calculator.Pattern

/-- How a sign between members combines the sets on its sides. -/
inductive SetOp where
  | inter
  | diff
  | symmDiff
  deriving DecidableEq

def SetOp.apply : SetOp → CharSet → CharSet → CharSet
  | inter, s, t => s.inter t
  | diff, s, t => s.diff t
  | symmDiff, s, t => s.symmDiff t

def SetOp.ofSign? : Char → Option SetOp
  | '&' => some .inter
  | '-' => some .diff
  | '~' => some .symmDiff
  | _ => none

/-- A set that has been opened: the span up to its first member, whether it is a complement,
what stands before the last sign, and the members since. -/
structure OpenSet where
  span : Span
  negated : Bool
  before : Option (CharSet × SetOp)
  members : CharSet
  deriving DecidableEq

/-- A set that is being read, the sets around it, and the first fault that counts only if all
else is well written. -/
structure Bracket where
  reader : Reader
  innermost : OpenSet
  around : List OpenSet
  fault : Option Fault
  deriving DecidableEq

structure ReadSet where
  set : CharSet
  reader : Reader
  fault : Option Fault
  deriving DecidableEq

def Modes.cased (m : Modes) (s : CharSet) : CharSet :=
  if m.anyCase then s.anyCase (!m.unicode) else s

namespace OpenSet

def add (o : OpenSet) (s : CharSet) : OpenSet := { o with members := o.members.union s }

def whole (o : OpenSet) (m : Modes) : CharSet :=
  match o.before with
  | none => o.members
  | some (s, op) => op.apply (m.cased s) (m.cased o.members)

def toSet (o : OpenSet) (m : Modes) : CharSet :=
  let s := m.cased (o.whole m)
  if o.negated then s.compl else s

end OpenSet

namespace Reader

/-- Opens the set at whose bracket the reader stands. Hyphens and a closing bracket that come
first are members. -/
def openSet (r : Reader) : Except Fault (OpenSet × Reader) :=
  let start := r.offset
  let r := r.next
  let negated := r.rest.head? == some '^'
  let first := if negated then r.next else r
  if first.rest.isEmpty then fail .classUnclosed (first.since start)
  else
    let (hyphens, r) := first.takeWhile (· == '-')
    if r.rest.isEmpty then fail .classUnclosed ⟨start, start⟩
    else if hyphens.isEmpty ∧ r.rest.head? = some ']' then
      if r.next.rest.isEmpty then fail .classUnclosed (r.next.since start)
      else .ok (⟨r.next.since start, negated, none, .single ']'⟩, r.next)
    else .ok (⟨r.since start, negated, none, .ofList hyphens⟩, r)

/-- A class of the first 128 characters, if one is written here: its name, whether it is a
complement, and the reader behind it. -/
def asciiClass? (r : Reader) : Option (CharSet × Bool × Reader) :=
  if r.sees "[:" then
    let inside := r.skip 2
    let negated := inside.rest.head? == some '^'
    let inside := if negated then inside.skip 1 else inside
    let name := inside.rest.takeWhile (· != ':')
    let behind := inside.skip name.length
    if behind.sees ":]" then
      (CharSet.ofAsciiName? (String.ofList name)).map fun s => (s, negated, behind.skip 2)
    else none
  else none

/-- A member of a set, or an end of a range. -/
def setAtom (r : Reader) : Except Fault (Atom × Reader) :=
  match r.rest with
  | [] => fail .classUnclosed r.here
  | '\\' :: _ => r.escape
  | c :: _ => .ok (.char r.ahead c false, r.skip 1)

end Reader

/-- What is wrong with a character as a member, where sets are sets of bytes. -/
def memberFault (m : Modes) (span : Span) (c : Char) (twoDigits : Bool) : Option Fault :=
  if m.unicode || c.toNat < 0x80 then none
  else some ⟨if twoDigits && c.toNat < 0x100 then .invalidUtf8 else .outsideAscii, span, none⟩

namespace Bracket

def modes (b : Bracket) : Modes := b.reader.modes

def note (b : Bracket) (f : Option Fault) : Bracket := { b with fault := b.fault.or f }

def add (b : Bracket) (s : CharSet) (r : Reader) : Bracket :=
  { b with innermost := b.innermost.add s, reader := r }

/-- A set that is not closed is reported where the innermost one was opened. -/
def unclosed {α : Type} (b : Bracket) : Except Fault α :=
  .error ⟨.classUnclosed, b.innermost.span, none⟩

/-- What is wrong with a set of bytes that has members outside ASCII. -/
def highFault (m : Modes) (span : Span) (s : CharSet) : Option Fault :=
  if m.unicode || !s.hasHighByte then none else some ⟨.invalidUtf8, span, none⟩

def member (b : Bracket) (a : Atom) (r : Reader) : Except Fault Bracket :=
  match a with
  | .char span c twoDigits =>
    .ok ((b.add (.single c) r).note (memberFault b.modes span c twoDigits))
  | .set _ (.ok s) => .ok (b.add s r)
  | .set _ (.error f) => .ok ((b.add .empty r).note (some f))
  | a => .error ⟨.classEscape, a.span, none⟩

def range (b : Bracket) (first last : Atom) (r : Reader) : Except Fault Bracket :=
  match first, last with
  | .char s c k, .char t d l =>
    if d < c then .error ⟨.classRangeOrder, ⟨s.start, t.stop⟩, none⟩
    else
      .ok (((b.add (.range c d) r).note (memberFault b.modes s c k)).note
        (memberFault b.modes t d l))
  | .char _ _ _, last => .error ⟨.classRangeEnd, last.span, none⟩
  | first, _ => .error ⟨.classRangeEnd, first.span, none⟩

/-- A member or a range. A hyphen before a closing bracket or another hyphen makes no range. -/
def item (b : Bracket) : Except Fault Bracket := do
  let (first, r) ← b.reader.setAtom
  let r := r.skipSpace
  match r.rest with
  | [] => b.unclosed
  | c :: _ =>
    let behind := r.next
    if c != '-' || behind.rest.head? == some ']' || behind.rest.head? == some '-' then
      b.member first r
    else if behind.rest.isEmpty then b.unclosed
    else do
      let (last, r) ← behind.setAtom
      b.range first last r

def close (b : Bracket) : ReadSet ⊕ Bracket :=
  let r := b.reader.skip 1
  let s := b.innermost.toSet b.modes
  let fault := b.fault.or (highFault b.modes (r.since b.innermost.span.start) s)
  match b.around with
  | [] => .inl ⟨s, r, fault⟩
  | o :: os => .inr ⟨r, o.add s, os, fault⟩

def step (b : Bracket) : Except Fault (ReadSet ⊕ Bracket) :=
  let r := b.reader.skipSpace
  let b := { b with reader := r }
  match r.rest with
  | [] => b.unclosed
  | '[' :: _ =>
    match r.asciiClass? with
    | some (s, negated, behind) =>
      let s := b.modes.cased s
      let s := if negated then s.compl else s
      .ok (.inr ((b.add s behind).note (highFault b.modes (behind.since r.offset) s)))
    | none => do
      let (o, r) ← r.openSet
      return .inr { b with reader := r, innermost := o, around := b.innermost :: b.around }
  | ']' :: _ => .ok b.close
  | c :: rest =>
    match SetOp.ofSign? c with
    | some op =>
      if rest.head? = some c then
        let o := b.innermost
        let o := { o with before := some (o.whole b.modes, op), members := .empty }
        .ok (.inr { b with reader := r.skip 2, innermost := o })
      else b.item.map .inr
    | none => b.item.map .inr

/-- Reads to the bracket that closes the outermost set. Each step reads something. -/
def finish (b : Bracket) : Except Fault ReadSet := do
  match ← b.step with
  | .inl s => return s
  | .inr c => if c.reader.rest.length < b.reader.rest.length then c.finish else c.unclosed
termination_by b.reader.rest.length

end Bracket

/-- The set at whose opening bracket the reader stands. -/
def Reader.bracketSet (r : Reader) : Except Fault ReadSet := do
  let (o, r) ← r.openSet
  Bracket.finish ⟨r, o, [], none⟩

end Calculator.Pattern
