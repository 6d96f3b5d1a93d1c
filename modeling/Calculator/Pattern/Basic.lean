import Calculator.Pattern.CharSet

/-!
# Patterns

Regular patterns and the search for them in a text. The search reads the text once. It keeps
the patterns of which some must match what is still to come, if the whole is to be found; after
each character these are the remainders of the ones before.
-/

namespace Calculator

/-- A condition on a place in a text, given the characters before and after it. Those on words
know the letters of all scripts, or of `a` to `z` only. -/
inductive Look where
  | textStart
  | textEnd
  /-- The start of a line; with carriage returns, a line may end with one. -/
  | lineStart (carriageReturns : Bool)
  | lineEnd (carriageReturns : Bool)
  | wordBoundary (asciiOnly : Bool)
  | noWordBoundary (asciiOnly : Bool)
  | wordStart (asciiOnly : Bool)
  | wordEnd (asciiOnly : Bool)
  | noWordBefore (asciiOnly : Bool)
  | noWordAfter (asciiOnly : Bool)
  deriving DecidableEq

namespace Look

def isWord (asciiOnly : Bool) : Option Char → Bool
  | none => false
  | some c => if asciiOnly then Text.isAsciiWordChar c else Text.isWordChar c

def holds (before after : Option Char) : Look → Bool
  | textStart => before.isNone
  | textEnd => after.isNone
  | lineStart false => before.isNone || before == some '\n'
  | lineStart true =>
    before.isNone || before == some '\n' || (before == some '\r' && after != some '\n')
  | lineEnd false => after.isNone || after == some '\n'
  | lineEnd true =>
    after.isNone || after == some '\r' || (after == some '\n' && before != some '\r')
  | wordBoundary a => isWord a before != isWord a after
  | noWordBoundary a => isWord a before == isWord a after
  | wordStart a => !isWord a before && isWord a after
  | wordEnd a => isWord a before && !isWord a after
  | noWordBefore a => !isWord a before
  | noWordAfter a => !isWord a after

end Look

inductive Pattern where
  | empty
  | char (s : CharSet)
  | look (l : Look)
  | append (p q : Pattern)
  | or (p q : Pattern)
  /-- At least `least` times, and at most `most` times if that is given. -/
  | times (p : Pattern) (least : Nat) (most : Option Nat)
  deriving DecidableEq

namespace Pattern

def matchesEmpty (before after : Option Char) : Pattern → Bool
  | empty => true
  | char _ => false
  | look l => l.holds before after
  | append p q => p.matchesEmpty before after && q.matchesEmpty before after
  | or p q => p.matchesEmpty before after || q.matchesEmpty before after
  | times p least _ => least == 0 || p.matchesEmpty before after

/-- The pattern in front of `q`; nothing in front of `q` is `q` alone. -/
def inFrontOf (q : Pattern) : Pattern → Pattern
  | empty => q
  | p => append p q

/-- The pattern a number of times that may be none at all. -/
def repeated (p : Pattern) (least : Nat) : Option Nat → Pattern
  | some 0 => empty
  | most => times p least most

/-- What may match behind the character `c`, if the pattern matches from the place before `c`
on. -/
def remainders (before : Option Char) (c : Char) : Pattern → List Pattern
  | empty => []
  | char s => if s.contains c then [empty] else []
  | look _ => []
  | append p q =>
    (p.remainders before c).map (inFrontOf q) ++
      if p.matchesEmpty before (some c) then q.remainders before c else []
  | or p q => p.remainders before c ++ q.remainders before c
  | times _ _ (some 0) => []
  | times p least most =>
    let least := if p.matchesEmpty before (some c) then 0 else least - 1
    (p.remainders before c).map (inFrontOf (p.repeated least (most.map (· - 1))))

/-- Does the pattern match somewhere in the text, or one of those under way from its start on? -/
def search (p : Pattern) (before : Option Char) (under : List Pattern) : List Char → Bool
  | [] => (p :: under).any (matchesEmpty before none)
  | c :: cs =>
    (p :: under).any (matchesEmpty before (some c)) ||
      p.search (some c) (((p :: under).flatMap (remainders before c)).eraseDups) cs

def isFoundIn (p : Pattern) (text : String) : Bool := p.search none [] text.toList

end Pattern

end Calculator
