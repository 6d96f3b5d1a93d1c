import Calculator.EvalError
import Calculator.Text.Blank

/-!
# From text to tokens

A cursor walks over the input and reads one token at a time: it skips blank space, then takes a
longest run of digits or a single symbol. It never moves back, and it stays before a character
that starts no token. A token stream is what a walk to the end meets: the tokens and the way
they end.
-/

namespace Calculator

inductive StreamEnd where
  | endOfInput (offset : Nat)
  | badCharacter (ch : Char) (offset : Nat)
  deriving DecidableEq

structure TokenStream where
  tokens : List Token
  ending : StreamEnd
  deriving DecidableEq

inductive Reading where
  | token (t : Token)
  | ending (e : StreamEnd)
  deriving DecidableEq

/-- What is left of the input, and how many bytes came before it. -/
structure Cursor where
  rest : List Char
  position : Nat
  deriving DecidableEq

namespace Cursor

def ofString (s : String) : Cursor := ⟨s.toList, 0⟩

def skipWhile (p : Char → Bool) (c : Cursor) : Cursor :=
  ⟨c.rest.dropWhile p, c.position + Text.utf8Size (c.rest.takeWhile p)⟩

def skipBlanks (c : Cursor) : Cursor := c.skipWhile Text.isBlank

theorem length_rest_skipWhile_le (p : Char → Bool) (c : Cursor) :
    (c.skipWhile p).rest.length ≤ c.rest.length :=
  (List.dropWhile_suffix p).length_le

/-- Reads at a cursor that stands on no blank. -/
def read (c : Cursor) : Reading × Cursor :=
  match c.rest with
  | [] => (.ending (.endOfInput c.position), c)
  | ch :: rest =>
    if ch.isDigit then
      (.token ⟨.number, String.ofList (c.rest.takeWhile Char.isDigit), c.position⟩,
        c.skipWhile Char.isDigit)
    else
      match TokenKind.ofSymbol? ch with
      | some kind => (.token ⟨kind, ch.toString, c.position⟩, ⟨rest, c.position + ch.utf8Size⟩)
      | none => (.ending (.badCharacter ch c.position), c)

def next (c : Cursor) : Reading × Cursor := c.skipBlanks.read

theorem length_rest_read_lt {c c' : Cursor} {t : Token} (h : c.read = (.token t, c')) :
    c'.rest.length < c.rest.length := by
  unfold read at h
  split at h
  · cases h
  · rename_i ch rest hrest
    split at h
    · rename_i hd
      cases h
      have hle := (List.dropWhile_suffix (l := rest) Char.isDigit).length_le
      simp only [skipWhile, hrest, List.dropWhile_cons, hd, ↓reduceIte, List.length_cons]
      omega
    · split at h
      · cases h
        simp [hrest]
      · cases h

theorem length_rest_next_lt {c c' : Cursor} {t : Token} (h : c.next = (.token t, c')) :
    c'.rest.length < c.rest.length :=
  Nat.lt_of_lt_of_le (length_rest_read_lt h) (length_rest_skipWhile_le _ _)

/-- The stream from the cursor on, after the tokens of `before` in reverse, and the cursor at its
end. -/
def collect (before : List Token) (c : Cursor) : TokenStream × Cursor :=
  match _h : c.next with
  | (.token t, c') => collect (t :: before) c'
  | (.ending e, c') => (⟨before.reverse, e⟩, c')
termination_by c.rest.length
decreasing_by exact length_rest_next_lt _h

theorem collect_of_token {c c' : Cursor} {t : Token} (h : c.next = (.token t, c'))
    (before : List Token) : c.collect before = c'.collect (t :: before) := by
  rw [collect]
  split <;> simp_all

theorem collect_of_ending {c c' : Cursor} {e : StreamEnd} (h : c.next = (.ending e, c'))
    (before : List Token) : c.collect before = (⟨before.reverse, e⟩, c') := by
  rw [collect]
  split <;> simp_all

/-- Tokens read earlier only come in front. -/
theorem collect_append (before earlier : List Token) (c : Cursor) :
    c.collect (before ++ earlier) =
      (⟨earlier.reverse ++ (c.collect before).1.tokens, (c.collect before).1.ending⟩,
        (c.collect before).2) := by
  fun_induction collect before c with
  | case1 before c t c' h ih => rw [collect_of_token h, ← List.cons_append, ih]
  | case2 before c e c' h => simp [collect_of_ending h]

end Cursor

namespace StreamEnd

def error? : StreamEnd → Option EvalError
  | endOfInput _ => none
  | badCharacter ch offset => some (.badCharacter ch offset)

end StreamEnd

namespace Reading

def token? : Reading → Except EvalError Token
  | token t => .ok t
  | ending (.endOfInput offset) => .ok (.endOfInput offset)
  | ending (.badCharacter ch offset) => .error (.badCharacter ch offset)

end Reading

namespace TokenStream

def ofString (s : String) : TokenStream := ((Cursor.ofString s).collect []).1

/-- The tokens and, where the input ends well, its end as a last token. -/
def items (s : TokenStream) : List Token :=
  match s.ending with
  | .endOfInput offset => s.tokens ++ [.endOfInput offset]
  | .badCharacter _ _ => s.tokens

/-- The error of a stream without a first token, at which nothing can be evaluated. -/
def refusal? (s : TokenStream) : Option EvalError :=
  match s.tokens with
  | [] => s.ending.error?
  | _ :: _ => none

def toExcept (s : TokenStream) : Except EvalError (List Token) :=
  match s.ending.error? with
  | some e => .error e
  | none => .ok s.tokens

end TokenStream

/-- The tokens of an input in which every character has its place. -/
def tokenize (s : String) : Except EvalError (List Token) := (TokenStream.ofString s).toExcept

/-- A cursor that can be read one token at a time for ever, or as a sequence that ends for good
with the end of the input or with its first error. -/
structure Scanner where
  cursor : Cursor
  failed : Bool
  deriving DecidableEq

namespace Scanner

def ofString (s : String) : Scanner := ⟨.ofString s, false⟩

def position (s : Scanner) : Nat := s.cursor.position

/-- The token at the cursor, no matter how the sequence stands: at the end it is the end token,
every time, and at a bad character the same error, every time. -/
def nextToken (s : Scanner) : Except EvalError Token × Scanner :=
  let (r, c) := s.cursor.next
  (r.token?, { s with cursor := c })

/-- The next element of the sequence, or none after its end. -/
def next? (s : Scanner) : Option (Except EvalError Token) × Scanner :=
  if s.failed then (none, s)
  else
    match s.cursor.next with
    | (.token t, c) => (some (.ok t), ⟨c, false⟩)
    | (.ending e, c) => (e.error?.map .error, ⟨c, e.error?.isSome⟩)

/-- The rest of the sequence: all its tokens, or the error that ends it. -/
def collect (s : Scanner) : Except EvalError (List Token) × Scanner :=
  if s.failed then (.ok [], s)
  else
    let (stream, c) := s.cursor.collect []
    (stream.toExcept, ⟨c, stream.ending.error?.isSome⟩)

end Scanner

end Calculator
