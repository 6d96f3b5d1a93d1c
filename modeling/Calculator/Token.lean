import Calculator.Text.Utf8

/-!
# Tokens

The words of an expression: numbers without sign or point, four operators and two parentheses,
and a last token for the end of the input.
-/

namespace Calculator

inductive TokenKind where
  | number
  | plus
  | minus
  | multiply
  | divide
  | leftParen
  | rightParen
  | endOfInput
  deriving DecidableEq

namespace TokenKind

def all : List TokenKind :=
  [number, plus, minus, multiply, divide, leftParen, rightParen, endOfInput]

theorem mem_all (k : TokenKind) : k ∈ all := by cases k <;> decide

/-- The kind's name in listings. -/
def name : TokenKind → String
  | number => "Number"
  | plus => "Plus"
  | minus => "Minus"
  | multiply => "Multiply"
  | divide => "Divide"
  | leftParen => "LeftParen"
  | rightParen => "RightParen"
  | endOfInput => "EndOfInput"

/-- The kind as messages speak of it. -/
def description : TokenKind → String
  | number => "number"
  | plus => "'+'"
  | minus => "'-'"
  | multiply => "'*'"
  | divide => "'/'"
  | leftParen => "'('"
  | rightParen => "')'"
  | endOfInput => "end of input"

/-- The kind of a token that is one symbol. -/
def ofSymbol? : Char → Option TokenKind
  | '+' => some plus
  | '-' => some minus
  | '*' => some multiply
  | '/' => some divide
  | '(' => some leftParen
  | ')' => some rightParen
  | _ => none

/-- The symbol of a kind that has one. -/
def symbol? : TokenKind → Option Char
  | plus => some '+'
  | minus => some '-'
  | multiply => some '*'
  | divide => some '/'
  | leftParen => some '('
  | rightParen => some ')'
  | number => none
  | endOfInput => none

theorem ofSymbol?_eq_some_iff {c : Char} {k : TokenKind} :
    ofSymbol? c = some k ↔ k.symbol? = some c := by
  constructor
  · intro h
    unfold ofSymbol? at h
    split at h <;> cases h <;> rfl
  · intro h
    cases k <;> cases h <;> rfl

end TokenKind

/-- A token, the text it was read from, and where that text starts, in bytes. -/
structure Token where
  kind : TokenKind
  text : String
  offset : Nat
  deriving DecidableEq

namespace Token

def endOfInput (offset : Nat) : Token := ⟨.endOfInput, "", offset⟩

/-- The token as messages speak of it. -/
def description (t : Token) : String :=
  if t.kind = .number then "number " ++ t.text else t.kind.description

/-- The token in a listing. -/
def listed (t : Token) : String := t.kind.name ++ "(" ++ t.text ++ ")"

end Token

end Calculator
