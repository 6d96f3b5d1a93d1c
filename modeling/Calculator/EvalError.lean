import Calculator.Token

/-!
# What can be wrong with an expression

Each cause has a category, which never changes with the wording, and a message.
-/

namespace Calculator

inductive EvalError where
  /-- A character that starts no token. -/
  | badCharacter (ch : Char) (offset : Nat)
  /-- A number too large for a finite value. -/
  | numberTooLarge (literal : String)
  /-- A token where one of the expected kinds was required. -/
  | unexpectedToken (expected : List TokenKind) (found : String) (offset : Nat)
  /-- No closing parenthesis where only that could end the parenthesis opened at `openOffset`. -/
  | unclosedParen (openOffset : Nat) (found : String)
  /-- A token after a complete expression. -/
  | trailingInput (found : String) (offset : Nat)
  | divisionByZero
  deriving DecidableEq

namespace EvalError

def category : EvalError → String
  | badCharacter .. => "lexical"
  | numberTooLarge .. => "number-format"
  | unexpectedToken .. => "unexpected-token"
  | unclosedParen .. => "unmatched-paren"
  | trailingInput .. => "trailing-input"
  | divisionByZero => "division-by-zero"

/-- The alternatives as `a, b or c`. -/
def alternatives : List TokenKind → String
  | [] => "nothing"
  | [k] => k.description
  | k :: l :: ks =>
    ", ".intercalate ((k :: l :: ks).dropLast.map TokenKind.description) ++ " or " ++
      ((k :: l :: ks).getLast (by simp)).description

def message : EvalError → String
  | badCharacter ch offset =>
    "Unexpected character '" ++ ch.toString ++ "' at position " ++ toString offset
  | numberTooLarge literal => "Invalid number literal: " ++ literal
  | unexpectedToken expected found offset =>
    "Expected " ++ alternatives expected ++ ", found " ++ found ++ " at position " ++
      toString offset
  | unclosedParen openOffset found =>
    "Expected ')' to close '(' at position " ++ toString openOffset ++ ", found " ++ found
  | trailingInput found offset =>
    "Unexpected " ++ found ++ " after expression at position " ++ toString offset
  | divisionByZero => "Division by zero"

end EvalError

end Calculator
