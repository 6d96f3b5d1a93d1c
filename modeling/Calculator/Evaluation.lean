import Calculator.Operator
import Calculator.Scanner

/-!
# Evaluating expressions

The value of an expression is computed while its tokens are read, each exactly once. Between two
tokens the state is a stack of open parentheses, at each level the sum and the product that wait
for their right operand, and whether an operand is required next or has just been read. Products
bind tighter than sums, and both group to the left.

A waiting product is computed when the token after its right operand is known to be one, before
that token is judged; so a zero divisor wins over a misplaced token behind it and loses to a bad
character there.
-/

namespace Calculator

/-- The operations of one nesting level that wait for a right operand. -/
structure Waiting where
  sum : Option (Binary64 × SumOp)
  product : Option (Binary64 × ProductOp)
  deriving DecidableEq

namespace Waiting

def empty : Waiting := ⟨none, none⟩

/-- The waiting product with its right operand. -/
def product? (w : Waiting) (y : Binary64) : Except EvalError Binary64 :=
  match w.product with
  | none => .ok y
  | some (x, op) => op.apply x y

/-- The waiting sum with its right operand. -/
def sumWith (w : Waiting) (y : Binary64) : Binary64 :=
  match w.sum with
  | none => y
  | some (x, op) => op.apply x y

end Waiting

/-- An open parenthesis: where it stands, and what waits outside it. -/
structure Level where
  openOffset : Nat
  outside : Waiting
  deriving DecidableEq

/-- What waits, inside the innermost open parenthesis and outside each. -/
structure Context where
  waiting : Waiting
  levels : List Level
  deriving DecidableEq

inductive EvalState where
  /-- An operand is required. -/
  | operand (ctx : Context)
  /-- An operand with this value has been read. -/
  | operator (ctx : Context) (value : Binary64)
  deriving DecidableEq

namespace EvalState

def initial : EvalState := .operand ⟨.empty, []⟩

/-- What may start an operand. -/
def operandStart : List TokenKind := [.number, .leftParen]

/-- A token that cannot follow an operand here. -/
def misplaced (ctx : Context) (t : Token) : EvalError :=
  match ctx.levels with
  | [] => .trailingInput t.description t.offset
  | level :: _ => .unclosedParen level.openOffset t.description

/-- The state after a token where an operand is required. -/
def afterOperandToken (ctx : Context) (t : Token) : Except EvalError EvalState :=
  match t.kind with
  | .number => (literalValue t.text).map (.operator ctx)
  | .leftParen => .ok (.operand ⟨.empty, ⟨t.offset, ctx.waiting⟩ :: ctx.levels⟩)
  | _ => .error (.unexpectedToken operandStart t.description t.offset)

/-- The state after a token that follows the operand `x`, all products included. -/
def afterOperatorToken (ctx : Context) (x : Binary64) (t : Token) : Except EvalError EvalState :=
  match t.kind with
  | .multiply => .ok (.operand { ctx with waiting.product := some (x, .mul) })
  | .divide => .ok (.operand { ctx with waiting.product := some (x, .div) })
  | .plus => .ok (.operand { ctx with waiting := ⟨some (ctx.waiting.sumWith x, .add), none⟩ })
  | .minus => .ok (.operand { ctx with waiting := ⟨some (ctx.waiting.sumWith x, .sub), none⟩ })
  | .rightParen =>
    match ctx.levels with
    | [] => .error (misplaced ctx t)
    | level :: levels => .ok (.operator ⟨level.outside, levels⟩ (ctx.waiting.sumWith x))
  | _ => .error (misplaced ctx t)

def step : EvalState → Token → Except EvalError EvalState
  | operand ctx, t => afterOperandToken ctx t
  | operator ctx y, t => do
    let x ← ctx.waiting.product? y
    afterOperatorToken ctx x t

/-- The value at the end of the input. -/
def finish : EvalState → Nat → Except EvalError Binary64
  | operand _, offset =>
    .error (.unexpectedToken operandStart (Token.endOfInput offset).description offset)
  | operator ctx y, offset => do
    let x ← ctx.waiting.product? y
    match ctx.levels with
    | [] => .ok (ctx.waiting.sumWith x)
    | _ :: _ => .error (misplaced ctx (.endOfInput offset))

end EvalState

/-- The outcome of an evaluation, and how many tokens it read, the end of the input counted. -/
structure Evaluation where
  result : Except EvalError Binary64
  read : Nat

namespace Evaluation

/-- Evaluates the tokens after the first `read` of a stream. -/
def run (ending : StreamEnd) (read : Nat) (state : EvalState) : List Token → Evaluation
  | [] =>
    match ending with
    | .endOfInput offset => ⟨state.finish offset, read + 1⟩
    | .badCharacter ch offset => ⟨.error (.badCharacter ch offset), read⟩
  | t :: ts =>
    match state.step t with
    | .ok next => run ending (read + 1) next ts
    | .error e => ⟨.error e, read + 1⟩

def ofStream (s : TokenStream) : Evaluation := run s.ending 0 .initial s.tokens

end Evaluation

/-- The value of an expression. -/
def evaluate (s : String) : Except EvalError Binary64 :=
  (Evaluation.ofStream (.ofString s)).result

end Calculator
