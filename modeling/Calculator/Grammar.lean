import Calculator.Operator

/-!
# The grammar of expressions

Expressions as trees of the grammar

* `E ::= T | E + T | E - T`,
* `T ::= F | T * F | T / F`,
* `F ::= number | ( E )`,

with the lexemes that a tree spells and the value that it has. The shape of a tree is the
grouping of its operators, so the value of each node comes from the values below it alone.
-/

namespace Calculator

/-- A token without its place. -/
abbrev Lexeme := TokenKind × String

def Token.lexeme (t : Token) : Lexeme := (t.kind, t.text)

def SumOp.lexeme : SumOp → Lexeme
  | add => (.plus, "+")
  | sub => (.minus, "-")

def ProductOp.lexeme : ProductOp → Lexeme
  | mul => (.multiply, "*")
  | div => (.divide, "/")

namespace Grammar

mutual

inductive Expr where
  | term (t : Term)
  | sum (e : Expr) (op : SumOp) (t : Term)

inductive Term where
  | factor (f : Factor)
  | product (t : Term) (op : ProductOp) (f : Factor)

inductive Factor where
  | number (digits : String)
  | group (e : Expr)

end

mutual

/-- The lexemes that the tree spells, from left to right. -/
def Expr.lexemes : Expr → List Lexeme
  | .term t => t.lexemes
  | .sum e op t => e.lexemes ++ op.lexeme :: t.lexemes

def Term.lexemes : Term → List Lexeme
  | .factor f => f.lexemes
  | .product t op f => t.lexemes ++ op.lexeme :: f.lexemes

def Factor.lexemes : Factor → List Lexeme
  | .number digits => [(.number, digits)]
  | .group e => (.leftParen, "(") :: e.lexemes ++ [(.rightParen, ")")]

end

mutual

/-- The value of the tree, or the first error on the way from left to right. -/
def Expr.value : Expr → Except EvalError Binary64
  | .term t => t.value
  | .sum e op t => do
    let x ← e.value
    let y ← t.value
    return op.apply x y

def Term.value : Term → Except EvalError Binary64
  | .factor f => f.value
  | .product t op f => do
    let x ← t.value
    let y ← f.value
    op.apply x y

def Factor.value : Factor → Except EvalError Binary64
  | .number digits => literalValue digits
  | .group e => e.value

end

/-- The lexemes spell a whole expression. -/
def Sentence (ls : List Lexeme) : Prop := ∃ e : Expr, e.lexemes = ls

/-- The lexemes begin an expression, of which more may follow. -/
def Viable (ls : List Lexeme) : Prop := ∃ rest, Sentence (ls ++ rest)

end Grammar

end Calculator
