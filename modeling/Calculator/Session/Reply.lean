import Calculator.Binary64.Decimal
import Calculator.Config
import Calculator.Evaluation
import Calculator.Log.Record

/-!
# The reply to a line

A line without its blank ends is the exit command, blank, or an expression. An expression has a
value, or in token mode a listing of its tokens, or an error. What happens on the way is
recorded: each token read, the verdict on the expression, and the error once more under its own
category.
-/

namespace Calculator

/-- What a line turned out to be. -/
inductive Outcome where
  | skip
  | exit
  | value (x : Binary64)
  | tokens (listing : String)
  | failure (e : EvalError)
  deriving DecidableEq

namespace Outcome

/-- The line written for an outcome, without its end. -/
def render : Outcome → Option String
  | skip => none
  | exit => none
  | value x => some x.answerText
  | tokens listing => some listing
  | failure e => some ("Error: " ++ e.message)

/-- Was the line given to the evaluator? -/
def isEvaluated : Outcome → Bool
  | skip => false
  | exit => false
  | _ => true

def isFailure : Outcome → Bool
  | failure _ => true
  | _ => false

end Outcome

namespace Log

def tokenRecord (t : Token) : Record :=
  ⟨.trace, "mathexpr_parser::lexer",
    "token " ++ t.kind.name ++ " " ++ Text.quote t.text ++ " at " ++ toString t.offset⟩

def verdictRecord (line : String) (result : Except EvalError Binary64) : Record :=
  ⟨.debug, "mathexpr_parser::parser",
    match result with
    | .ok x => "evaluated " ++ Text.quote line ++ " = " ++ x.plainText
    | .error e => "rejected " ++ Text.quote line ++ ": " ++ e.message⟩

def failureRecord (line : String) (e : EvalError) : Record :=
  ⟨.debug, e.category, Text.quote line ++ ": " ++ e.message⟩

def sessionRecord (level : Level) (message : String) : Record :=
  ⟨level, "mathexpr_cli::session", message⟩

end Log

/-- An outcome, and the records made while it was found. -/
structure Reply where
  outcome : Outcome
  records : List Log.Record
  deriving DecidableEq

/-- The tokens of a line as `Kind(text) Kind(text) …`. -/
def listing (ts : List Token) : String := " ".intercalate (ts.map Token.listed)

/-- The reply to an expression in token mode. -/
def Reply.tokens (line : String) : Reply :=
  let stream := TokenStream.ofString line
  let records := stream.items.map Log.tokenRecord
  match stream.toExcept with
  | .ok ts => ⟨.tokens (listing ts), records⟩
  | .error e => ⟨.failure e, records ++ [Log.failureRecord line e]⟩

/-- The reply to an expression in evaluation mode. -/
def Reply.value (line : String) : Reply :=
  let stream := TokenStream.ofString line
  let evaluation := Evaluation.ofStream stream
  let records := (stream.items.take evaluation.read).map Log.tokenRecord ++
    [Log.verdictRecord line evaluation.result]
  match evaluation.result with
  | .ok x => ⟨.value x, records⟩
  | .error e => ⟨.failure e, records ++ [Log.failureRecord line e]⟩

namespace Config

/-- Is the line, without its blank ends, the exit command? -/
def isExit (c : Config) (line : String) : Bool :=
  Text.sameIgnoringCase (Text.trim line.toList) c.exitCommand.toList

/-- The reply to a line. An empty exit command makes a blank line end the session. -/
def reply (c : Config) (line : String) : Reply :=
  if c.isExit line then ⟨.exit, []⟩
  else
    let line := String.ofList (Text.trim line.toList)
    if line.isEmpty then ⟨.skip, []⟩
    else if c.tokens then .tokens line
    else .value line

end Config

end Calculator
