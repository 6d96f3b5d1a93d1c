import Calculator.Text.Quoted

/-!
# Settings of the calculator
-/

namespace Calculator

structure Config where
  /-- Expressions to evaluate instead of holding a session. -/
  exprs : List String
  /-- What is written before each line of a session is read. -/
  prompt : String
  /-- No banner at the start of a session. -/
  quiet : Bool
  /-- Answer with the tokens of a line, not with its value. -/
  tokens : Bool
  /-- The log filter where the environment sets none. -/
  logLevel : String
  /-- The line that ends a session, in letters of either case. -/
  exitCommand : String
  deriving DecidableEq

namespace Config

def default : Config := ⟨[], "> ", false, false, "warn", "exit"⟩

instance : Inhabited Config := ⟨default⟩

/-- Are there expressions to evaluate instead of holding a session? -/
def isBatch (c : Config) : Bool := !c.exprs.isEmpty

/-- All settings on one line. -/
def description (c : Config) : String :=
  "Config \x7b exprs: [" ++ ", ".intercalate (c.exprs.map Text.quote) ++
    "], prompt: " ++ Text.quote c.prompt ++ ", quiet: " ++ toString c.quiet ++
    ", tokens: " ++ toString c.tokens ++ ", log_level: " ++ Text.quote c.logLevel ++
    ", exit_command: " ++ Text.quote c.exitCommand ++ " \x7d"

end Config

end Calculator
