import Calculator.Text.Plain

/-!
# Log records

A record has a level, a target, which names what it is about, and a message. Written down it is
one line, with a sequence number in front and bars between.
-/

namespace Calculator.Log

inductive Level where
  | error
  | warn
  | info
  | debug
  | trace
  deriving DecidableEq

namespace Level

def all : List Level := [error, warn, info, debug, trace]

theorem mem_all (l : Level) : l ∈ all := by cases l <;> decide

def name : Level → String
  | error => "ERROR"
  | warn => "WARN"
  | info => "INFO"
  | debug => "DEBUG"
  | trace => "TRACE"

/-- How much a log at this level tells; each level tells more than the one before it. -/
def verbosity : Level → Nat
  | error => 1
  | warn => 2
  | info => 3
  | debug => 4
  | trace => 5

end Level

structure Record where
  level : Level
  target : String
  message : String
  deriving DecidableEq

namespace Record

/-- The record as a line with the given number. -/
def line (r : Record) (number : Nat) : String :=
  toString number ++ "|" ++ r.level.name ++ "|" ++ r.target ++ "|" ++ r.message

/-- The line as it is written to the log of the program. -/
def plainLine (r : Record) (number : Nat) : String :=
  String.ofList (Text.plain (r.line number).toList)

end Record

end Calculator.Log
