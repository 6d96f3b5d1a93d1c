/-!
# Failures of the surroundings

What ends an operation although no expression is at fault.
-/

namespace Calculator

inductive ProgramError where
  /-- The input or the output failed, with the system's own message. -/
  | io (message : String)
  /-- A second log was set up. -/
  | logger
  deriving DecidableEq

def ProgramError.message : ProgramError → String
  | io m => "IO error: " ++ m
  | logger =>
    "Logger error: attempted to set a logger after the logging system was already initialized"

end Calculator
