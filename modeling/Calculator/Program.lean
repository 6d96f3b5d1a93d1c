import Calculator.CommandLine
import Calculator.Log.Filter
import Calculator.Session.Basic

/-!
# The program

From arguments, input and the log filter of the environment to exit code, output and log. With
expressions among the arguments the program evaluates them and reads no input; without, it holds
a session on its input.
-/

namespace Calculator

namespace Log

/-- The records that a filter admits as lines, numbered from one. -/
def Filter.lines (f : Filter) (rs : List Record) : List String :=
  ((rs.filter f.admits).zipIdx 1).map fun (r, n) => r.plainLine n

end Log

/-- What the program leaves behind. -/
structure Completion where
  exitCode : Nat
  output : List UInt8
  diagnostics : List String
  deriving DecidableEq

namespace Program

/-- The filter of the environment, or else the one of the settings. -/
def filterSpec (c : Config) (environment : Option String) : String :=
  environment.getD c.logLevel

def startRecord (c : Config) : Log.Record :=
  ⟨.debug, "mathexpr_cli", "starting with " ++ c.description⟩

def failureLine (e : ProgramError) : String := "mathexpr: " ++ e.message

/-- Zero if the run came to its end and everything in it has succeeded. -/
def exitCode : Except ProgramError Bool → Nat
  | .ok true => 0
  | _ => 1

/-- What is said of a run that did not come to its end. -/
def failureLines : Except ProgramError Bool → List String
  | .ok _ => []
  | .error e => [failureLine e]

/-- Runs with settings that have been read. -/
def runConfig (c : Config) (input : List UInt8) (environment : Option String) : Completion :=
  let spec := filterSpec c environment
  let report : Report Bool :=
    if c.isBatch then (Session.new c).runBatch c.exprs none
    else
      let r := (Session.new c).run ⟨input, none⟩ none
      { r with result := r.result.map fun _ => true }
  let lines := Log.Filter.warnings spec ++
    (Log.Filter.ofSpec spec).lines (startRecord c :: report.records)
  ⟨exitCode report.result, report.output, lines ++ failureLines report.result⟩

/-- Runs the program. Arguments that cannot be used are told apart from a completed run. -/
def run (args : List String) (input : List UInt8) (environment : Option String) :
    Except CommandLine.UsageError Completion :=
  match CommandLine.parse args with
  | .ok c => .ok (runConfig c input environment)
  | .error .help => .ok ⟨0, Text.encode CommandLine.helpText, []⟩
  | .error .version => .ok ⟨0, Text.encode CommandLine.versionText, []⟩
  | .error (.usage e) => .error e

end Program

end Calculator
