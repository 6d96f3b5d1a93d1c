import Calculator.Binary64.Word
import Calculator.Grammar
import Calculator.Main
import Calculator.Proofs.Scanner.Layout
import Calculator.Proofs.Scanner.Tiling
import Calculator.Proofs.Grammar.PartialTree
import Calculator.Proofs.Grammar.Value
import Calculator.Proofs.Evaluation.Simulation
import Calculator.Proofs.Evaluation.Trees
import Calculator.Proofs.Evaluation.SyntaxError
import Calculator.Proofs.Evaluation.Fault
import Calculator.Proofs.Evaluation.ViablePrefix
import Calculator.Proofs.Scanner.Schedule
import Calculator.Proofs.Session.Limit
import Calculator.Proofs.Session.Lines
import Calculator.Proofs.Session.Turns
import Calculator.Proofs.Session.Transcript
import Calculator.Proofs.Session.Interruption
import Calculator.Proofs.Binary64.Integer
import Calculator.Proofs.Binary64.IntegerText
import Calculator.Proofs.Evaluation.Exact
import Calculator.Proofs.Scanner.Trimming
import Calculator.Proofs.Session.ExactAnswer
import Calculator.Proofs.Evaluation.Places
import Calculator.Proofs.Scanner.Joining
import Calculator.Proofs.Evaluation.Group
import Calculator.Proofs.Scanner.Spacing
import Calculator.Proofs.Evaluation.Whitespace
import Calculator.Proofs.Text.Utf8
import Calculator.Proofs.Session.Batch
import Calculator.Proofs.Text.Shown
import Calculator.Proofs.Evaluation.Blame
import Calculator.Proofs.Session.OneLine
import Calculator.Proofs.Session.Listing
import Calculator.Proofs.Session.AnswerLines
import Calculator.Proofs.CommandLine.Expressions
import Calculator.Proofs.Program.Modes
import Calculator.Proofs.Session.TokenMode
import Calculator.Proofs.Session.Reached
import Calculator.Proofs.Session.History
import Calculator.Proofs.Log.Filter
import Calculator.Proofs.Log.Line
import Calculator.Proofs.Program.Logging
import Calculator.Proofs.Evaluation.Extension
import Calculator.Proofs.Session.Success
import Calculator.Proofs.Binary64.Nearest
import Calculator.Proofs.Binary64.Shortest
import Calculator.Proofs.Text.Decimal
import Calculator.Proofs.Evaluation.Literal
import Calculator.Proofs.Evaluation.ReadBack
import Calculator.Proofs.Scanner.Concatenation
import Calculator.Proofs.Text.Trimming
import Calculator.Proofs.Session.BlankEnds
import Calculator.Proofs.Text.Decoding
import Calculator.Proofs.Session.Malformed
import Calculator.Proofs.Session.Recoding
import Calculator.Proofs.Session.ExitCommand
import Calculator.Proofs.CommandLine.Spelling
import Calculator.Proofs.Session.Demand
import Calculator.Proofs.Binary64.Overflow
import Calculator.Proofs.Evaluation.Operations
