import Calculator.Program

/-!
# The command

The shell around the program: it answers each line as soon as it has been read, writes each log
record when it is made, and leaves every decision to the library.
-/

namespace Calculator

/-- Where the events of a session go. -/
structure Console where
  input : IO.FS.Stream
  output : IO.FS.Stream
  errors : IO.FS.Stream
  filter : Log.Filter
  /-- The number of the next log line. -/
  nextLine : IO.Ref Nat

namespace Console

def emit (k : Console) : Event → IO Unit
  | .write bs => do
    k.output.write (ByteArray.mk bs.toArray)
    k.output.flush
  | .log r => do
    if k.filter.admits r then
      let n ← k.nextLine.modifyGet fun n => (n, n + 1)
      k.errors.putStr (r.plainLine n ++ "\n")
  | .handled _ => pure ()

def emitAll (k : Console) (es : List Event) : IO Unit := es.forM k.emit

/-- The bytes up to and with the next line feed; none at the end of the input. -/
partial def readLine (k : Console) (line : ByteArray) : IO ByteArray := do
  let b ← k.input.read 1
  if b.isEmpty then return line
  let line := line ++ b
  if b.toList = [lineFeed] then return line else k.readLine line

/-- The next line as text; none at the end of the input. -/
def readText? (k : Console) : IO (Option String) := do
  let line ← k.readLine .empty
  if line.isEmpty then return none
  return some (String.ofList (Text.decode line.toList))

/-- Holds the exchanges of an interactive run, each as soon as its line has been read. -/
partial def converse (k : Console) (s : Session) : IO Unit := do
  k.emit s.config.promptEvent
  let exchange := s.exchange (← k.readText?)
  k.emitAll exchange.events
  if let some next := exchange.next then k.converse next

/-- Takes the steps of a run on a list, each as soon as the one before has been written. -/
def answerAll (k : Console) (b : Batch) : List String → IO Bool
  | [] => return b.succeeded
  | expr :: rest => do
    let (events, next) := b.step expr
    k.emitAll events
    k.answerAll next rest

def run (k : Console) (c : Config) : IO Bool := do
  k.emit (.log (Program.startRecord c))
  let s := Session.new c
  if c.isBatch then k.answerAll s.batch c.exprs
  else
    k.emitAll c.banner
    k.converse s
    return true

end Console

end Calculator

open Calculator in
def main (args : List String) : IO UInt32 := do
  let output ← IO.getStdout
  let errors ← IO.getStderr
  match CommandLine.parse args with
  | .error .help =>
    output.putStr CommandLine.helpText
    return 0
  | .error .version =>
    output.putStr CommandLine.versionText
    return 0
  | .error (.usage e) =>
    errors.putStr ("error: " ++ e.name ++ "\n")
    return 2
  | .ok c =>
    let spec := Program.filterSpec c (← IO.getEnv "RUST_LOG")
    (Log.Filter.warnings spec).forM fun w => errors.putStr (w ++ "\n")
    let console : Console :=
      { input := ← IO.getStdin, output, errors, filter := .ofSpec spec,
        nextLine := ← IO.mkRef 1 }
    let result ←
      try
        pure (.ok (← console.run c))
      catch e =>
        pure (.error (.io (toString e)))
    (Program.failureLines result).forM fun l => errors.putStr (l ++ "\n")
    return UInt32.ofNat (Program.exitCode result)
