import Calculator.Session.Script
import Calculator.Session.Source

/-!
# Sessions

A session answers lines of input one after the other and counts the expressions among them and
those that failed. It is run interactively, on a source of lines with a prompt before each, or on
a list of expressions. Its counts grow over all its operations.
-/

namespace Calculator

structure Counters where
  evaluated : Nat
  failed : Nat
  deriving DecidableEq

namespace Counters

def zero : Counters := ⟨0, 0⟩

def after (k : Counters) (o : Outcome) : Counters :=
  ⟨k.evaluated + o.isEvaluated.toNat, k.failed + o.isFailure.toNat⟩

def afterAll (k : Counters) (os : List Outcome) : Counters := os.foldl after k

theorem afterAll_append (k : Counters) (os ps : List Outcome) :
    k.afterAll (os ++ ps) = (k.afterAll os).afterAll ps := by
  simp [afterAll]

theorem afterAll_eq (k : Counters) (os : List Outcome) :
    k.afterAll os =
      ⟨k.evaluated + os.countP Outcome.isEvaluated, k.failed + os.countP Outcome.isFailure⟩ := by
  induction os generalizing k with
  | nil => rfl
  | cons o os ih =>
    simp only [afterAll, List.foldl_cons] at ih ⊢
    rw [ih]
    cases o <;>
      simp [after, Outcome.isEvaluated, Outcome.isFailure, List.countP_cons, Nat.add_assoc,
        Nat.add_comm 1]

end Counters

structure Session where
  config : Config
  counters : Counters
  deriving DecidableEq

/-- What one exchange of an interactive run comes to. -/
structure Exchange where
  events : List Event
  /-- The session to go on with, unless the run is over. -/
  next : Option Session

/-- A run on a list of expressions, as far as it has got. -/
structure Batch where
  session : Session
  /-- The expressions so far that had nothing to evaluate. The count has no bound; a signed one of
  32 bits is the same on every list of fewer than `2 ^ 31` expressions. -/
  skipped : Nat

/-- What an operation came to: its result, what it wrote and logged, and the session after it. -/
structure Report (α : Type) where
  result : Except ProgramError α
  output : List UInt8
  records : List Log.Record
  session : Session

namespace Config

def bannerText (c : Config) : String :=
  "=== Mini Math Interpreter ===\nSupported: +, -, *, /, parentheses\nType '" ++ c.exitCommand ++
    "' to quit.\n\n"

def banner (c : Config) : List Event := if c.quiet then [] else [.text c.bannerText]

def promptEvent (c : Config) : Event := .text c.prompt

end Config

/-- What a session does on its reply to a line. -/
def Reply.answer (r : Reply) : List Event :=
  Event.ofReply r ++ (r.outcome.render.map .line).toList

/-- What a session does on its reply to an expression from a list, where an answer is due in any
case. -/
def Reply.batchAnswer (r : Reply) (expr : String) : List Event :=
  match r.outcome.render with
  | some text => Event.ofReply r ++ [.line text]
  | none =>
    Event.ofReply r ++
      [.log (Log.sessionRecord .debug
        ("batch expression " ++ Text.quote expr ++ " has nothing to evaluate")),
       .line ("Error: Nothing to evaluate in " ++ Text.quote expr)]

namespace Session

def new (c : Config) : Session := ⟨c, .zero⟩

/-- The record of the end of an interactive run. -/
def finishedRecord (k : Counters) : Log.Record :=
  Log.sessionRecord .info ("session finished: " ++ toString k.evaluated ++ " evaluated, " ++
    toString k.failed ++ " failed")

def endOfInputRecord : Log.Record := Log.sessionRecord .debug "end of input"

/-- Handles one line and writes nothing. -/
def handleLine (s : Session) (line : String) : Reply × Session :=
  let r := s.config.reply line
  (r, { s with counters := s.counters.after r.outcome })

/-- What a session does, behind the prompt, with the line that has been read, or when there is
none left. The exit command ends the run. -/
def exchange (s : Session) : Option String → Exchange
  | none => ⟨[.log endOfInputRecord, .log (finishedRecord s.counters)], none⟩
  | some line =>
    let (reply, next) := s.handleLine line
    if reply.outcome = .exit then
      ⟨Event.ofReply reply ++ [.log (finishedRecord next.counters)], none⟩
    else ⟨reply.answer, some next⟩

/-- One exchange after the other, each behind a prompt. After the last line the input ends, or
reading fails. -/
def converse (s : Session) (failure : Option String) : List String → Script Unit
  | [] =>
    match failure with
    | none => ⟨s.config.promptEvent :: (s.exchange none).events, .ok ()⟩
    | some message => ⟨[s.config.promptEvent], .error (.io message)⟩
  | line :: rest =>
    let exchange := s.exchange (some line)
    .after (s.config.promptEvent :: exchange.events) <|
      match exchange.next with
      | none => ⟨[], .ok ()⟩
      | some next => next.converse failure rest

/-- The interactive run: it ends at the exit command, at the end of the source, or when reading
fails. -/
def runScript (s : Session) (source : Source) : Script Unit :=
  .after s.config.banner (s.converse source.failure source.texts)

end Session

namespace Batch

/-- Answers the next expression. -/
def step (b : Batch) (expr : String) : List Event × Batch :=
  let (reply, next) := b.session.handleLine expr
  (reply.batchAnswer expr, ⟨next, b.skipped + (!reply.outcome.isEvaluated).toNat⟩)

/-- Has the session had no failure, and was no expression of the list blank or the exit
command? -/
def succeeded (b : Batch) : Bool := b.session.counters.failed == 0 && b.skipped == 0

/-- One expression after the other, and at the end whether they succeeded. -/
def script (b : Batch) : List String → Script Bool
  | [] => ⟨[], .ok b.succeeded⟩
  | expr :: rest =>
    let (events, next) := b.step expr
    .after events (next.script rest)

end Batch

namespace Session

/-- A run on a list of expressions before the first of them. -/
def batch (s : Session) : Batch := ⟨s, 0⟩

def batchScript (s : Session) (exprs : List String) : Script Bool := s.batch.script exprs

/-- Plays a script of the session against a sink, limited or not. -/
def play {α : Type} (s : Session) (script : Script α) (limit : Option Limit) : Report α :=
  let sink := (Sink.empty (limit.map Limit.room)).acceptAll script.events
  { result :=
      match limit, sink.full with
      | some l, true => .error (.io l.message)
      | _, _ => script.result
    output := sink.output
    records := sink.records
    session := { s with counters := s.counters.afterAll sink.outcomes } }

def run (s : Session) (source : Source) (limit : Option Limit) : Report Unit :=
  s.play (s.runScript source) limit

def runBatch (s : Session) (exprs : List String) (limit : Option Limit) : Report Bool :=
  s.play (s.batchScript exprs) limit

def writeBanner (s : Session) (limit : Option Limit) : Report Unit :=
  s.play ⟨s.config.banner, .ok ()⟩ limit

end Session

end Calculator
