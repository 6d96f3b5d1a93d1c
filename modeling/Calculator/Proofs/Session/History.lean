import Calculator.Proofs.Session.Reached
import Mathlib.Data.List.Forall2

/-!
# Histories of a session

Whatever operations a session performs, and wherever their sinks end or their sources fail, its
counters tell of the lines that were reached: how many of them were expressions, and how many of
these were refused. Each operation does to the session what handling the lines that it reaches,
one after the other, would do.
-/

namespace Calculator

/-! ## What an operation reaches -/

/-- What is done with a session. -/
inductive Operation where
  | line (text : String)
  | run (source : Source) (limit : Option Limit)
  | batch (exprs : List String) (limit : Option Limit)
  | banner (limit : Option Limit)
  deriving DecidableEq

/-- The texts that an operation handles. A run reaches a line when no line before it is the exit
command and its sink takes all that is written before the line is read, and a run on a list
reaches an expression when the sink takes the answers to those before it. -/
inductive Operation.Handles (c : Config) : Operation → List String → Prop where
  | line (text : String) : Handles c (.line text) [text]
  | run {source : Source} {limit : Option Limit} {done : List (List UInt8)}
      (h : Reached (fun before => (∀ l ∈ before, ¬ c.IsExitLine l) ∧
        Fits limit ((Session.new c).run ⟨before.flatten, none⟩ none).output) source.lines done) :
      Handles c (.run source limit) (done.map lineText)
  | batch {exprs : List String} {limit : Option Limit} {done : List String}
      (h : Reached (fun before => Fits limit ((Session.new c).runBatch before none).output) exprs
        done) :
      Handles c (.batch exprs limit) done
  | banner (limit : Option Limit) : Handles c (.banner limit) []

theorem Operation.Handles.unique {c : Config} : Relator.RightUnique (Handles c) := by
  intro op hs hs' h h'
  cases h with
  | line text =>
      cases h'
      rfl
  | run h =>
      cases h' with
      | run h' => rw [h.unique h']
  | batch h =>
      cases h' with
      | batch h' => rw [h.unique h']
  | banner limit =>
      cases h'
      rfl

namespace Config

/-- The turn for a line that is reached. For the exit command nothing is logged or written. -/
def lineTurn (c : Config) (l : List UInt8) : Turn :=
  if c.isExit (lineText l) then ⟨.exit, [], []⟩ else c.turn (lineText l)

variable {c : Config} {l : List UInt8}

theorem lineTurn_of_not_isExitLine (h : ¬ c.IsExitLine l) :
    c.lineTurn l = c.turn (lineText l) := by
  rw [lineTurn, if_neg (isExit_lineText_iff.not.mpr h)]

theorem outcome_lineTurn (c : Config) (l : List UInt8) :
    (c.lineTurn l).outcome = (c.reply (lineText l)).outcome := by
  rw [lineTurn]
  split
  · next h => rw [reply_of_isExit h]
  · rfl

end Config

namespace Session

/-- The exit command is the last line that is reached. -/
theorem reached_exit {c : Config} {before after : List (List UInt8)}
    (hbefore : ∀ l ∈ before, ¬ c.IsExitLine l) (hafter : ∀ l ∈ after.head?, c.IsExitLine l) :
    Reached (fun ls => ∀ l ∈ ls, ¬ c.IsExitLine l) (before ++ after) (before ++ after.take 1) := by
  have hinitial : before ++ after.take 1 <+: before ++ after :=
    (List.prefix_append_right_inj before).mpr (List.take_prefix 1 after)
  refine ⟨hinitial, fun ls x hx => ?_⟩
  constructor
  · intro hdone l hl
    have hle : ls.length ≤ before.length := by
      have hlength := hdone.length_le
      simp only [List.length_append, List.length_cons, List.length_nil, List.length_take] at hlength
      omega
    have hls : ls <+: before :=
      List.prefix_of_prefix_length_le ((List.prefix_append ls [x]).trans hx)
        (List.prefix_append before after) hle
    exact hbefore l (hls.subset hl)
  · intro hls
    rcases List.prefix_or_prefix_of_prefix hx hinitial with hdone | hdone
    · exact hdone
    · rcases List.prefix_concat_iff.mp hdone with heq | hdone
      · exact heq ▸ List.prefix_rfl
      · cases after with
        | nil =>
            have hlength := hx.length_le
            have hlength' := hdone.length_le
            simp only [List.take_nil, List.append_nil, List.length_append, List.length_cons,
              List.length_nil] at hlength hlength'
            omega
        | cons l _ => exact absurd (hafter l rfl) (hls l (hdone.subset (by simp)))

theorem events_runScript (s : Session) {source : Source} {before after : List (List UInt8)}
    (hlines : source.lines = before ++ after) (hbefore : ∀ l ∈ before, ¬ s.config.IsExitLine l)
    (hafter : ∀ l ∈ after.head?, s.config.IsExitLine l) : ∃ closing : List Log.Record,
      (s.runScript source).events = Turn.sequence s.config.opening
        ((before ++ after.take 1).map s.config.lineTurn) (closing.map .log) := by
  have hturns : (before.map lineText).map s.config.turn = before.map s.config.lineTurn := by
    rw [List.map_map]
    apply List.map_congr_left
    intro l hl
    exact (Config.lineTurn_of_not_isExitLine (hbefore l hl)).symm
  rw [s.runScript_of_lines hlines hbefore hafter, hturns]
  cases after with
  | nil =>
      rw [List.take_nil, List.append_nil]
      cases source.failure with
      | none => exact ⟨[endOfInputRecord, finishedRecord _], rfl⟩
      | some message => exact ⟨[], rfl⟩
  | cons l ls =>
      have hexit : s.config.lineTurn l = ⟨.exit, [], []⟩ := by
        rw [Config.lineTurn, if_pos (Config.isExit_lineText_iff.mpr (hafter l rfl))]
      refine ⟨[finishedRecord (s.handleLines (before.map lineText)).counters], ?_⟩
      simp [closing, hexit, Turn.sequence, Turn.events, Turn.quietEvents]

/-- What is written before the line behind `before` is read. -/
theorem output_run_lineTurn (s : Session) {source : Source} {before : List (List UInt8)}
    (hbefore : before <+: source.lines) (hexit : ∀ l ∈ before, ¬ s.config.IsExitLine l) :
    (s.run ⟨before.flatten, none⟩ none).output =
      s.config.opening.flatten ++ (before.map s.config.lineTurn).flatMap Turn.bytes := by
  have hturns : before.map (s.config.turn ∘ lineText) = before.map s.config.lineTurn := by
    apply List.map_congr_left
    intro l hl
    exact (Config.lineTurn_of_not_isExitLine (hexit l hl)).symm
  rw [s.output_run_of_isPrefix hbefore hexit, hturns]

/-- The session after it has performed an operation. -/
def perform (s : Session) : Operation → Session
  | .line text => (s.handleLine text).2
  | .run source limit => (s.run source limit).session
  | .batch exprs limit => (s.runBatch exprs limit).session
  | .banner limit => (s.writeBanner limit).session

theorem exists_handles_run (s : Session) (source : Source) (limit : Option Limit) :
    ∃ handled, Operation.Handles s.config (.run source limit) handled ∧
      (s.run source limit).session = s.handleLines handled := by
  obtain ⟨before, after, hlines, hbefore, hafter⟩ := exists_exit_split s.config source.lines
  obtain ⟨closing, hevents⟩ := s.events_runScript hlines hbefore hafter
  obtain ⟨done, hdone, hsession⟩ := s.exists_reached hevents limit
  have hreached := hdone.trans (reached_exit hbefore hafter)
  rw [← hlines] at hreached
  refine ⟨done.map lineText, .run (hreached.congr fun ls x hx => ?_), ?_⟩
  · apply and_congr_right
    intro hexit
    have hls : ls <+: source.lines := (List.prefix_append ls [x]).trans hx
    rw [output_run_lineTurn (Session.new s.config) hls hexit, Session.new]
  · rw [run, hsession, handleLines_eq, List.map_map]
    simp only [Config.outcome_lineTurn, Function.comp_def]

theorem exists_handles_batch (s : Session) (exprs : List String) (limit : Option Limit) :
    ∃ handled, Operation.Handles s.config (.batch exprs limit) handled ∧
      (s.runBatch exprs limit).session = s.handleLines handled := by
  have hscript : (s.batchScript exprs).events =
      Turn.sequence [] (exprs.map s.config.batchTurn) (([] : List Log.Record).map .log) :=
    s.batchScript_events exprs
  obtain ⟨done, hdone, hsession⟩ := s.exists_reached hscript limit
  refine ⟨done, .batch (hdone.congr fun es x _ => ?_), ?_⟩
  · rw [output_runBatch, Session.new, List.flatten_nil, List.nil_append]
  · rw [runBatch, hsession, handleLines_eq]
    simp only [outcome_batchTurn]

/-- An operation does to the session what handling the lines does that it reaches. -/
theorem exists_handles (s : Session) (op : Operation) :
    ∃ handled, op.Handles s.config handled ∧ s.perform op = s.handleLines handled := by
  cases op with
  | line text => exact ⟨[text], .line text, rfl⟩
  | run source limit => exact s.exists_handles_run source limit
  | batch exprs limit => exact s.exists_handles_batch exprs limit
  | banner limit =>
      have hscript : (Script.mk s.config.banner (.ok ())).events =
          Turn.sequence (if s.config.quiet then [] else [Text.encode s.config.bannerText])
            (([] : List String).map s.config.turn) (([] : List Log.Record).map .log) :=
        banner_eq_sequence s.config
      obtain ⟨done, hdone, hsession⟩ := s.exists_reached hscript limit
      obtain rfl := List.prefix_nil.mp hdone.initial
      exact ⟨[], .banner limit, hsession⟩

/-! ## Histories -/

/-- The session after it has performed some operations. -/
def performAll (s : Session) (ops : List Operation) : Session := ops.foldl perform s

theorem exists_handles_all (s : Session) (ops : List Operation) :
    ∃ handled, List.Forall₂ (Operation.Handles s.config) ops handled ∧
      s.performAll ops = s.handleLines handled.flatten := by
  induction ops generalizing s with
  | nil => exact ⟨[], .nil, rfl⟩
  | cons op ops ih =>
      obtain ⟨ls, hls, hperform⟩ := s.exists_handles op
      obtain ⟨handled, hhandled, hall⟩ := ih (s.perform op)
      rw [hperform, config_handleLines] at hhandled
      refine ⟨ls :: handled, .cons hls hhandled, ?_⟩
      rw [List.flatten_cons, handleLines_append, ← hperform, ← hall]
      rfl

end Session

/-! ## What the counters count -/

namespace Config

variable {c : Config} {line : String}

/-- What is between the blank ends of the line has no value, or in token mode no tokens. -/
def rejects (c : Config) (line : String) : Bool :=
  let inner := String.ofList (Text.trim line.toList)
  if c.tokens then !(tokenize inner).isOk else !(evaluate inner).isOk

theorem isEvaluated_reply (c : Config) (line : String) :
    (c.reply line).outcome.isEvaluated = decide ¬ c.AsksNothing line := by
  by_cases h : c.AsksNothing line
  · rcases outcome_of_asksNothing h with hskip | hexit
    · simp [hskip, h, Outcome.isEvaluated]
    · simp [hexit, h, Outcome.isEvaluated]
  · rw [outcome_of_not_asksNothing h, decide_eq_true h]
    split
    · exact Outcome.isEvaluated_ofTokens _
    · exact Outcome.isEvaluated_ofValue _

theorem isFailure_reply (c : Config) (line : String) :
    (c.reply line).outcome.isFailure = (decide (¬ c.AsksNothing line) && c.rejects line) := by
  by_cases h : c.AsksNothing line
  · rcases outcome_of_asksNothing h with hskip | hexit
    · simp [hskip, h, Outcome.isFailure]
    · simp [hexit, h, Outcome.isFailure]
  · rw [outcome_of_not_asksNothing h, decide_eq_true h, Bool.true_and, rejects]
    split
    · cases tokenize (String.ofList (Text.trim line.toList)) <;> rfl
    · cases evaluate (String.ofList (Text.trim line.toList)) <;> rfl

end Config

namespace Session

theorem counters_handleLines (s : Session) (ls : List String) :
    (s.handleLines ls).counters =
      ⟨s.counters.evaluated + (ls.filter fun l => ¬ s.config.AsksNothing l).length,
        s.counters.failed +
          (ls.filter fun l => ¬ s.config.AsksNothing l).countP s.config.rejects⟩ := by
  have hevaluated : (Outcome.isEvaluated ∘ fun l => (s.config.reply l).outcome) =
      fun l => decide ¬ s.config.AsksNothing l := funext s.config.isEvaluated_reply
  have hfailed : (Outcome.isFailure ∘ fun l => (s.config.reply l).outcome) =
      fun l => s.config.rejects l && decide ¬ s.config.AsksNothing l := by
    funext l
    rw [Function.comp_apply, Config.isFailure_reply, Bool.and_comm]
  simp only [handleLines_eq, Counters.afterAll_eq, List.countP_map, List.countP_filter,
    ← List.countP_eq_length_filter, hevaluated, hfailed]

/-- No operation takes back what has been counted. -/
theorem counters_le_performAll (s : Session) (ops : List Operation) :
    s.counters.evaluated ≤ (s.performAll ops).counters.evaluated ∧
      s.counters.failed ≤ (s.performAll ops).counters.failed := by
  obtain ⟨handled, -, hall⟩ := s.exists_handles_all ops
  rw [hall, counters_handleLines]
  exact ⟨Nat.le_add_right _ _, Nat.le_add_right _ _⟩

/-- After any operations the counters count the lines that these have handled: those that ask for
something, and those among them that are rejected. Which lines an operation handles leaves no
choice. -/
theorem history_counters (c : Config) (ops : List Operation) :
    ∃ handled, (∀ hs, List.Forall₂ (Operation.Handles c) ops hs ↔ hs = handled) ∧
      let s := (Session.new c).performAll ops
      let asked := handled.flatten.filter fun l => ¬ c.AsksNothing l
      s.config = c ∧ s.counters.evaluated = asked.length ∧
        s.counters.failed = asked.countP c.rejects ∧
        s.counters.failed ≤ s.counters.evaluated ∧
        ∀ more, let later := (Session.new c).performAll (ops ++ more)
          s.counters.evaluated ≤ later.counters.evaluated ∧
            s.counters.failed ≤ later.counters.failed := by
  obtain ⟨handled, hhandled, hall⟩ := (Session.new c).exists_handles_all ops
  have hcounters := (Session.new c).counters_handleLines handled.flatten
  simp only [new, Counters.zero, Nat.zero_add] at hcounters
  refine ⟨handled, fun hs => ⟨fun hhs => ?_, fun hhs => hhs ▸ hhandled⟩, ?_⟩
  · exact (Operation.Handles.unique (c := c)).forall₂ hhs hhandled
  · intro s asked
    have hs : s.counters = ⟨asked.length, asked.countP c.rejects⟩ :=
      (congrArg Session.counters hall).trans hcounters
    refine ⟨?_, by rw [hs], by rw [hs], ?_, fun more => ?_⟩
    · exact (congrArg Session.config hall).trans (config_handleLines _ _)
    · rw [hs]
      exact List.countP_le_length
    · rw [performAll, List.foldl_append]
      exact s.counters_le_performAll more

end Session

end Calculator
