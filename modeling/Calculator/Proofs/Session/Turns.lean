import Calculator.Proofs.Session.Limit
import Calculator.Proofs.Session.Reply

/-!
# Turns

An operation of a session takes one turn for each line or expression, which is what one step of its
loop comes to. A turn handles it, logs what there is to log, and then writes; the prompt for the
next line belongs to the turn. Before the first turn the operation only writes, and behind the last
one it writes nothing. So the turns that a limited sink lets happen are the first ones, up to the
turn whose own writes do not fit.
-/

namespace Calculator

namespace Event

@[simp] theorem allBytes_map_log (rs : List Log.Record) : allBytes (rs.map .log) = [] :=
  allBytes_eq_nil fun e he => by
    obtain ⟨r, -, rfl⟩ := List.mem_map.mp he
    rfl

@[simp] theorem filterMap_record?_map_log (rs : List Log.Record) :
    (rs.map .log).filterMap record? = rs := by
  rw [List.filterMap_map]
  exact List.filterMap_some

@[simp] theorem filterMap_record?_map_write (ws : List (List UInt8)) :
    (ws.map .write).filterMap record? = [] := by
  simp [List.filterMap_eq_nil_iff, record?]

@[simp] theorem filterMap_outcome?_map_log (rs : List Log.Record) :
    (rs.map .log).filterMap outcome? = [] := by
  simp [List.filterMap_eq_nil_iff, outcome?]

@[simp] theorem filterMap_outcome?_map_write (ws : List (List UInt8)) :
    (ws.map .write).filterMap outcome? = [] := by
  simp [List.filterMap_eq_nil_iff, outcome?]

end Event

structure Turn where
  outcome : Outcome
  records : List Log.Record
  writes : List (List UInt8)

namespace Turn

/-- What happens before there is anything to write. -/
def quietEvents (t : Turn) : List Event := .handled t.outcome :: t.records.map .log

def events (t : Turn) : List Event := t.quietEvents ++ t.writes.map .write

def bytes (t : Turn) : List UInt8 := t.writes.flatten

@[simp] theorem allBytes_quietEvents (t : Turn) : Event.allBytes t.quietEvents = [] := by
  simp [quietEvents, Event.bytes]

@[simp] theorem allBytes_events (t : Turn) : Event.allBytes t.events = t.bytes := by
  simp [events, bytes]

@[simp] theorem allBytes_flatMap_events (ts : List Turn) :
    Event.allBytes (ts.flatMap events) = ts.flatMap bytes := by
  induction ts with
  | nil => rfl
  | cons t ts ih => simp [ih]

@[simp] theorem filterMap_outcome?_quietEvents (t : Turn) :
    t.quietEvents.filterMap Event.outcome? = [t.outcome] := by
  simp [quietEvents, Event.outcome?]

@[simp] theorem filterMap_record?_quietEvents (t : Turn) :
    t.quietEvents.filterMap Event.record? = t.records := by
  rw [quietEvents, List.filterMap_cons_none rfl, Event.filterMap_record?_map_log]

@[simp] theorem filterMap_outcome?_flatMap_events (ts : List Turn) :
    (ts.flatMap events).filterMap Event.outcome? = ts.map outcome := by
  induction ts with
  | nil => rfl
  | cons t ts ih => simp [ih, events, Event.outcome?]

@[simp] theorem filterMap_record?_flatMap_events (ts : List Turn) :
    (ts.flatMap events).filterMap Event.record? = ts.flatMap records := by
  induction ts with
  | nil => rfl
  | cons t ts ih => simp [ih, events, Event.record?]

/-- First only writing, then the turns, then what is left to do. -/
def sequence (start : List (List UInt8)) (turns : List Turn) (closing : List Event) : List Event :=
  start.map .write ++ turns.flatMap events ++ closing

section Sequence

variable (start : List (List UInt8)) (turns : List Turn) (closing : List Event)

theorem allBytes_sequence : Event.allBytes (sequence start turns closing) =
    start.flatten ++ turns.flatMap bytes ++ Event.allBytes closing := by
  simp [sequence]

theorem outcomes_sequence : (sequence start turns closing).filterMap Event.outcome? =
    turns.map outcome ++ closing.filterMap Event.outcome? := by
  simp [sequence, Event.outcome?]

theorem records_sequence : (sequence start turns closing).filterMap Event.record? =
    turns.flatMap records ++ closing.filterMap Event.record? := by
  simp [sequence, Event.record?]

end Sequence

end Turn

/-! ## A limit reached within the turns -/

/-- After `start` and these turns, `n` bytes are as many as are written before the last turn, and
fewer than are written with it. -/
structure LastTurn (n : Nat) (start : List UInt8) (done : List Turn) : Prop where
  fits : ∀ init t, done = init ++ [t] → (start ++ init.flatMap Turn.bytes).length ≤ n
  exceeds : n < (start ++ done.flatMap Turn.bytes).length

namespace LastTurn

variable {n : Nat} {start : List UInt8} {t : Turn} {done : List Turn}

theorem none (h : n < start.length) : LastTurn n start [] := by
  refine ⟨fun init u hu => ?_, by simpa using h⟩
  exact (List.append_ne_nil_of_right_ne_nil init (List.cons_ne_nil u []) hu.symm).elim

theorem cons (hstart : start.length ≤ n) (h : LastTurn n (start ++ t.bytes) done) :
    LastTurn n start (t :: done) := by
  refine ⟨fun init u hu => ?_, ?_⟩
  · cases init with
    | nil => simpa using hstart
    | cons v init =>
        obtain ⟨rfl, hdone⟩ := List.cons.inj hu
        simpa using h.fits init u hdone
  · simpa using h.exceeds

end LastTurn

namespace Sink

variable {n : Nat}

/-- Played from its first turn on, a sequence that does not fit is stopped in some turn, or before
the first one. -/
theorem exists_lastTurn {start : List UInt8} {happened : Array Event} {turns : List Turn}
    {closing : List Event} (hstart : start.length ≤ n)
    (h : n < (start ++ turns.flatMap Turn.bytes).length) :
    ∃ done rest, turns = done ++ rest ∧ LastTurn n start done ∧
      (acceptAll ⟨some (n - start.length), happened, false⟩
        (turns.flatMap Turn.events ++ closing)).outcomes =
          happened.toList.filterMap Event.outcome? ++ done.map Turn.outcome ∧
      (acceptAll ⟨some (n - start.length), happened, false⟩
        (turns.flatMap Turn.events ++ closing)).records =
          happened.toList.filterMap Event.record? ++ done.flatMap Turn.records := by
  induction turns generalizing start happened with
  | nil =>
      rw [List.flatMap_nil, List.append_nil] at h
      omega
  | cons t ts ih =>
      have hquiet : acceptAll ⟨some (n - start.length), happened, false⟩ t.quietEvents =
          ⟨some (n - start.length), happened ++ t.quietEvents, false⟩ := by
        rw [acceptAll_of_le (by simp), Turn.allBytes_quietEvents, List.length_nil, Nat.sub_zero]
      rw [List.flatMap_cons, List.append_assoc, Turn.events, List.append_assoc, acceptAll_append,
        hquiet, acceptAll_append]
      by_cases ht : (start ++ t.bytes).length ≤ n
      · have hwrites : (Event.allBytes (t.writes.map .write)).length ≤ n - start.length := by
          rw [Event.allBytes_map_write, ← Turn.bytes]
          rw [List.length_append] at ht
          omega
        rw [List.flatMap_cons, ← List.append_assoc] at h
        rw [acceptAll_of_le hwrites, Event.allBytes_map_write, ← Turn.bytes, Nat.sub_sub,
          ← List.length_append]
        obtain ⟨done, rest, rfl, hlast, houtcomes, hrecords⟩ := ih ht h
        refine ⟨t :: done, rest, rfl, .cons hstart hlast, ?_, ?_⟩
        · rw [houtcomes]
          simp [Event.outcome?]
        · rw [hrecords]
          simp [Event.record?]
      · have ht' : n < (start ++ t.bytes).length := Nat.not_le.mp ht
        have hwrites : n - start.length < t.writes.flatten.length := by
          rw [List.length_append, Turn.bytes] at ht'
          omega
        obtain ⟨vs, hvs⟩ := acceptAll_writes_of_lt hwrites
        rw [hvs, acceptAll_full _ rfl]
        refine ⟨[t], ts, rfl, .cons hstart (.none ht'), ?_, ?_⟩
        · simp [outcomes, Event.outcome?]
        · simp [records, Event.record?]

theorem exists_lastTurn_sequence {start : List (List UInt8)} {turns : List Turn}
    {closing : List Event} (h : n < (start.flatten ++ turns.flatMap Turn.bytes).length) :
    ∃ done rest, turns = done ++ rest ∧ LastTurn n start.flatten done ∧
      (acceptAll (.empty (some n)) (Turn.sequence start turns closing)).outcomes =
        done.map Turn.outcome ∧
      (acceptAll (.empty (some n)) (Turn.sequence start turns closing)).records =
        done.flatMap Turn.records := by
  rw [Turn.sequence, List.append_assoc, acceptAll_append, empty]
  by_cases hstart : start.flatten.length ≤ n
  · rw [acceptAll_of_le (by rwa [Event.allBytes_map_write]), Event.allBytes_map_write]
    obtain ⟨done, rest, hturns, hlast, houtcomes, hrecords⟩ := exists_lastTurn hstart h
    refine ⟨done, rest, hturns, hlast, ?_, ?_⟩
    · rw [houtcomes]
      simp [Event.outcome?]
    · rw [hrecords]
      simp [Event.record?]
  · have hstart' : n < start.flatten.length := Nat.not_le.mp hstart
    obtain ⟨vs, hvs⟩ := acceptAll_writes_of_lt hstart'
    rw [hvs, acceptAll_full _ rfl]
    refine ⟨[], turns, rfl, .none hstart', ?_, ?_⟩
    · simp [outcomes, Event.outcome?]
    · simp [records, Event.record?]

end Sink

/-! ## The operations of a session -/

namespace Config

/-- The turn for a line. -/
def turn (c : Config) (line : String) : Turn :=
  let r := c.reply line
  ⟨r.outcome, r.records,
    (r.outcome.render.map fun t => Text.encode (t ++ "\n")).toList ++ [Text.encode c.prompt]⟩

/-- The turn for an expression of a list. -/
def batchTurn (c : Config) (expr : String) : Turn :=
  let r := c.reply expr
  match r.outcome.render with
  | some text => ⟨r.outcome, r.records, [Text.encode (text ++ "\n")]⟩
  | none =>
    ⟨r.outcome, r.records ++ [Log.sessionRecord .debug
        ("batch expression " ++ Text.quote expr ++ " has nothing to evaluate")],
      [Text.encode ("Error: Nothing to evaluate in " ++ Text.quote expr ++ "\n")]⟩

/-- What is written before the first turn. -/
def opening (c : Config) : List (List UInt8) :=
  (if c.quiet then [] else [Text.encode c.bannerText]) ++ [Text.encode c.prompt]

theorem events_turn (c : Config) (line : String) :
    (c.turn line).events = (c.reply line).answer ++ [c.promptEvent] := by
  rw [turn, Reply.answer]
  cases (c.reply line).outcome.render <;>
    simp [Turn.events, Turn.quietEvents, Event.ofReply, Event.line, Event.text, promptEvent]

theorem events_batchTurn (c : Config) (expr : String) :
    (c.batchTurn expr).events = (c.reply expr).batchAnswer expr := by
  rw [batchTurn, Reply.batchAnswer]
  cases (c.reply expr).outcome.render <;>
    simp [Turn.events, Turn.quietEvents, Event.ofReply, Event.line, Event.text]

theorem map_write_opening (c : Config) :
    c.opening.map .write = c.banner ++ [c.promptEvent] := by
  rw [opening, banner, promptEvent, Event.text, Event.text]
  cases c.quiet <;> rfl

end Config

namespace Session

/-- What happens behind the last turn of an interactive run that has left the lines `after`, and
what the run results in. -/
def closing (k : Counters) (after : List String) (failure : Option String) : Script Unit :=
  match after, failure with
  | _ :: _, _ => ⟨[.handled .exit, .log (finishedRecord k)], .ok ()⟩
  | [], none => ⟨[.log endOfInputRecord, .log (finishedRecord k)], .ok ()⟩
  | [], some message => ⟨[], .error (.io message)⟩

theorem outcome?_closing {k : Counters} {after : List String} {failure : Option String} :
    ∀ o ∈ (closing k after failure).events.filterMap Event.outcome?, o = .exit := by
  unfold closing
  split <;> simp [Event.outcome?]

theorem allBytes_closing (k : Counters) (after : List String) (failure : Option String) :
    Event.allBytes (closing k after failure).events = [] := by
  unfold closing
  split <;> rfl

variable (s : Session)

/-- The session after it has handled some lines. -/
def handleLines (s : Session) (lines : List String) : Session :=
  lines.foldl (fun s l => (s.handleLine l).2) s

theorem handleLines_cons (line : String) (lines : List String) :
    s.handleLines (line :: lines) = (s.handleLine line).2.handleLines lines := rfl

theorem handleLines_eq (lines : List String) :
    s.handleLines lines =
      ⟨s.config, s.counters.afterAll (lines.map fun l => (s.config.reply l).outcome)⟩ := by
  induction lines generalizing s with
  | nil => rfl
  | cons l ls ih =>
      rw [handleLines_cons, ih]
      rfl

/-! ### Interactively -/

theorem exchange_of_isExit {line : String} (h : s.config.isExit line = true) :
    s.exchange (some line) = ⟨[.handled .exit, .log (finishedRecord s.counters)], none⟩ := by
  rw [exchange, handleLine, Config.reply_of_isExit h]
  rfl

theorem exchange_of_not_isExit {line : String} (h : s.config.isExit line = false) :
    s.exchange (some line) = ⟨(s.config.reply line).answer, some (s.handleLine line).2⟩ :=
  if_neg (Config.outcome_ne_exit h)

/-- There is a turn for each line before the first exit command. The prompt before an exchange is
the one behind the turn for the line before. -/
theorem converse_eq {before after : List String} (failure : Option String)
    (hbefore : ∀ l ∈ before, s.config.isExit l = false)
    (hafter : ∀ l ∈ after.head?, s.config.isExit l = true) :
    let last := closing (s.handleLines before).counters after failure
    s.converse failure (before ++ after) =
      ⟨s.config.promptEvent :: (before.map s.config.turn).flatMap Turn.events ++ last.events,
        last.result⟩ := by
  -- each line leaves another session to go on with, with the same settings
  induction before generalizing s with
  | nil =>
      cases after with
      | nil => cases failure <;> rfl
      | cons l ls =>
          rw [List.nil_append, converse, s.exchange_of_isExit (hafter l rfl)]
          rfl
  | cons l ls ih =>
      obtain ⟨hl, hls⟩ := List.forall_mem_cons.mp hbefore
      have hrest := ih (s.handleLine l).2 hls hafter
      rw [List.cons_append, converse, s.exchange_of_not_isExit hl]
      dsimp only
      rw [hrest, Script.after, handleLines_cons, List.map_cons, List.flatMap_cons,
        Config.events_turn]
      simp only [List.cons_append, List.append_assoc, List.nil_append]
      rfl

/-- The interactive run takes a turn for each line before the first exit command. -/
theorem runScript_eq {source : Source} {before after : List String}
    (hlines : source.texts = before ++ after)
    (hbefore : ∀ l ∈ before, s.config.isExit l = false)
    (hafter : ∀ l ∈ after.head?, s.config.isExit l = true) :
    let last := closing (s.handleLines before).counters after source.failure
    s.runScript source =
      ⟨Turn.sequence s.config.opening (before.map s.config.turn) last.events, last.result⟩ := by
  have hconverse := s.converse_eq source.failure hbefore hafter
  dsimp only at hconverse ⊢
  rw [runScript, hlines, hconverse, Script.after, Turn.sequence, Config.map_write_opening]
  simp only [List.append_assoc, List.cons_append, List.nil_append]

end Session

/-! ### On a list -/

namespace Batch

/-- The run on a list after some expressions. -/
def stepAll (b : Batch) (exprs : List String) : Batch := exprs.foldl (fun b e => (b.step e).2) b

variable (b : Batch)

theorem stepAll_cons (expr : String) (exprs : List String) :
    b.stepAll (expr :: exprs) = (b.step expr).2.stepAll exprs := rfl

theorem events_step (expr : String) :
    (b.step expr).1 = (b.session.config.batchTurn expr).events :=
  (b.session.config.events_batchTurn expr).symm

/-- There is a turn for each expression. -/
theorem script_eq (exprs : List String) : b.script exprs =
    ⟨(exprs.map b.session.config.batchTurn).flatMap Turn.events,
      .ok (b.stepAll exprs).succeeded⟩ := by
  induction exprs generalizing b with
  | nil => rfl
  | cons e es ih =>
      have hrest := ih (b.step e).2
      rw [script]
      dsimp only
      rw [hrest, Script.after, events_step, stepAll_cons, List.map_cons, List.flatMap_cons]
      rfl

/-- What counts at the end are the session, and the expressions that were not evaluated. -/
theorem stepAll_eq (exprs : List String) : b.stepAll exprs =
    ⟨b.session.handleLines exprs,
      b.skipped + exprs.countP fun e => !(b.session.handleLine e).1.outcome.isEvaluated⟩ := by
  induction exprs generalizing b with
  | nil => rfl
  | cons e es ih =>
      have hskipped : (b.step e).2.skipped =
          b.skipped + (!(b.session.handleLine e).1.outcome.isEvaluated).toNat := rfl
      rw [stepAll_cons, ih, Session.handleLines_cons, hskipped, List.countP_cons, Nat.add_assoc,
        Nat.add_comm (Bool.toNat _)]
      cases (b.session.handleLine e).1.outcome.isEvaluated <;> rfl

end Batch

namespace Session

theorem batchScript_events (s : Session) (exprs : List String) :
    (s.batchScript exprs).events = Turn.sequence [] (exprs.map s.config.batchTurn) [] := by
  rw [batchScript, Batch.script_eq, Turn.sequence, List.map_nil, List.nil_append, List.append_nil]
  rfl

end Session

end Calculator
