import Calculator.Proofs.Scanner.Trimming
import Calculator.Proofs.Session.Transcript
import Calculator.Proofs.Text.Utf8
import Mathlib.Data.List.Forall2

/-!
# A list of expressions as input

A session without banner and prompt does the same for a list of expressions and for the lines with
these expressions, if there is something to evaluate in each. The two runs differ in what they log
and in writes of nothing, and neither fills a sink.
-/

namespace Calculator

/-! ## Events that leave nothing behind -/

namespace Event

/-- Does the event add to the output or to the outcomes? -/
def isLasting : Event → Bool
  | write bs => !bs.isEmpty
  | log _ => false
  | handled _ => true

variable {e : Event}

theorem bytes_of_not_isLasting (h : e.isLasting = false) : e.bytes = [] := by
  cases e with
  | write bs => simpa [isLasting, bytes] using h
  | log r => rfl
  | handled o => cases h

theorem outcome?_of_not_isLasting (h : e.isLasting = false) : e.outcome? = none := by
  cases e with
  | write bs => rfl
  | log r => rfl
  | handled o => cases h

end Event

namespace Sink

/-- The same bytes and outcomes have got into both sinks, and there is as much room left. -/
structure Alike (s t : Sink) : Prop where
  room : s.room = t.room
  full : s.full = t.full
  output : s.output = t.output
  outcomes : s.outcomes = t.outcomes

namespace Alike

variable {s t : Sink}

theorem refl (s : Sink) : Alike s s := ⟨rfl, rfl, rfl, rfl⟩

theorem symm (h : Alike s t) : Alike t s :=
  ⟨h.room.symm, h.full.symm, h.output.symm, h.outcomes.symm⟩

theorem trans {u : Sink} (h : Alike s t) (h' : Alike t u) : Alike s u :=
  ⟨h.room.trans h'.room, h.full.trans h'.full, h.output.trans h'.output,
    h.outcomes.trans h'.outcomes⟩

theorem push (h : Alike s t) (room : Option Nat) (e : Event) (full : Bool) :
    Alike ⟨room, s.happened.push e, full⟩ ⟨room, t.happened.push e, full⟩ := by
  have houtput := h.output
  have houtcomes := h.outcomes
  simp only [Sink.output, Sink.outcomes] at houtput houtcomes
  exact ⟨rfl, rfl, by simp [Sink.output, houtput], by simp [Sink.outcomes, houtcomes]⟩

theorem accept (h : Alike s t) (e : Event) : Alike (s.accept e) (t.accept e) := by
  obtain ⟨room, happened, full⟩ := s
  obtain ⟨room', happened', full'⟩ := t
  obtain rfl : room = room' := h.room
  obtain rfl : full = full' := h.full
  cases full with
  | true => exact h
  | false =>
      cases room with
      | none =>
          rw [accept_unlimited, accept_unlimited]
          exact h.push none e false
      | some n =>
          by_cases he : e.bytes.length ≤ n
          · rw [accept_of_le he, accept_of_le he]
            exact h.push _ e false
          · have he' : n < e.bytes.length := Nat.not_le.mp he
            rw [accept_of_lt he', accept_of_lt he']
            exact h.push _ _ true

theorem accept_of_not_isLasting (h : Alike s t) {e : Event} (he : e.isLasting = false) :
    Alike (s.accept e) t := by
  obtain ⟨room, happened, full⟩ := s
  cases full with
  | true => exact h
  | false =>
      have hbytes := Event.bytes_of_not_isLasting he
      have houtput := h.output
      have houtcomes := h.outcomes
      simp only [Sink.output, Sink.outcomes] at houtput houtcomes
      rw [accept_of_bytes_eq_nil hbytes]
      refine ⟨h.room, h.full, ?_, ?_⟩
      · simp [Sink.output, houtput, hbytes]
      · simp [Sink.outcomes, houtcomes, Event.outcome?_of_not_isLasting he]

/-- Only lasting events make a difference. -/
theorem acceptAll_filter (h : Alike s t) (es : List Event) :
    Alike (s.acceptAll es) (t.acceptAll (es.filter Event.isLasting)) := by
  induction es generalizing s t with
  | nil => exact h
  | cons e es ih =>
      by_cases he : e.isLasting = true
      · rw [List.filter_cons_of_pos he]
        exact ih (h.accept e)
      · rw [List.filter_cons_of_neg he]
        apply ih
        exact h.accept_of_not_isLasting (by simpa using he)

end Alike

end Sink

/-- Scripts with the same lasting events come to the same bytes and counters, wherever the sink
ends. -/
theorem Session.play_alike (s : Session) {α β : Type} {script : Script α} {script' : Script β}
    (h : script.events.filter Event.isLasting = script'.events.filter Event.isLasting)
    (limit : Option Limit) :
    (s.play script limit).output = (s.play script' limit).output ∧
      (s.play script limit).session = (s.play script' limit).session := by
  have hstart := Sink.Alike.refl (Sink.empty (limit.map Limit.room))
  have hleft := hstart.acceptAll_filter script.events
  have hright := hstart.acceptAll_filter script'.events
  rw [h] at hleft
  have hboth := hleft.trans hright.symm
  refine ⟨hboth.output, ?_⟩
  simp only [play, hboth.outcomes]

/-! ## Lines with expressions -/

def textLine (text : String) : List UInt8 := Text.encode text ++ [lineFeed]

/-- The line and the expression are the same, but for their blank ends. -/
def Carries (l : List UInt8) (expr : String) : Prop :=
  Text.trim (Text.decode l) = Text.trim expr.toList

theorem carries_encode (expr : String) : Carries (Text.encode expr) expr := by
  rw [Carries, Text.decode_encode]

theorem carries_textLine (expr : String) : Carries (textLine expr) expr := by
  have hline : textLine expr = Text.encode (expr ++ "\n") := by
    rw [textLine, Text.encode_append]
    rfl
  rw [Carries, hline, Text.decode_encode, String.toList_append]
  exact Text.trim_concat_of_isBlank (by decide) _

namespace Carries

variable {l : List UInt8} {expr : String}

theorem isExit_eq (h : Carries l expr) (c : Config) : c.isExit (lineText l) = c.isExit expr := by
  rw [Config.isExit, Config.isExit, lineText, String.toList_ofList, h]

theorem reply_eq (h : Carries l expr) (c : Config) : c.reply (lineText l) = c.reply expr := by
  apply Config.reply_of_trim_eq
  rw [lineText, String.toList_ofList, h]

end Carries

section Division

variable {exprs : List String}

theorem divided_textLines (h : ∀ e ∈ exprs, '\n' ∉ e.toList) :
    Divided (exprs.flatMap textLine) (exprs.map textLine) [] := by
  rw [List.flatMap_def]
  apply divided_flatten
  intro l hl
  obtain ⟨e, he, rfl⟩ := List.mem_map.mp hl
  exact ⟨Text.encode e, rfl, (Text.lineFeed_mem_encode_iff e).not.mpr (h e he)⟩

theorem lines_textLines (h : ∀ e ∈ exprs, '\n' ∉ e.toList) :
    (Source.mk (exprs.flatMap textLine) none).lines = exprs.map textLine := by
  rw [(divided_textLines h).lines_eq none]
  simp

theorem lines_unterminated (h : ∀ e ∈ exprs, '\n' ∉ e.toList) {last : String}
    (hlast : '\n' ∉ last.toList) (hne : last ≠ "") :
    (Source.mk (exprs.flatMap textLine ++ Text.encode last) none).lines =
      exprs.map textLine ++ [Text.encode last] := by
  have hfeed : lineFeed ∉ Text.encode last := (Text.lineFeed_mem_encode_iff last).not.mpr hlast
  have htail : Divided (Text.encode last) [] (Text.encode last) := ⟨rfl, nofun, hfeed⟩
  have hlines := ((divided_textLines h).append htail).lines_eq none
  rwa [List.append_nil, if_neg (by simpa [Text.encode_eq_nil_iff] using hne)] at hlines

theorem forall₂_carries_textLine (exprs : List String) :
    List.Forall₂ Carries (exprs.map textLine) exprs := by
  rw [List.forall₂_map_left_iff, List.forall₂_same]
  intro e _
  exact carries_textLine e

/-- Whether or not there is a line feed behind the last expression, the lines carry the
expressions. -/
theorem forall₂_carries {bytes : List UInt8} (hline : ∀ e ∈ exprs, '\n' ∉ e.toList)
    (hblank : ∀ e ∈ exprs, Text.trim e.toList ≠ [])
    (hbytes : bytes = exprs.flatMap textLine ∨ bytes ++ [lineFeed] = exprs.flatMap textLine) :
    List.Forall₂ Carries (Source.mk bytes none).lines exprs := by
  rcases hbytes with rfl | hbytes
  · rw [lines_textLines hline]
    exact forall₂_carries_textLine exprs
  · rcases List.eq_nil_or_concat exprs with rfl | ⟨init, last, rfl⟩
    · exact absurd hbytes (by simp)
    · rw [List.concat_eq_append] at hline hblank hbytes ⊢
      obtain ⟨hinit, hlast⟩ := List.forall_mem_append.mp hline
      have hne : last ≠ "" := by
        rintro rfl
        exact hblank "" (List.mem_append_right _ List.mem_cons_self) rfl
      obtain rfl : bytes = init.flatMap textLine ++ Text.encode last := by
        rw [List.flatMap_append, List.flatMap_singleton, textLine, ← List.append_assoc] at hbytes
        exact List.append_cancel_right hbytes
      rw [lines_unterminated hinit (hlast last List.mem_cons_self) hne]
      exact List.rel_append (forall₂_carries_textLine init) (.cons (carries_encode last) .nil)

end Division

/-! ## The two runs -/

namespace Config

variable {c : Config} {expr line : String}

theorem filter_isLasting_turn (hprompt : c.prompt = "") (hreply : c.reply line = c.reply expr)
    (hrender : (c.reply expr).outcome.render ≠ none) :
    (c.turn line).events.filter Event.isLasting =
      (c.batchTurn expr).events.filter Event.isLasting := by
  obtain ⟨text, htext⟩ := Option.ne_none_iff_exists'.mp hrender
  have hnothing : ¬ Event.isLasting (.write (Text.encode c.prompt)) = true := by
    rw [hprompt]
    decide
  rw [turn, batchTurn, hreply, htext]
  simp only [Turn.events, Turn.quietEvents, Option.map_some, Option.toList_some, List.map_append,
    List.map_cons, List.map_nil, List.filter_append, List.filter_cons_of_neg hnothing,
    List.filter_nil, List.append_nil]

theorem filter_isLasting_turns (hprompt : c.prompt = "") {lines : List (List UInt8)}
    {exprs : List String} (hcarries : List.Forall₂ Carries lines exprs)
    (hrender : ∀ e ∈ exprs, (c.reply e).outcome.render ≠ none) :
    (((lines.map lineText).map c.turn).flatMap Turn.events).filter Event.isLasting =
      ((exprs.map c.batchTurn).flatMap Turn.events).filter Event.isLasting := by
  induction hcarries with
  | nil => rfl
  | @cons l e ls es hl _ ih =>
      have he := hrender e List.mem_cons_self
      have hes := ih fun e he => hrender e (List.mem_cons_of_mem _ he)
      simp only [List.map_cons, List.flatMap_cons, List.filter_append]
      rw [filter_isLasting_turn hprompt (hl.reply_eq c) he, hes]

theorem not_isExitLine_of_carries {lines : List (List UInt8)} {exprs : List String}
    (hcarries : List.Forall₂ Carries lines exprs) (hexit : ∀ e ∈ exprs, c.isExit e = false) :
    ∀ l ∈ lines, ¬ c.IsExitLine l := by
  induction hcarries with
  | nil => nofun
  | @cons l e ls es hl _ ih =>
      intro m hm
      rcases List.mem_cons.mp hm with rfl | hm
      · rw [← isExit_lineText_iff, hl.isExit_eq, hexit e List.mem_cons_self]
        exact Bool.false_ne_true
      · exact ih (fun e he => hexit e (List.mem_cons_of_mem _ he)) m hm

end Config

namespace Session

/-- A session without banner and prompt answers lines with expressions as it answers the list of
them. -/
theorem run_alike_runBatch {s : Session} {exprs : List String} (hquiet : s.config.quiet = true)
    (hprompt : s.config.prompt = "") (hline : ∀ e ∈ exprs, '\n' ∉ e.toList)
    (hblank : ∀ e ∈ exprs, Text.trim e.toList ≠ [])
    (hexit : ∀ e ∈ exprs, (Text.trim e.toList).map Char.toLower ≠
      s.config.exitCommand.toList.map Char.toLower)
    {bytes : List UInt8}
    (hbytes : bytes = exprs.flatMap textLine ∨ bytes ++ [lineFeed] = exprs.flatMap textLine)
    (limit : Option Limit) :
    (s.run ⟨bytes, none⟩ limit).output = (s.runBatch exprs limit).output ∧
      (s.run ⟨bytes, none⟩ limit).session = (s.runBatch exprs limit).session := by
  have hcarries := forall₂_carries hline hblank hbytes
  have hexit' : ∀ e ∈ exprs, s.config.isExit e = false := by
    intro e he
    exact Config.isExit_eq_false_iff.mpr (hexit e he)
  have hrender : ∀ e ∈ exprs, (s.config.reply e).outcome.render ≠ none := by
    intro e he hnone
    exact hblank e he ((Config.render_reply_eq_none_iff (hexit' e he)).mp hnone)
  have hlines : (Source.mk bytes none).lines = (Source.mk bytes none).lines ++ [] :=
    (List.append_nil _).symm
  have hbefore := Config.not_isExitLine_of_carries hcarries hexit'
  have hafter : ∀ l ∈ ([] : List (List UInt8)).head?, s.config.IsExitLine l := by
    intro l hl
    cases hl
  have hopening : (s.config.opening.map Event.write).filter Event.isLasting = [] := by
    rw [Config.opening, hquiet, hprompt]
    rfl
  apply s.play_alike
  rw [s.runScript_of_lines hlines hbefore hafter, batchScript_events]
  simp only [Turn.sequence, List.filter_append, hopening]
  rw [s.config.filter_isLasting_turns hprompt hcarries hrender]
  -- behind the last turn the interactive run only logs
  rfl

theorem run_alike_runBatch_unterminated :
    let s : Session := ⟨{ Config.default with prompt := "", quiet := true }, ⟨3, 1⟩⟩
    let bytes : List UInt8 := [0x32, 0x2a, 0x33, 0x0a, 0x20, 0xc3, 0xa9]
    ((s.run ⟨bytes, none⟩ none).output = (s.runBatch ["2*3", " é"] none).output ∧
      (s.run ⟨bytes, none⟩ none).session = (s.runBatch ["2*3", " é"] none).session) ∧
      (s.runBatch ["2*3", " é"] none).session.counters = ⟨5, 2⟩ := by
  intro s bytes
  have hbytes : bytes ++ [lineFeed] = ["2*3", " é"].flatMap textLine := by decide
  refine ⟨run_alike_runBatch rfl rfl ?_ ?_ ?_ (.inr hbytes) none, by decide +kernel⟩
  · decide
  · decide
  · decide

end Session

end Calculator
