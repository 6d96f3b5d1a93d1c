import Calculator.Proofs.Session.Batch
import Calculator.Proofs.Session.Interruption
import Calculator.Proofs.Session.Listing
import Calculator.Proofs.Session.OneLine
import Calculator.Proofs.Text.Trimming

/-!
# One line for each expression

Every line but a blank one and the exit command has an answer, which is not empty and has no line
break in it. In a list the blank expressions and the exit command are answered by quoting them. So
a run on a list writes as many lines as there are expressions, each of them with the answer to the
expression at its place.
-/

namespace Calculator

/-! ## No answer is empty -/

theorem Decimal.text_ne_empty (d : Decimal) : d.text ≠ "" := by
  have hdigits : Nat.toDigits 10 d.coefficient ≠ [] := Nat.toDigits_ne_nil
  rw [text]
  split
  · decide
  · dsimp only
    split
    · simp [String.ofList_eq_empty_iff, hdigits]
    · split
      · simp [String.ofList_eq_empty_iff]
      · simp [String.ofList_eq_empty_iff]

theorem Binary64.answerText_ne_empty (x : Binary64) : x.answerText ≠ "" := by
  cases x with
  | finite s m =>
      rw [answerText]
      split
      · intro h
        exact Nat.repr_ne_empty (String.append_eq_empty_iff.mp h).2
      · intro h
        exact m.shortest.text_ne_empty (String.append_eq_empty_iff.mp h).2
  | infinite s => cases s <;> decide
  | nan => decide

theorem tokens_ne_nil {s : String} {ts : List Token} (h : tokenize s = .ok ts)
    (hs : ¬ AllBlank s.toList) : ts ≠ [] := by
  rintro rfl
  have hlay := layout_of_tokenize h
  generalize s.utf8ByteSize = q at hlay
  generalize s.toList = cs at hlay hs
  cases hlay with
  | finish hb => exact hs hb

/-- A text that can be written on a line of its own, and is seen there. -/
structure IsAnswer (text : String) : Prop where
  ne_empty : text ≠ ""
  oneLine : OneLine text

namespace IsAnswer

theorem answerText (x : Binary64) : IsAnswer x.answerText :=
  ⟨x.answerText_ne_empty, x.allShown_answerText.oneLine⟩

theorem listing {s : String} {ts : List Token} (h : tokenize s = .ok ts)
    (hs : ¬ AllBlank s.toList) : IsAnswer (listing ts) := by
  have htexts := TokenStream.allShown_text s
  rw [tokens_of_tokenize h] at htexts
  exact ⟨listing_ne_empty (tokens_ne_nil h hs), (allShown_listing htexts).oneLine⟩

theorem failure {s : String} {e : EvalError} (h : (TokenStream.ofString s).Fails e) :
    IsAnswer ("Error: " ++ e.message) := by
  refine ⟨?_, .append (by decide) h.quotes.oneLine_message⟩
  intro hempty
  exact absurd (String.append_eq_empty_iff.mp hempty).1 (by decide)

theorem nothing (expr : String) :
    IsAnswer ("Error: Nothing to evaluate in " ++ Text.quote expr) := by
  refine ⟨?_, .append (by decide) (Text.allShown_quote expr).oneLine⟩
  intro hempty
  exact absurd (String.append_eq_empty_iff.mp hempty).1 (by decide)

end IsAnswer

theorem Outcome.render_eq_none_iff {o : Outcome} : o.render = none ↔ o = .skip ∨ o = .exit := by
  cases o <;> simp [render]

namespace Config

variable {c : Config} {line : String}

theorem render_reply_of_asksNothing (h : c.AsksNothing line) :
    (c.reply line).outcome.render = none :=
  Outcome.render_eq_none_iff.mpr (outcome_of_asksNothing h)

theorem exists_isAnswer_of_not_asksNothing (h : ¬ c.AsksNothing line) :
    ∃ text, (c.reply line).outcome.render = some text ∧ IsAnswer text := by
  have hblank : ¬ AllBlank (String.ofList (Text.trim line.toList)).toList := by
    rw [String.toList_ofList, ← Text.trim_eq_nil_iff, Text.trim_trim]
    exact fun hnil => h (.inl hnil)
  rw [outcome_of_not_asksNothing h]
  split
  · cases hts : tokenize (String.ofList (Text.trim line.toList)) with
    | ok ts => exact ⟨_, rfl, .listing hts hblank⟩
    | error e => exact ⟨_, rfl, .failure (fails_of_tokenize hts)⟩
  · cases hv : evaluate (String.ofList (Text.trim line.toList)) with
    | ok v => exact ⟨_, rfl, .answerText v⟩
    | error e => exact ⟨_, rfl, .failure (fails_of_evaluate hv)⟩

theorem asksNothing_iff : c.AsksNothing line ↔ (c.reply line).outcome.render = none := by
  refine ⟨render_reply_of_asksNothing, fun hnone => ?_⟩
  by_contra h
  obtain ⟨text, htext, -⟩ := exists_isAnswer_of_not_asksNothing h
  rw [hnone] at htext
  cases htext

/-- The answer that is due to an expression of a list. -/
def dueAnswer (c : Config) (expr : String) : String :=
  (c.reply expr).outcome.render.getD ("Error: Nothing to evaluate in " ++ Text.quote expr)

theorem isAnswer_dueAnswer (c : Config) (expr : String) : IsAnswer (c.dueAnswer expr) := by
  rw [dueAnswer]
  by_cases h : c.AsksNothing expr
  · rw [render_reply_of_asksNothing h]
    exact .nothing expr
  · obtain ⟨text, htext, hanswer⟩ := exists_isAnswer_of_not_asksNothing h
    rwa [htext]

theorem bytes_batchTurn (c : Config) (expr : String) :
    (c.batchTurn expr).bytes = textLine (c.dueAnswer expr) := by
  have hfeed : Text.encode "\n" = [lineFeed] := by decide
  rw [Turn.bytes, batchTurn, dueAnswer]
  cases (c.reply expr).outcome.render with
  | none => simp [textLine, hfeed]
  | some text => simp [textLine, hfeed]

end Config

namespace Session

theorem divided_runBatch (s : Session) (exprs : List String) :
    Divided (s.runBatch exprs none).output (exprs.map fun e => textLine (s.config.dueAnswer e))
      [] := by
  have hline : ∀ a ∈ exprs.map s.config.dueAnswer, '\n' ∉ a.toList := by
    intro a ha
    obtain ⟨e, -, rfl⟩ := List.mem_map.mp ha
    exact (s.config.isAnswer_dueAnswer e).oneLine.lineFeed_not_mem
  have hdivided := divided_textLines hline
  rw [List.flatMap_map, List.map_map] at hdivided
  rw [s.output_runBatch, List.flatMap_map]
  simp only [Config.bytes_batchTurn]
  exact hdivided

/-- A line has no answer exactly when it is blank or the exit command, and otherwise one that is
not empty and breaks no line. So an unlimited run on a list writes one line for each expression,
with its answer, or with the expression quoted where it has none. -/
theorem one_line_each (s : Session) :
    (∀ line, ((s.handleLine line).1.outcome.render = none ↔
        (s.handleLine line).1.outcome = .skip ∨ (s.handleLine line).1.outcome = .exit) ∧
      (s.config.AsksNothing line ↔ (s.handleLine line).1.outcome.render = none) ∧
      ∀ text ∈ (s.handleLine line).1.outcome.render, IsAnswer text) ∧
    ∀ exprs, ∃ answers : List String,
      List.Forall₂ (fun expr answer => IsAnswer answer ∧
        if s.config.AsksNothing expr then
          answer = "Error: Nothing to evaluate in " ++ Text.quote expr
        else (s.handleLine expr).1.outcome.render = some answer) exprs answers ∧
      Divided (s.runBatch exprs none).output (answers.map textLine) [] ∧
      ∃ b, (s.runBatch exprs none).result = .ok b := by
  refine ⟨fun line => ⟨Outcome.render_eq_none_iff, Config.asksNothing_iff, fun text htext => ?_⟩,
    fun exprs => ⟨exprs.map s.config.dueAnswer, ?_, ?_, ?_⟩⟩
  · have hasks : ¬ s.config.AsksNothing line := by
      intro hasks
      rw [Option.mem_def, handleLine, Config.render_reply_of_asksNothing hasks] at htext
      cases htext
    obtain ⟨text', htext', hanswer⟩ := Config.exists_isAnswer_of_not_asksNothing hasks
    obtain rfl : text' = text := Option.some.inj (htext'.symm.trans htext)
    exact hanswer
  · rw [List.forall₂_map_right_iff, List.forall₂_same]
    intro expr _
    refine ⟨s.config.isAnswer_dueAnswer expr, ?_⟩
    split
    · next h => rw [Config.dueAnswer, Config.render_reply_of_asksNothing h, Option.getD_none]
    · next h =>
      obtain ⟨text, htext, -⟩ := Config.exists_isAnswer_of_not_asksNothing h
      rw [Config.dueAnswer, htext]
      exact htext
  · rw [List.map_map]
    exact s.divided_runBatch exprs
  · exact ⟨_, by rw [runBatch, play_unlimited, batchScript, Batch.script_eq]⟩

end Session

end Calculator
