import Calculator.Proofs.Session.OneLine
import Calculator.Proofs.Session.Transcript
import Calculator.Proofs.Text.Decoding
import Calculator.Proofs.Text.Trimming

/-!
# Lines that are no text

A line whose bytes are no text has a replacement character in it, which is not blank and has no
place in an expression. So the line fails, in either mode, with one line of answer, and the
interactive run goes on behind it as it would have begun there without a banner.
-/

namespace Calculator

/-! ## A run in two parts -/

namespace Session

def quietly (s : Session) : Session := { s with config := { s.config with quiet := true } }

theorem result_closing (k k' : Counters) (after : List String) (failure : Option String) :
    (closing k after failure).result = (closing k' after failure).result := by
  unfold closing
  split <;> rfl

/-- A run answers its first lines, none of which is the exit command, and is then the run on the
other lines. -/
theorem run_of_lines_append (s : Session) {source : Source} {done more : List (List UInt8)}
    (hlines : source.lines = done ++ more) (hdone : ∀ l ∈ done, ¬ s.config.IsExitLine l) :
    let next := (s.handleLines (done.map lineText)).quietly.run ⟨more.flatten, source.failure⟩ none
    (s.run source none).result = next.result ∧
    (s.run source none).output = (if s.config.quiet then [] else Text.encode s.config.bannerText) ++
      done.flatMap (fun l => Text.encode s.config.prompt ++ s.answerBytes (lineText l)) ++
      next.output ∧
    (s.run source none).session.counters = next.session.counters := by
  obtain ⟨before, after, rfl, hbefore, hafter⟩ := exists_exit_split s.config more
  have hrest : (Source.mk (before ++ after).flatten source.failure).lines = before ++ after :=
    Source.lines_flatten_of_isSuffix ⟨done, hlines.symm⟩
  have hwhole : source.lines = (done ++ before) ++ after := by rw [hlines, List.append_assoc]
  have hrun := s.run_eq hwhole (List.forall_mem_append.mpr ⟨hdone, hbefore⟩) hafter
  -- the session that goes on differs from `s` in its counters and the banner only
  have hstart : (s.handleLines (done.map lineText)).quietly =
      ⟨{ s.config with quiet := true }, (s.handleLines (done.map lineText)).counters⟩ := by
    rw [handleLines_eq]
    rfl
  intro next
  have hnext := Session.run_eq ⟨{ s.config with quiet := true },
    (s.handleLines (done.map lineText)).counters⟩ hrest hbefore hafter
  rw [← hstart] at hnext
  replace hnext : next = _ := hnext
  have hanswers : ∀ line, (s.handleLines (done.map lineText)).quietly.answerBytes line =
      s.answerBytes line := by
    intro line
    rw [hstart]
    rfl
  rw [hrun, hnext]
  refine ⟨result_closing _ _ _ _, ?_, ?_⟩
  · have hconfig : (s.handleLines (done.map lineText)).quietly.config =
        { s.config with quiet := true } := by rw [hstart]
    simp only [hconfig, hanswers, List.map_append, List.flatMap_append, List.append_assoc, if_true,
      List.nil_append, List.flatMap_map]
  · simp only [handleLines_eq, quietly, List.map_append, Counters.afterAll_append]
    rfl

end Session

/-! ## Characters without a place -/

theorem Text.mem_trim {c : Char} {cs : List Char} (h : c ∈ cs) (hc : isBlank c = false) :
    c ∈ trim cs := by
  have hnot : ∀ {blanks : List Char}, AllBlank blanks → c ∉ blanks := by
    intro blanks hb hmem
    rw [hb c hmem] at hc
    cases hc
  obtain ⟨front, behind, hfront, hbehind, hcs⟩ := exists_trim_between cs
  rw [hcs, List.mem_append, List.mem_append] at h
  exact (h.resolve_left (hnot hfront)).resolve_right (hnot hbehind)

section Unplaced

variable {s : String} {c : Char}

/-- A text with such a character fails in both modes, whatever the error is. -/
theorem exists_error_of_mem (h : c ∈ s.toList) (hc : ¬ IsExpressionChar c) (tokens : Bool) :
    ∃ e, (TokenStream.ofString s).Fails e ∧
      (if tokens then Outcome.ofTokens (tokenize s) else .ofValue (evaluate s)) = .failure e := by
  have htokenize : ∀ ts, tokenize s ≠ .ok ts := fun ts hts =>
    hc (isExpressionChar_of_tokenize hts c h)
  cases tokens with
  | true =>
      cases hresult : tokenize s with
      | ok ts => exact absurd hresult (htokenize ts)
      | error e => exact ⟨e, fails_of_tokenize hresult, rfl⟩
  | false =>
      cases hresult : evaluate s with
      | ok v =>
          obtain ⟨ts, hts, -⟩ := exists_tree_of_evaluate hresult
          exact absurd hts (htokenize ts)
      | error e => exact ⟨e, fails_of_evaluate hresult, rfl⟩

end Unplaced

/-! ## The replacement character -/

namespace Text

theorem isBlank_replacement : isBlank replacement = false := by decide

theorem not_isExpressionChar_replacement : ¬ IsExpressionChar replacement := by
  rintro (h | h | h)
  · exact absurd h (by decide)
  · exact absurd h (by decide)
  · exact absurd h (by decide)

theorem replacement_mem_trim_decode {l : List UInt8} (h : ¬ IsUtf8 l) :
    replacement ∈ trim (decode l) :=
  mem_trim (replacement_mem_decode h) isBlank_replacement

end Text

theorem Config.not_isExitLine_of_not_isUtf8 {c : Config} {l : List UInt8}
    (hexit : Text.replacement ∉ c.exitCommand.toList) (h : ¬ Text.IsUtf8 l) :
    ¬ c.IsExitLine l := by
  intro hline
  have hmem := List.mem_map_of_mem (f := Char.toLower) (Text.replacement_mem_trim_decode h)
  rw [hline] at hmem
  obtain ⟨d, hd, hlower⟩ := List.mem_map.mp hmem
  have hsame : Text.replacement.toLower = Text.replacement := by decide
  rw [hsame] at hlower
  exact hexit (Text.eq_of_toLower (by decide) hlower ▸ hd)

/-- In either mode such a line is answered by an error, which has a line of its own. -/
theorem Config.exists_reply_failure {c : Config} {l : List UInt8}
    (hexit : Text.replacement ∉ c.exitCommand.toList) (h : ¬ Text.IsUtf8 l) :
    ∃ e, (c.reply (lineText l)).outcome = .failure e ∧ OneLine ("Error: " ++ e.message) := by
  have hmem : Text.replacement ∈ Text.trim (lineText l).toList := by
    rw [lineText, String.toList_ofList]
    exact Text.replacement_mem_trim_decode h
  have hasks : ¬ c.AsksNothing (lineText l) := by
    refine not_or.mpr ⟨List.ne_nil_of_mem hmem, ?_⟩
    rw [lineText, String.toList_ofList]
    exact not_isExitLine_of_not_isUtf8 hexit h
  rw [← String.toList_ofList (l := Text.trim (lineText l).toList)] at hmem
  obtain ⟨e, hfails, houtcome⟩ :=
    exists_error_of_mem hmem Text.not_isExpressionChar_replacement c.tokens
  refine ⟨e, ?_, .append (by decide) hfails.quotes.oneLine_message⟩
  rw [outcome_of_not_asksNothing hasks, houtcome]

namespace Session

/-- The session with a failure more in its counts. -/
def afterFailure (s : Session) : Session :=
  ⟨s.config, ⟨s.counters.evaluated + 1, s.counters.failed + 1⟩⟩

section Failure

variable (s : Session) {line : String} {e : EvalError}

theorem handleLine_of_failure (h : (s.config.reply line).outcome = .failure e) :
    s.handleLine line = (s.config.reply line, s.afterFailure) := by
  rw [handleLine, afterFailure, h]
  rfl

theorem answerBytes_of_failure (h : (s.config.reply line).outcome = .failure e) :
    s.answerBytes line = Text.encode ("Error: " ++ e.message ++ "\n") := by
  have hfeed : Text.encode "\n" = [lineFeed] := by decide
  rw [answerBytes, s.handleLine_of_failure h, h, Text.encode_append, hfeed]
  rfl

end Failure

/-- The interactive run `r` answers the line `l`, which it reaches behind the lines `before`, with
the error `e`, and goes on with the lines `after`. -/
structure RejectsLine (s : Session) (before : List (List UInt8)) (l : List UInt8)
    (after : List (List UInt8)) (failure : Option String) (e : EvalError) (r : Report Unit) :
    Prop where
  notBlank : Text.trim (Text.decode l) ≠ []
  notExit : ¬ s.config.IsExitLine l
  outcome : ((s.handleLines (before.map lineText)).handleLine (lineText l)).1.outcome = .failure e
  session : ((s.handleLines (before.map lineText)).handleLine (lineText l)).2 =
    (s.handleLines (before.map lineText)).afterFailure
  oneLine : OneLine ("Error: " ++ e.message)
  output : r.output = (if s.config.quiet then [] else Text.encode s.config.bannerText) ++
    before.flatMap (fun m => Text.encode s.config.prompt ++ s.answerBytes (lineText m)) ++
    Text.encode s.config.prompt ++ Text.encode ("Error: " ++ e.message ++ "\n") ++
    ((s.handleLines (before.map lineText)).afterFailure.quietly.run
      ⟨after.flatten, failure⟩ none).output
  result : r.result = ((s.handleLines (before.map lineText)).afterFailure.quietly.run
    ⟨after.flatten, failure⟩ none).result
  counters : r.session.counters = ((s.handleLines (before.map lineText)).afterFailure.quietly.run
    ⟨after.flatten, failure⟩ none).session.counters

/-- A line that is no text is rejected in either mode, wherever in it and in the input the malformed
bytes are. -/
theorem exists_rejectsLine {s : Session} {bs : List UInt8} {failure : Option String}
    {before after : List (List UInt8)} {l : List UInt8}
    (hexit : Text.replacement ∉ s.config.exitCommand.toList)
    (hlines : (Source.mk bs failure).lines = before ++ l :: after)
    (hbefore : ∀ m ∈ before, ¬ s.config.IsExitLine m) (hl : ¬ Text.IsUtf8 l) :
    ∃ e, s.RejectsLine before l after failure e (s.run ⟨bs, failure⟩ none) := by
  have hblank : Text.trim (Text.decode l) ≠ [] :=
    List.ne_nil_of_mem (Text.replacement_mem_trim_decode hl)
  have hnot : ¬ s.config.IsExitLine l := Config.not_isExitLine_of_not_isUtf8 hexit hl
  obtain ⟨e, houtcome, hline⟩ := Config.exists_reply_failure hexit hl
  have hreply : ((s.handleLines (before.map lineText)).config.reply (lineText l)).outcome =
      .failure e := by
    rwa [config_handleLines]
  have hhandled := (s.handleLines (before.map lineText)).handleLine_of_failure hreply
  have hreached : s.handleLines ((before ++ [l]).map lineText) =
      (s.handleLines (before.map lineText)).afterFailure := by
    rw [List.map_append, handleLines_append]
    exact congrArg Prod.snd hhandled
  have hwhole : (Source.mk bs failure).lines = (before ++ [l]) ++ after := by
    rw [hlines, List.append_assoc, List.singleton_append]
  have hdone : ∀ m ∈ before ++ [l], ¬ s.config.IsExitLine m :=
    List.forall_mem_append.mpr ⟨hbefore, List.forall_mem_singleton.mpr hnot⟩
  obtain ⟨hresult, houtput, hcounters⟩ := s.run_of_lines_append hwhole hdone
  rw [hreached] at hresult houtput hcounters
  exact ⟨e,
    { notBlank := hblank
      notExit := hnot
      outcome := by rw [hhandled, hreply]
      session := by rw [hhandled]
      oneLine := hline
      output := by
        rw [houtput, List.flatMap_append, List.flatMap_singleton,
          s.answerBytes_of_failure houtcome]
        simp only [List.append_assoc]
      result := hresult
      counters := hcounters }⟩

theorem exists_rejectsLine_truncated :
    let s := Session.new .default
    let bs : List UInt8 := [0x31, 0x0a, 0x32, 0xe2, 0x82, 0x0a, 0x33]
    Text.replacement ∉ s.config.exitCommand.toList ∧
      (Source.mk bs none).lines = [[0x31, 0x0a]] ++ [0x32, 0xe2, 0x82, 0x0a] :: [[0x33]] ∧
      (∀ m ∈ [[0x31, 0x0a]], ¬ s.config.IsExitLine m) ∧
      ¬ Text.IsUtf8 [0x32, 0xe2, 0x82, 0x0a] ∧
      ∃ e, s.RejectsLine [[0x31, 0x0a]] [0x32, 0xe2, 0x82, 0x0a] [[0x33]] none e
        (s.run ⟨bs, none⟩ none) := by
  intro s bs
  have hexit : Text.replacement ∉ s.config.exitCommand.toList := by decide
  have hlines : (Source.mk bs none).lines =
      [[0x31, 0x0a]] ++ [0x32, 0xe2, 0x82, 0x0a] :: [[0x33]] := by decide
  have hbefore : ∀ m ∈ [[0x31, 0x0a]], ¬ s.config.IsExitLine m := by
    rw [List.forall_mem_singleton, Config.IsExitLine]
    decide
  have hl : ¬ Text.IsUtf8 [0x32, 0xe2, 0x82, 0x0a] := by decide
  exact ⟨hexit, hlines, hbefore, hl, exists_rejectsLine hexit hlines hbefore hl⟩

end Session

end Calculator
