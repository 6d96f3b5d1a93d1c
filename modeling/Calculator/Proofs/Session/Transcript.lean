import Calculator.Proofs.Session.Lines
import Calculator.Proofs.Session.Turns

/-!
# The transcript of an interactive run

An interactive run on a sink without limit writes the banner, then for each line before the first
exit command the prompt and the answer, and one prompt more. The bytes behind the exit command do
not matter at all.
-/

namespace Calculator

def lineText (l : List UInt8) : String := String.ofList (Text.decode l)

/-- The text of the line, without its blank ends, is the exit command in letters of either case. -/
def Config.IsExitLine (c : Config) (l : List UInt8) : Prop :=
  (Text.trim (Text.decode l)).map Char.toLower = c.exitCommand.toList.map Char.toLower

theorem Config.isExit_lineText_iff {c : Config} {l : List UInt8} :
    c.isExit (lineText l) = true ↔ c.IsExitLine l := by
  rw [isExit, lineText, String.toList_ofList, Text.sameIgnoringCase_iff, IsExitLine]

theorem Source.texts_eq (s : Source) : s.texts = s.lines.map lineText := rfl

namespace Session

/-- What is written in answer to a line. -/
def answerBytes (s : Session) (line : String) : List UInt8 :=
  match (s.handleLine line).1.outcome.render with
  | some text => Text.encode text ++ [lineFeed]
  | none => []

theorem handleLines_append (s : Session) (ls ms : List String) :
    s.handleLines (ls ++ ms) = (s.handleLines ls).handleLines ms := by
  rw [handleLines, handleLines, handleLines, List.foldl_append]

theorem config_handleLines (s : Session) (ls : List String) :
    (s.handleLines ls).config = s.config := by
  rw [handleLines_eq]

theorem bytes_turn (s : Session) (line : String) :
    (s.config.turn line).bytes = s.answerBytes line ++ Text.encode s.config.prompt := by
  have hfeed : Text.encode "\n" = [lineFeed] := by decide
  rw [Turn.bytes, Config.turn, answerBytes, handleLine]
  cases (s.config.reply line).outcome.render with
  | none => simp
  | some text => simp [hfeed]

theorem flatMap_bytes_turn (s : Session) (lines : List String) :
    Text.encode s.config.prompt ++ (lines.map s.config.turn).flatMap Turn.bytes =
      lines.flatMap (fun l => Text.encode s.config.prompt ++ s.answerBytes l) ++
        Text.encode s.config.prompt := by
  induction lines with
  | nil => simp
  | cons l ls ih =>
      rw [List.map_cons, List.flatMap_cons, List.flatMap_cons, bytes_turn, List.append_assoc, ih]
      simp only [List.append_assoc]

theorem flatten_opening (c : Config) : c.opening.flatten =
    (if c.quiet then [] else Text.encode c.bannerText) ++ Text.encode c.prompt := by
  rw [Config.opening]
  cases c.quiet <;> simp

theorem afterAll_exit (k : Counters) {os : List Outcome} (h : ∀ o ∈ os, o = .exit) :
    k.afterAll os = k := by
  induction os with
  | nil => rfl
  | cons o os ih =>
      obtain rfl := h o List.mem_cons_self
      exact ih fun o ho => h o (List.mem_cons_of_mem _ ho)

/-- The turns of an interactive run, when `after` begins with the exit command or is empty. -/
theorem runScript_of_lines (s : Session) {source : Source} {before after : List (List UInt8)}
    (hlines : source.lines = before ++ after) (hbefore : ∀ l ∈ before, ¬ s.config.IsExitLine l)
    (hafter : ∀ l ∈ after.head?, s.config.IsExitLine l) :
    let texts := before.map lineText
    let last := closing (s.handleLines texts).counters (after.map lineText) source.failure
    s.runScript source =
      ⟨Turn.sequence s.config.opening (texts.map s.config.turn) last.events, last.result⟩ := by
  have htexts : source.texts = before.map lineText ++ after.map lineText := by
    rw [Source.texts_eq, hlines, List.map_append]
  have hbefore' : ∀ t ∈ before.map lineText, s.config.isExit t = false := by
    intro t ht
    obtain ⟨l, hl, rfl⟩ := List.mem_map.mp ht
    have hnot := hbefore l hl
    rwa [← Config.isExit_lineText_iff, Bool.not_eq_true] at hnot
  have hafter' : ∀ t ∈ (after.map lineText).head?, s.config.isExit t = true := by
    intro t ht
    cases after with
    | nil => cases ht
    | cons l ls =>
        cases ht
        exact Config.isExit_lineText_iff.mpr (hafter l rfl)
  exact s.runScript_eq htexts hbefore' hafter'

/-- The report of an unlimited run, when `after` begins with the exit command or is empty. -/
theorem run_eq (s : Session) {source : Source} {before after : List (List UInt8)}
    (hlines : source.lines = before ++ after) (hbefore : ∀ l ∈ before, ¬ s.config.IsExitLine l)
    (hafter : ∀ l ∈ after.head?, s.config.IsExitLine l) :
    let texts := before.map lineText
    let last := closing (s.handleLines texts).counters (after.map lineText) source.failure
    s.run source none = ⟨last.result,
      (if s.config.quiet then [] else Text.encode s.config.bannerText) ++
        texts.flatMap (fun l => Text.encode s.config.prompt ++ s.answerBytes l) ++
        Text.encode s.config.prompt,
      (texts.map s.config.turn).flatMap Turn.records ++ last.events.filterMap Event.record?,
      s.handleLines texts⟩ := by
  intro texts last
  have hscript := s.runScript_of_lines hlines hbefore hafter
  have hbytes : s.config.opening.flatten ++ (texts.map s.config.turn).flatMap Turn.bytes =
      (if s.config.quiet then [] else Text.encode s.config.bannerText) ++
        texts.flatMap (fun l => Text.encode s.config.prompt ++ s.answerBytes l) ++
        Text.encode s.config.prompt := by
    rw [flatten_opening, List.append_assoc, flatMap_bytes_turn, List.append_assoc]
  have hmap : (texts.map s.config.turn).map Turn.outcome =
      texts.map fun l => (s.config.reply l).outcome := List.map_map
  have hsession : ⟨s.config, s.counters.afterAll ((texts.map s.config.turn).map Turn.outcome ++
      last.events.filterMap Event.outcome?)⟩ = s.handleLines texts := by
    rw [handleLines_eq, Counters.afterAll_append, afterAll_exit _ outcome?_closing, hmap]
  rw [run, play_unlimited, hscript, Turn.allBytes_sequence, Turn.outcomes_sequence,
    Turn.records_sequence, allBytes_closing, List.append_nil, hbytes]
  exact congrArg (Report.mk _ _ _) hsession

/-- Among the lines that are not the exit command, exactly the blank ones have no answer. -/
theorem answerBytes_eq_nil_iff {s : Session} {l : List UInt8} (h : ¬ s.config.IsExitLine l) :
    s.answerBytes (lineText l) = [] ↔ Text.trim (Text.decode l) = [] := by
  rw [← Config.isExit_lineText_iff, Bool.not_eq_true] at h
  have hrender := Config.render_reply_eq_none_iff h
  rw [lineText, String.toList_ofList] at hrender
  rw [← hrender, answerBytes, handleLine, lineText]
  cases (s.config.reply (String.ofList (Text.decode l))).outcome.render <;> simp

/-! ## The transcript -/

/-- What an interactive run writes and does, when it answers the lines `before`, and the exit
command is the first line of `after`, if there is any. -/
structure Transcript (s : Session) (before after : List (List UInt8))
    (ending : Except ProgramError Unit) (r : Report Unit) : Prop where
  notExit : ∀ l ∈ before, ¬ s.config.IsExitLine l
  exit : ∀ l ∈ after.head?, s.config.IsExitLine l
  output : r.output = (if s.config.quiet then [] else Text.encode s.config.bannerText) ++
    before.flatMap (fun l => Text.encode s.config.prompt ++ s.answerBytes (lineText l)) ++
    Text.encode s.config.prompt
  blank : ∀ l ∈ before, s.answerBytes (lineText l) = [] ↔ Text.trim (Text.decode l) = []
  result : r.result = if after.isEmpty then ending else .ok ()
  session : r.session = s.handleLines (before.map lineText)
  unread : ∀ l ∈ after.head?, lineFeed ∈ l → ∀ more failure,
    s.run ⟨(before ++ [l]).flatten ++ more, failure⟩ none = r

theorem exists_exit_split (c : Config) (lines : List (List UInt8)) :
    ∃ before after, lines = before ++ after ∧ (∀ l ∈ before, ¬ c.IsExitLine l) ∧
      ∀ l ∈ after.head?, c.IsExitLine l := by
  induction lines with
  | nil => exact ⟨[], [], rfl, fun l hl => absurd hl List.not_mem_nil, nofun⟩
  | cons l ls ih =>
      by_cases hl : c.IsExitLine l
      · exact ⟨[], l :: ls, rfl, fun l hl => absurd hl List.not_mem_nil,
          fun m hm => Option.some.inj hm ▸ hl⟩
      · obtain ⟨before, after, rfl, hbefore, hafter⟩ := ih
        refine ⟨l :: before, after, rfl, fun m hm => ?_, hafter⟩
        rcases List.mem_cons.mp hm with rfl | hm
        · exact hl
        · exact hbefore m hm

/-- Behind a complete line it does not matter how the bytes go on: the lines up to it stay. -/
theorem exists_lines_append {bs : List UInt8} {failure : Option String}
    {before after : List (List UInt8)} {l : List UInt8}
    (hlines : (Source.mk bs failure).lines = before ++ l :: after) (hl : lineFeed ∈ l)
    (more : List UInt8) (failure' : Option String) :
    ∃ after', (Source.mk ((before ++ [l]).flatten ++ more) failure').lines =
      before ++ l :: after' := by
  obtain ⟨complete, rest, hdiv⟩ := exists_divided bs
  have hprefix : before ++ [l] <+: complete ++ [rest] := by
    have hle : before ++ [l] <+: (Source.mk bs failure).lines := ⟨after, by rw [hlines]; simp⟩
    refine hle.trans ?_
    rw [hdiv.lines_eq]
    split
    · exact ⟨[rest], by simp⟩
    · exact List.prefix_rfl
  have hcomplete : before ++ [l] <+: complete := by
    refine (List.prefix_concat_iff.mp hprefix).resolve_left fun heq => ?_
    obtain rfl : l = rest := List.head_eq_of_cons_eq (List.append_inj' heq rfl).2
    exact hdiv.rest hl
  have hfront : Divided (before ++ [l]).flatten (before ++ [l]) [] :=
    divided_flatten fun m hm => hdiv.complete m (hcomplete.subset hm)
  obtain ⟨more', tail, hmore⟩ := exists_divided more
  refine ⟨more' ++ if failure'.isSome || tail.isEmpty then [] else [tail], ?_⟩
  rw [(hfront.append hmore).lines_eq failure']
  simp only [List.nil_append, List.append_assoc, List.cons_append]

/-- The transcript of an interactive run on the bytes `bs`: of the lines that they divide into,
and of what is left behind the last line feed unless it is empty or lost. -/
theorem run_transcript (s : Session) (bs : List UInt8) (failure : Option String) :
    ∃ complete rest before after,
      (∀ ls r, Divided bs ls r ↔ complete = ls ∧ rest = r) ∧
      complete ++ (if failure.isSome || rest.isEmpty then [] else [rest]) = before ++ after ∧
      Transcript s before after (match failure with
        | none => .ok ()
        | some message => .error (.io message)) (s.run ⟨bs, failure⟩ none) := by
  obtain ⟨before, after, hlines, hbefore, hafter⟩ :=
    exists_exit_split s.config (Source.mk bs failure).lines
  have hrun := s.run_eq hlines hbefore hafter
  have hdiv : Divided bs _ _ := divided_iff.mpr ⟨rfl, rfl⟩
  refine ⟨_, _, before, after, fun ls r => divided_iff, ?_, ?_⟩
  · rw [← hdiv.lines_eq]
    exact hlines
  · refine
      { notExit := hbefore
        exit := hafter
        output := by rw [hrun, List.flatMap_map]
        blank := fun l hl => answerBytes_eq_nil_iff (hbefore l hl)
        result := ?_
        session := by rw [hrun]
        unread := fun l hl hfeed more failure' => ?_ }
    · rw [hrun]
      cases after with
      | nil => cases failure <;> rfl
      | cons l ls => rfl
    · cases after with
      | nil => cases hl
      | cons m ls =>
          cases hl
          obtain ⟨after', hlines'⟩ := exists_lines_append hlines hfeed more failure'
          have hrun' := s.run_eq hlines' hbefore hafter
          rw [hrun, hrun']
          rfl

end Session

end Calculator
