import Calculator.Proofs.Session.Batch
import Calculator.Proofs.Session.BlankEnds

/-!
# The advertised exit command

The banner shows the exit command as it is set. A line is compared with it without its blank ends,
in letters of either case. So the command that is shown ends a session, with any blank space around
it, if it has no blank ends itself. If it has, no line ends a session, the command as it is shown
included.
-/

namespace Calculator

/-! ## The line that holds a text without its blank ends -/

namespace Text

theorem allBlank_newline : AllBlank ['\n'] := List.forall_mem_singleton.mpr (by decide)

/-- The characters of a line, with its line feed. -/
def lineChars (l : String) : List Char := l.toList ++ ['\n']

/-- A text consists of lines and of what is left behind the last line feed. -/
theorem exists_lines (cs : List Char) : ∃ (lines : List String) (rest : String),
    cs = lines.flatMap lineChars ++ rest.toList ∧ (∀ l ∈ lines, '\n' ∉ l.toList) ∧
      '\n' ∉ rest.toList := by
  induction cs with
  | nil => exact ⟨[], "", rfl, nofun, nofun⟩
  | cons c cs ih =>
      obtain ⟨lines, rest, rfl, hlines, hrest⟩ := ih
      have hcons {s : String} (hc : c ≠ '\n') (hs : '\n' ∉ s.toList) :
          '\n' ∉ (String.ofList (c :: s.toList)).toList := by
        rw [String.toList_ofList, List.mem_cons, not_or]
        exact ⟨hc.symm, hs⟩
      by_cases hc : c = '\n'
      · subst hc
        exact ⟨"" :: lines, rest, rfl, List.forall_mem_cons.mpr ⟨nofun, hlines⟩, hrest⟩
      · cases lines with
        | nil => exact ⟨[], String.ofList (c :: rest.toList), by simp, nofun, hcons hc hrest⟩
        | cons l ls =>
            obtain ⟨hl, hls⟩ := List.forall_mem_cons.mp hlines
            refine ⟨String.ofList (c :: l.toList) :: ls, rest, ?_, ?_, hrest⟩
            · simp [lineChars]
            · exact List.forall_mem_cons.mpr ⟨hcons hc hl, hls⟩

theorem exists_first_line (cs : List Char) : ∃ first rest : String,
    cs ++ ['\n'] = lineChars first ++ rest.toList ∧ '\n' ∉ first.toList := by
  have hmem : '\n' ∈ cs ++ ['\n'] := List.mem_concat_self
  obtain ⟨first, rest, hcs, hfirst⟩ := List.eq_append_cons_of_mem hmem
  refine ⟨String.ofList first, String.ofList rest, ?_, by simpa using hfirst⟩
  simp [lineChars, hcs]

end Text

open Text (lineChars)

/-- The line that holds what is between the blank ends, or the first line of blank space. -/
structure HeldBy (line : String) (blanks : List String) (body tail : String) : Prop where
  text : lineChars line = blanks.flatMap lineChars ++ (lineChars body ++ tail.toList)
  before : ∀ b ∈ blanks, AllBlank b.toList ∧ '\n' ∉ b.toList
  one : '\n' ∉ body.toList
  trim : Text.trim body.toList = Text.trim line.toList
  first : body = "" → blanks = []

/-- In blank space every line would do, and the first one leaves no blank line before it. -/
theorem exists_heldBy_of_allBlank {line : String} (h : AllBlank line.toList) :
    ∃ body tail, HeldBy line [] body tail := by
  obtain ⟨body, tail, hline, hbody⟩ := Text.exists_first_line line.toList
  have hblank := h.append Text.allBlank_newline
  rw [hline] at hblank
  have htrim : Text.trim body.toList = [] :=
    Text.trim_eq_nil_iff.mpr fun c hc => hblank c (by simp [lineChars, hc])
  have hnil : Text.trim line.toList = [] := Text.trim_eq_nil_iff.mpr h
  exact ⟨body, tail, hline, nofun, hbody, htrim.trans hnil.symm, fun _ => rfl⟩

/-- What is between the blank ends stands within one line if there is no line feed in it, and
before this line there are blank lines only. -/
theorem exists_heldBy {line : String} (h : '\n' ∉ Text.trim line.toList) :
    ∃ blanks body tail, HeldBy line blanks body tail := by
  by_cases hblank : AllBlank line.toList
  · obtain ⟨body, tail, held⟩ := exists_heldBy_of_allBlank hblank
    exact ⟨[], body, tail, held⟩
  obtain ⟨front, behind, hfront, hbehind, hline⟩ := Text.exists_trim_between line.toList
  obtain ⟨blanks, indent, rfl, hblanks, hindent⟩ := Text.exists_lines front
  obtain ⟨spaces, tail, hback, hspaces⟩ := Text.exists_first_line behind
  have hbackBlank : AllBlank (lineChars spaces ++ tail.toList) :=
    hback ▸ hbehind.append Text.allBlank_newline
  have hi : AllBlank indent.toList := fun c hc => hfront c (List.mem_append_right _ hc)
  have hs : AllBlank spaces.toList := fun c hc => hbackBlank c (by simp [lineChars, hc])
  have hbody : (indent ++ String.ofList (Text.trim line.toList) ++ spaces).toList =
      indent.toList ++ (Text.trim line.toList ++ spaces.toList) := by simp
  refine ⟨blanks, indent ++ String.ofList (Text.trim line.toList) ++ spaces, tail,
    { text := ?_
      before := fun b hb => ⟨fun c hc => ?_, hblanks b hb⟩
      one := ?_
      trim := ?_
      first := fun hempty => ?_ }⟩
  · rw [lineChars, lineChars, hbody]
    generalize Text.trim line.toList = word at hline
    simp [hline, hback, lineChars]
  · refine hfront c (List.mem_append_left _ (List.mem_flatMap.mpr ⟨b, hb, ?_⟩))
    exact List.mem_append_left _ hc
  · simp [hbody, hindent, h, hspaces]
  · rw [hbody, Text.trim_blanks_append hi, Text.trim_append_blanks hs, Text.trim_trim]
  · have hnone := hbody.symm.trans (congrArg String.toList hempty)
    have hnil := (List.append_eq_nil_iff.mp (List.append_eq_nil_iff.mp hnone).2).1
    exact (hblank (Text.trim_eq_nil_iff.mp hnil)).elim

/-! ## Runs up to the exit command -/

namespace Session

variable (s : Session)

/-- Before an exit command or after all of some lines a run comes to the same point in them. -/
theorem exists_answered (c : Config) (lines : List (List UInt8)) :
    ∃ before rest, lines = before ++ rest ∧ (∀ l ∈ before, ¬ c.IsExitLine l) ∧
      (∀ l ∈ rest.head?, c.IsExitLine l) ∧
      ∀ l, c.IsExitLine l → ∀ after, ∀ m ∈ (rest ++ l :: after).head?, c.IsExitLine m := by
  obtain ⟨before, rest, hlines, hbefore, hrest⟩ := exists_exit_split c lines
  refine ⟨before, rest, hlines, hbefore, hrest, fun l hl after m hm => ?_⟩
  cases rest with
  | nil =>
      cases hm
      exact hl
  | cons r rs => exact hrest m hm

/-- Once an exit command is among the lines, neither its bytes nor what is behind it matter. -/
theorem runScript_eq_of_exit {source source' : Source} {head after after' : List (List UInt8)}
    {l l' : List UInt8} (h : source.lines = head ++ l :: after) (hl : s.config.IsExitLine l)
    (h' : source'.lines = head ++ l' :: after') (hl' : s.config.IsExitLine l') :
    s.runScript source = s.runScript source' ∧ (s.runScript source).result = .ok () := by
  obtain ⟨before, rest, rfl, hbefore, -, hrest⟩ := exists_answered s.config head
  rw [List.append_assoc] at h h'
  have hrun := s.runScript_of_lines h hbefore (hrest l hl after)
  have hrun' := s.runScript_of_lines h' hbefore (hrest l' hl' after')
  rw [hrun, hrun']
  cases rest <;> exact ⟨rfl, rfl⟩

theorem handleLines_of_blank {lines : List String} (h : ∀ l ∈ lines, Text.trim l.toList = []) :
    s.handleLines lines = s := by
  induction lines with
  | nil => rfl
  | cons l ls ih =>
      obtain ⟨hl, hls⟩ := List.forall_mem_cons.mp h
      have houtcome := @Config.outcome_of_asksNothing s.config l (.inl hl)
      have hstep : (s.handleLine l).2 = s := by
        rw [handleLine]
        rcases houtcome with ho | ho <;> rw [ho] <;> rfl
      rw [handleLines_cons, hstep, ih hls]

/-- Blank lines before the exit command do not count. -/
theorem session_run_of_exit {source source' : Source} {head blanks after : List (List UInt8)}
    {l : List UInt8} (h : source.lines = head ++ (blanks ++ l :: after))
    (hblanks : ∀ b ∈ blanks, Text.trim (Text.decode b) = []) (hl : s.config.IsExitLine l)
    (h' : source'.lines = head) :
    (s.run source none).session = (s.run source' none).session := by
  obtain ⟨before, rest, rfl, hbefore, hrest, -⟩ := exists_answered s.config head
  obtain ⟨skipped, more, rfl, hskipped, -, hmore⟩ := exists_answered s.config blanks
  rw [s.run_eq h' hbefore hrest]
  cases rest with
  | cons r rs =>
      rw [List.append_assoc] at h
      rw [s.run_eq h hbefore hrest]
  | nil =>
      rw [List.append_nil, List.append_assoc, ← List.append_assoc before] at h
      have hboth := List.forall_mem_append.mpr ⟨hbefore, hskipped⟩
      have hblank : ∀ t ∈ skipped.map lineText, Text.trim t.toList = [] := by
        intro t ht
        obtain ⟨b, hb, rfl⟩ := List.mem_map.mp ht
        rw [lineText, String.toList_ofList]
        exact hblanks b (List.mem_append_left _ hb)
      rw [s.run_eq h hboth (hmore l hl after)]
      simp only [List.map_append, handleLines_append, handleLines_of_blank _ hblank]

end Session

/-! ## The advertised word -/

/-- The banner, if it is shown, tells to type this word. -/
def Config.Advertises (c : Config) (word : String) : Prop :=
  c.bannerText = "=== Mini Math Interpreter ===\nSupported: +, -, *, /, parentheses\nType '" ++
    word ++ "' to quit.\n\n"

theorem Config.advertises_iff {c : Config} {word : String} :
    c.Advertises word ↔ c.exitCommand = word :=
  (String.append_left_inj _).trans (String.append_right_inj _)

/-- The word in letters of either case, with blank space around it. -/
def Typed (word line : String) : Prop :=
  ∃ front typed behind : String, AllBlank front.toList ∧ AllBlank behind.toList ∧
    typed.toList.map Char.toLower = word.toList.map Char.toLower ∧ line = front ++ typed ++ behind

/-- The session takes the line for its exit command, and counts nothing. An interactive run ends
there: it reads nothing behind the line, and whether the line is terminated does not matter. -/
structure Session.EndsAt (s : Session) (line : String) : Prop where
  handled : s.handleLine line = (⟨.exit, []⟩, s)
  result : ∀ {earlier ls}, Divided earlier ls [] →
    (s.run ⟨earlier ++ textLine line, none⟩ none).result = .ok ()
  session : ∀ {earlier ls}, Divided earlier ls [] →
    (s.run ⟨earlier ++ textLine line, none⟩ none).session = (s.run ⟨earlier, none⟩ none).session
  unread : ∀ {earlier ls}, Divided earlier ls [] → ∀ more failure limit,
    s.run ⟨earlier ++ (textLine line ++ more), failure⟩ limit =
      s.run ⟨earlier ++ textLine line, none⟩ limit
  unterminated : line ≠ "" → ∀ {earlier ls}, Divided earlier ls [] → ∀ limit,
    s.run ⟨earlier ++ Text.encode line, none⟩ limit = s.run ⟨earlier ++ textLine line, none⟩ limit

theorem textLine_eq (s : String) :
    textLine s = (lineChars s).flatMap String.utf8EncodeChar := by
  rw [textLine, Text.encode, lineChars, List.flatMap_append]
  rfl

namespace HeldBy

variable {line body tail : String} {blanks : List String}

theorem textLine_eq (h : HeldBy line blanks body tail) :
    textLine line = (blanks ++ [body]).flatMap textLine ++ Text.encode tail := by
  have hlines : textLine = fun s => (lineChars s).flatMap String.utf8EncodeChar :=
    funext Calculator.textLine_eq
  simp only [hlines, h.text, List.flatMap_append, List.flatMap_assoc, List.flatMap_singleton,
    List.append_assoc]
  rfl

/-- Without its line feed the line ends within the line that holds its text, or behind it. -/
theorem encode_eq (h : HeldBy line blanks body tail) :
    Text.encode line = blanks.flatMap textLine ++ Text.encode body ∨
      ∃ more, Text.encode line = (blanks ++ [body]).flatMap textLine ++ more := by
  have hline := h.textLine_eq
  rw [textLine] at hline
  -- The last byte of both sides is a line feed: of the body, or of what is behind it.
  rcases List.eq_nil_or_concat (Text.encode tail) with htail | ⟨more, b, htail⟩
  · left
    rw [htail, List.append_nil, List.flatMap_append, List.flatMap_singleton, textLine,
      ← List.append_assoc] at hline
    exact (List.append_inj' hline rfl).1
  · right
    rw [htail, List.concat_eq_append, ← List.append_assoc] at hline
    exact ⟨more, (List.append_inj' hline rfl).1⟩

section Division

variable {earlier : List UInt8} {ls : List (List UInt8)}

theorem forall_one (h : HeldBy line blanks body tail) :
    (∀ e ∈ blanks, '\n' ∉ e.toList) ∧ ∀ e ∈ blanks ++ [body], '\n' ∉ e.toList := by
  have hblanks : ∀ b ∈ blanks, '\n' ∉ b.toList := fun b hb => (h.before b hb).2
  exact ⟨hblanks, List.forall_mem_append.mpr ⟨hblanks, List.forall_mem_singleton.mpr h.one⟩⟩

/-- The lines of bytes in which the line that holds the text follows some complete lines. -/
theorem exists_lines_eq (h : HeldBy line blanks body tail) (hearlier : Divided earlier ls [])
    (more : List UInt8) (failure : Option String) : ∃ after,
      (Source.mk (earlier ++ ((blanks ++ [body]).flatMap textLine ++ more)) failure).lines =
        ls ++ blanks.map textLine ++ textLine body :: after := by
  obtain ⟨complete, rest, hmore⟩ := exists_divided more
  have hdiv := hearlier.append ((divided_textLines h.forall_one.2).append hmore)
  refine ⟨complete ++ if failure.isSome || rest.isEmpty then [] else [rest], ?_⟩
  rw [hdiv.lines_eq failure, List.map_append, List.map_singleton]
  simp only [List.append_assoc, List.cons_append, List.nil_append]

theorem exists_lines_textLine (h : HeldBy line blanks body tail) (hearlier : Divided earlier ls [])
    (more : List UInt8) (failure : Option String) : ∃ after,
      (Source.mk (earlier ++ (textLine line ++ more)) failure).lines =
        ls ++ blanks.map textLine ++ textLine body :: after := by
  rw [h.textLine_eq, List.append_assoc]
  exact h.exists_lines_eq hearlier _ failure

theorem exists_lines_eq_of_unterminated (h : HeldBy line blanks body tail) (hne : line ≠ "")
    (hearlier : Divided earlier ls []) : ∃ l after, Carries l body ∧
      (Source.mk (earlier ++ Text.encode line) none).lines =
        ls ++ blanks.map textLine ++ l :: after := by
  rcases h.encode_eq with hline | ⟨more, hline⟩
  · have hbody : body ≠ "" := by
      intro hbody
      rw [hbody, h.first hbody] at hline
      exact hne (Text.encode_eq_nil_iff.mp hline)
    have hfeed : lineFeed ∉ Text.encode body := (Text.lineFeed_mem_encode_iff body).not.mpr h.one
    have hrest : Divided (Text.encode body) [] (Text.encode body) := ⟨rfl, nofun, hfeed⟩
    have hdiv := hearlier.append ((divided_textLines h.forall_one.1).append hrest)
    have hlines := hdiv.lines_eq none
    rw [if_neg (by simpa [Text.encode_eq_nil_iff] using hbody), List.append_nil] at hlines
    rw [hline]
    exact ⟨_, [], carries_encode body, hlines⟩
  · obtain ⟨after, hlines⟩ := h.exists_lines_eq hearlier more none
    rw [hline]
    exact ⟨_, after, carries_textLine body, hlines⟩

end Division

end HeldBy

namespace Session

variable (s : Session) {line : String}

theorem endsAt_of_isExit (h : s.config.isExit line = true)
    (hfeed : '\n' ∉ Text.trim line.toList) : s.EndsAt line := by
  obtain ⟨blanks, body, tail, held⟩ := exists_heldBy hfeed
  have hexit {l : List UInt8} (hl : Carries l body) : s.config.IsExitLine l := by
    rwa [← Config.isExit_lineText_iff, hl.isExit_eq, Config.isExit, held.trim]
  have hblanks : ∀ b ∈ blanks.map textLine, Text.trim (Text.decode b) = [] := by
    intro l hl
    obtain ⟨b, hb, rfl⟩ := List.mem_map.mp hl
    exact (carries_textLine b).trans (Text.trim_eq_nil_iff.mpr (held.before b hb).1)
  have hline {earlier : List UInt8} {ls : List (List UInt8)} (hearlier : Divided earlier ls []) :
      ∃ after, (Source.mk (earlier ++ textLine line) none).lines =
        ls ++ blanks.map textLine ++ textLine body :: after := by
    have hnone := held.exists_lines_textLine hearlier [] none
    rwa [List.append_nil] at hnone
  have hcarried := hexit (carries_textLine body)
  refine
    { handled := ?_
      result := fun hearlier => ?_
      session := fun {earlier ls} hearlier => ?_
      unread := fun hearlier more failure limit => ?_
      unterminated := fun hne {earlier ls} hearlier limit => ?_ }
  · rw [handleLine, Config.reply_of_isExit h]
    rfl
  · obtain ⟨after, hlines⟩ := hline hearlier
    rw [run, play_unlimited]
    exact (s.runScript_eq_of_exit hlines hcarried hlines hcarried).2
  · obtain ⟨after, hlines⟩ := hline hearlier
    have hbefore : (Source.mk earlier none).lines = ls := by
      rw [hearlier.lines_eq none]
      simp
    rw [List.append_assoc] at hlines
    exact s.session_run_of_exit hlines hblanks hcarried hbefore
  · obtain ⟨after, hlines⟩ := hline hearlier
    obtain ⟨after', hlines'⟩ := held.exists_lines_textLine hearlier more failure
    rw [run, (s.runScript_eq_of_exit hlines' hcarried hlines hcarried).1, run]
  · obtain ⟨after, hlines⟩ := hline hearlier
    obtain ⟨l, after', hl, hlines'⟩ := held.exists_lines_eq_of_unterminated hne hearlier
    rw [run, (s.runScript_eq_of_exit hlines' (hexit hl) hlines hcarried).1, run]

end Session

namespace Config

/-- A command with blank ends is no line without its blank ends. -/
theorem isExit_eq_false_of_trim_ne {c : Config}
    (h : Text.trim c.exitCommand.toList ≠ c.exitCommand.toList) (line : String) :
    c.isExit line = false := by
  rw [isExit_eq_false_iff]
  intro hexit
  have htrim := congrArg Text.trim hexit
  rw [Text.trim_map_toLower, Text.trim_trim, hexit, Text.trim_map_toLower] at htrim
  have hlength := congrArg List.length htrim
  rw [List.length_map, List.length_map] at hlength
  exact h (Text.trim_eq_self_of_length_le hlength.le)

end Config

namespace Session

variable (s : Session)

/-- A run without an exit command handles all the lines. -/
theorem session_run_of_not_isExit (h : ∀ line, s.config.isExit line = false) (source : Source) :
    (s.run source none).session = s.handleLines source.texts := by
  have hlines : source.lines = source.lines ++ [] := (List.append_nil _).symm
  have hbefore : ∀ l ∈ source.lines, ¬ s.config.IsExitLine l := by
    intro l _
    rw [← Config.isExit_lineText_iff, h]
    exact Bool.false_ne_true
  rw [s.run_eq hlines hbefore nofun, Source.texts_eq]

/-- If the exit command that the banner shows has no blank ends, a session ends at every line with
this command in it. If it has, a session ends at no line at all, and an interactive run handles all
the lines that it can read. -/
theorem advertised_word {word : String} (hword : s.config.Advertises word)
    (hfeed : '\n' ∉ word.toList) :
    (Text.trim word.toList = word.toList → ∀ line, Typed word line → s.EndsAt line) ∧
    (Text.trim word.toList ≠ word.toList →
      (∀ line, (s.handleLine line).1.outcome ≠ .exit) ∧
      ∀ source, (s.run source none).session = s.handleLines source.texts) := by
  obtain rfl := Config.advertises_iff.mp hword
  refine ⟨fun htrim line htyped => ?_, fun htrim => ?_⟩
  · obtain ⟨front, typed, behind, hfront, hbehind, hsame, rfl⟩ := htyped
    have hline : Text.trim (front ++ typed ++ behind).toList = Text.trim typed.toList := by
      rw [String.toList_append, String.toList_append, Text.trim_append_blanks hbehind,
        Text.trim_blanks_append hfront]
    have hlower : (Text.trim typed.toList).map Char.toLower =
        s.config.exitCommand.toList.map Char.toLower := by
      rw [← Text.trim_map_toLower, hsame, Text.trim_map_toLower, htrim]
    apply s.endsAt_of_isExit
    · rwa [Config.isExit, Text.sameIgnoringCase_iff, hline]
    · rw [hline]
      intro hmem
      have hmem' := List.mem_map_of_mem (f := Char.toLower) hmem
      rw [hlower] at hmem'
      obtain ⟨c, hc, hnewline⟩ := List.mem_map.mp hmem'
      exact hfeed (Text.eq_of_toLower (d := '\n') (by decide) hnewline ▸ hc)
  · have hnot := Config.isExit_eq_false_of_trim_ne htrim
    exact ⟨fun line => Config.outcome_ne_exit (hnot line), s.session_run_of_not_isExit hnot⟩

theorem advertised_word_quit :
    let s := Session.new { Config.default with exitCommand := "quit" }
    let s' := Session.new { Config.default with exitCommand := "quit " }
    (s.config.Advertises "quit" ∧ '\n' ∉ "quit".toList ∧ Typed "quit" "\t QUIT " ∧
      s.EndsAt "\t QUIT ") ∧
    s'.config.Advertises "quit " ∧ '\n' ∉ "quit ".toList ∧
      ∀ line, (s'.handleLine line).1.outcome ≠ .exit := by
  intro s s'
  have hword : s.config.Advertises "quit" := Config.advertises_iff.mpr rfl
  have hword' : s'.config.Advertises "quit " := Config.advertises_iff.mpr rfl
  have htyped : Typed "quit" "\t QUIT " :=
    ⟨"\t ", "QUIT", " ", by simp [AllBlank, Text.isBlank], by simp [AllBlank, Text.isBlank],
      by decide, by decide⟩
  have hends := (s.advertised_word hword (by decide)).1 (by decide) _ htyped
  have hnever := ((s'.advertised_word hword' (by decide)).2 (by decide)).1
  exact ⟨⟨hword, by decide, htyped, hends⟩, hword', by decide, hnever⟩

/-- The exit command with a space in front is shown, but what the banner tells to type is an
expression that fails. -/
theorem advertised_word_unheard :
    let s := Session.new { Config.default with exitCommand := " quit" }
    s.config.Advertises " quit" ∧ '\n' ∉ " quit".toList ∧ Typed " quit" " quit" ∧
      (s.handleLine " quit").1.outcome = .failure (.badCharacter 'q' 0) ∧
      (s.handleLine " quit").2.counters = ⟨1, 1⟩ := by
  intro s
  have hword : s.config.Advertises " quit" := Config.advertises_iff.mpr rfl
  exact ⟨hword, by decide, ⟨"", " quit", "", .nil, .nil, rfl, by decide⟩,
    by decide +kernel, by decide +kernel⟩

end Session

end Calculator
