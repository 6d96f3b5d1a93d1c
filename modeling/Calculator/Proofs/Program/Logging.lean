import Calculator.Proofs.Log.Filter
import Calculator.Proofs.Log.Line
import Calculator.Proofs.Program.Modes

/-!
# Logging only observes

The program makes the same records whatever the log filter is, and the filter only leaves some of
them out. So output and exit code do not depend on it, and the log under a filter is the full log
restricted to what the filter admits, with the lines numbered anew. No record is a warning or an
error, so nothing is logged at the level where no other is asked for.
-/

namespace Calculator

open Log

/-! ## The records of an operation -/

namespace Reply

theorem regular_tokenRecords (ts : List Token) : ∀ r ∈ ts.map tokenRecord, r.Regular := by
  intro r hr
  obtain ⟨t, -, rfl⟩ := List.mem_map.mp hr
  exact regular_tokenRecord t

theorem regular_tokens (line : String) : ∀ r ∈ (Reply.tokens line).records, r.Regular := by
  rw [Reply.tokens]
  split
  · exact regular_tokenRecords _
  · next e he =>
    rw [List.forall_mem_append, List.forall_mem_singleton]
    exact ⟨regular_tokenRecords _, regular_failureRecord (fails_of_tokenize he).quotes line⟩

theorem regular_value (line : String) : ∀ r ∈ (Reply.value line).records, r.Regular := by
  have hquotes : ∀ e, (Evaluation.ofStream (.ofString line)).result = .error e → e.Quotes := by
    intro e he
    exact (fails_of_evaluate he).quotes
  have hverdict := regular_verdictRecord hquotes line
  rw [Reply.value]
  split
  · rw [List.forall_mem_append, List.forall_mem_singleton]
    exact ⟨regular_tokenRecords _, hverdict⟩
  · next e he =>
    rw [List.forall_mem_append, List.forall_mem_append, List.forall_mem_singleton,
      List.forall_mem_singleton]
    exact ⟨⟨regular_tokenRecords _, hverdict⟩, regular_failureRecord (hquotes e he) line⟩

end Reply

namespace Config

theorem regular_reply (c : Config) (line : String) : ∀ r ∈ (c.reply line).records, r.Regular := by
  rw [reply]
  split
  · exact List.forall_mem_nil _
  · dsimp only
    split
    · exact List.forall_mem_nil _
    · split
      · exact Reply.regular_tokens _
      · exact Reply.regular_value _

theorem regular_batchTurn (c : Config) (expr : String) :
    ∀ r ∈ (c.batchTurn expr).records, r.Regular := by
  rw [batchTurn]
  split
  · exact c.regular_reply expr
  · rw [List.forall_mem_append, List.forall_mem_singleton]
    refine ⟨c.regular_reply expr, regular_sessionRecord (by decide) ?_⟩
    exact (AllShown.append (by decide) (Text.allShown_quote expr)).append (by decide)

theorem allShown_description (c : Config) : AllShown c.description := by
  have hbool : ∀ b : Bool, AllShown (toString b) := by decide
  have hexprs : AllShown (", ".intercalate (c.exprs.map Text.quote)) := by
    apply AllShown.intercalate (by decide)
    intro text htext
    obtain ⟨e, -, rfl⟩ := List.mem_map.mp htext
    exact Text.allShown_quote e
  exact (((((((((((AllShown.append (by decide) hexprs).append (by decide)).append
    (Text.allShown_quote c.prompt)).append (by decide)).append (hbool c.quiet)).append
    (by decide)).append (hbool c.tokens)).append (by decide)).append
    (Text.allShown_quote c.logLevel)).append (by decide)).append
    (Text.allShown_quote c.exitCommand)).append (by decide)

end Config

namespace Session

theorem regular_finishedRecord (k : Counters) : (finishedRecord k).Regular := by
  apply regular_sessionRecord (by decide)
  exact (((AllShown.append (by decide) (.natText _)).append (by decide)).append
    (.natText _)).append (by decide)

theorem regular_closing (k : Counters) (after : List String) (failure : Option String) :
    ∀ r ∈ (closing k after failure).events.filterMap Event.record?, r.Regular := by
  have hfinished := regular_finishedRecord k
  have hend : endOfInputRecord.Regular := regular_sessionRecord (by decide) (by decide)
  unfold closing
  split
  · exact List.forall_mem_singleton.mpr hfinished
  · exact List.forall_mem_cons.mpr ⟨hend, List.forall_mem_singleton.mpr hfinished⟩
  · nofun

variable (s : Session)

theorem regular_runBatch (exprs : List String) :
    ∀ r ∈ (s.runBatch exprs none).records, r.Regular := by
  intro r hr
  rw [records_runBatch] at hr
  obtain ⟨e, -, hr⟩ := List.mem_flatMap.mp hr
  exact s.config.regular_batchTurn e r hr

theorem regular_run (source : Source) : ∀ r ∈ (s.run source none).records, r.Regular := by
  obtain ⟨before, after, hlines, hbefore, hafter⟩ := exists_exit_split s.config source.lines
  rw [s.run_eq hlines hbefore hafter, List.forall_mem_append]
  refine ⟨fun r hr => ?_, regular_closing _ _ _⟩
  obtain ⟨t, ht, hr⟩ := List.mem_flatMap.mp hr
  obtain ⟨l, -, rfl⟩ := List.mem_map.mp ht
  exact s.config.regular_reply l r hr

end Session

/-! ## The log of the program -/

namespace Log

/-- The records as lines, numbered from one. -/
def numbered (rs : List Record) : List String := (rs.zipIdx 1).map fun (r, n) => r.plainLine n

theorem Filter.lines_eq (f : Filter) (rs : List Record) :
    f.lines rs = numbered (rs.filter f.admits) := rfl

theorem wellFormed_trace : WellFormed "trace" [⟨none, some .trace⟩] := by
  have htexts : Spec.entries "trace".toList = ["trace".toList] := by decide
  exact .of_entries (by decide) htexts (.cons (.level (by decide) (by decide)) .nil)

theorem wellFormed_default : WellFormed Config.default.logLevel [⟨none, some .warn⟩] := by
  have htexts : Spec.entries Config.default.logLevel.toList = ["warn".toList] := by decide
  exact .of_entries (by decide) htexts (.cons (.level (by decide) (by decide)) .nil)

/-- With a level for every target it is the level of a record that decides. -/
theorem admittedBy_level (t : Threshold) (r : Record) :
    admittedBy [⟨none, t⟩] r = t.admits r.level := rfl

theorem filter_trace (rs : List Record) : rs.filter (admittedBy [⟨none, some .trace⟩]) = rs := by
  rw [List.filter_eq_self]
  intro r _
  rw [admittedBy_level]
  cases r.level <;> rfl

theorem filter_default {rs : List Record} (h : ∀ r ∈ rs, r.Regular) :
    rs.filter (admittedBy [⟨none, some .warn⟩]) = [] := by
  rw [List.filter_eq_nil_iff]
  intro r hr
  have hlevel := (h r hr).level
  rw [admittedBy_level, Threshold.admits, decide_eq_true_iff]
  omega

end Log

namespace Program

theorem logLines_of_wellFormed {c : Config} {environment : Option String} {ds : List Directive}
    (h : WellFormed (filterSpec c environment) ds) (rs : List Record) :
    logLines c environment rs = numbered (rs.filter (admittedBy ds)) := by
  rw [logLines, h.warnings_eq_nil, List.nil_append, Filter.lines_eq, h.admits_eq]

theorem regular_startRecord (c : Config) : (startRecord c).Regular := by
  apply regular_of_shown (by decide) (by decide) (by decide)
  exact .inl (.append (by decide) c.allShown_description)

/-- The records that are made with the settings. -/
def configRecords (c : Config) (input : List UInt8) : List Record :=
  startRecord c :: if c.isBatch then ((Session.new c).runBatch c.exprs none).records
    else ((Session.new c).run ⟨input, none⟩ none).records

/-- The records that are made on a command line. -/
def records (args : List String) (input : List UInt8) : List Record :=
  match CommandLine.parse args with
  | .ok c => configRecords c input
  | .error _ => []

theorem regular_configRecords (c : Config) (input : List UInt8) :
    ∀ r ∈ configRecords c input, r.Regular := by
  rw [configRecords, List.forall_mem_cons]
  refine ⟨regular_startRecord c, ?_⟩
  split
  · exact (Session.new c).regular_runBatch c.exprs
  · exact (Session.new c).regular_run _

/-- The filter has a say in nothing but what is logged of the records. -/
theorem exists_runConfig_eq (c : Config) (input : List UInt8) :
    ∃ code output, ∀ environment, runConfig c input environment =
      ⟨code, output, logLines c environment (configRecords c input)⟩ := by
  by_cases hbatch : c.isBatch = true
  · obtain ⟨b, hresult, -⟩ := (Session.new c).exists_result_runBatch c.exprs
    rw [configRecords, if_pos hbatch]
    exact ⟨_, _, runConfig_of_isBatch hbatch hresult input⟩
  · rw [configRecords, if_neg hbatch]
    exact ⟨_, _, runConfig_of_not_isBatch (by simpa using hbatch) input⟩

/-- What the program leaves behind with a filter in its environment, and without one. -/
structure Observed (args : List String) (input : List UInt8) (code : Nat) (output : List UInt8) :
    Prop where
  full : run args input (some "trace") = .ok ⟨code, output, numbered (records args input)⟩
  restricted : ∀ spec ds, WellFormed spec ds → run args input (some spec) =
    .ok ⟨code, output, numbered ((records args input).filter (admittedBy ds))⟩
  /-- A record is read back from its line, with its message if there is no control character in
  it, and otherwise without this character. -/
  decodes : ∀ r ∈ records args input,
    (AllShown r.message ∧ r.Decodes r.message) ∨
      ¬ AllShown r.message ∧ ∃ m, LosesControl r.message m ∧ r.Decodes m
  /-- With neither a filter in the environment nor a level of its own, nothing is logged. -/
  silent : (∀ c, CommandLine.parse args = .ok c → c.logLevel = Config.default.logLevel) →
    run args input none = .ok ⟨code, output, []⟩

theorem exists_observed_of_parse {args : List String} {c : Config}
    (h : CommandLine.parse args = .ok c) (input : List UInt8) :
    ∃ code output, Observed args input code output := by
  obtain ⟨code, output, hrun⟩ := exists_runConfig_eq c input
  have hrecords : records args input = configRecords c input := by rw [records, h]
  have hregular := regular_configRecords c input
  have hfilter : ∀ environment ds, WellFormed (filterSpec c environment) ds →
      run args input environment =
        .ok ⟨code, output, numbered ((configRecords c input).filter (admittedBy ds))⟩ := by
    intro environment ds hds
    rw [run, h]
    dsimp only
    rw [hrun, logLines_of_wellFormed hds]
  refine ⟨code, output, ?_, fun spec ds hds => ?_, ?_, fun hlevel => ?_⟩
  · rw [hfilter (some "trace") _ wellFormed_trace, filter_trace, hrecords]
  · rw [hfilter (some spec) ds hds, hrecords]
  · rw [hrecords]
    exact fun r hr => (hregular r hr).decodes
  · have hspec : filterSpec c none = Config.default.logLevel := hlevel c h
    have hdefault : WellFormed (filterSpec c none) [⟨none, some .warn⟩] := by
      rw [hspec]
      exact wellFormed_default
    rw [hfilter none _ hdefault, filter_default hregular]
    rfl

/-- Where a text is asked for, nothing is recorded. -/
theorem observed_of_run {args : List String} {e : CommandLine.Stop}
    (h : CommandLine.parse args = .error e) {input output : List UInt8}
    (hrun : ∀ environment, run args input environment = .ok ⟨0, output, []⟩) :
    Observed args input 0 output := by
  have hrecords : records args input = [] := by rw [records, h]
  constructor
  · rw [hrun, hrecords]
    rfl
  · intro spec ds _
    rw [hrun, hrecords]
    rfl
  · rw [hrecords]
    nofun
  · exact fun _ => hrun none

/-- For every command line that can be used, the log under a filter is the full log without what
the filter leaves out, each of its lines can be read, but for a control character, and nothing
else depends on the filter. -/
theorem logging_observes {args : List String}
    (h : ∀ e, CommandLine.parse args ≠ .error (.usage e)) (input : List UInt8) :
    ∃ code output, Observed args input code output := by
  cases hparse : CommandLine.parse args with
  | ok c => exact exists_observed_of_parse hparse input
  | error e =>
      cases e with
      | help => exact ⟨_, _, observed_of_run hparse fun environment => by rw [run, hparse]⟩
      | version => exact ⟨_, _, observed_of_run hparse fun environment => by rw [run, hparse]⟩
      | usage e => exact absurd hparse (h e)

theorem entry_lexical : Entry "lexical=debug".toList ⟨some "lexical".toList, some .debug⟩ := by
  have htext : "lexical=debug".toList = "lexical".toList ++ '=' :: "debug".toList := by decide
  rw [htext]
  exact .prefixed (by decide) (by decide) (by decide) (by decide)

theorem wellFormed_lexical :
    WellFormed "lexical=debug" [⟨some "lexical".toList, some .debug⟩] := by
  have htexts : Spec.entries "lexical=debug".toList = ["lexical=debug".toList] := by decide
  exact .of_entries (by decide) htexts (.cons entry_lexical .nil)

theorem wellFormed_off_lexical :
    WellFormed "off, lexical=debug" [⟨none, none⟩, ⟨some "lexical".toList, some .debug⟩] := by
  have htexts : Spec.entries "off, lexical=debug".toList =
      ["off".toList, "lexical=debug".toList] := by decide
  exact .of_entries (by decide) htexts
    (.cons (.level (by decide) (by decide)) (.cons entry_lexical .nil))

theorem logging_observes_lexical : ∃ code output,
    run ["-q", "-e", "1 $"] [] (some "off, lexical=debug") = .ok ⟨code, output,
      numbered ((records ["-q", "-e", "1 $"] []).filter
        (admittedBy [⟨none, none⟩, ⟨some "lexical".toList, some .debug⟩]))⟩ ∧
    run ["-q", "-e", "1 $"] [] none = .ok ⟨code, output, []⟩ := by
  have hparse : CommandLine.parse ["-q", "-e", "1 $"] =
      .ok ⟨["1 $"], "> ", true, false, "warn", "exit"⟩ := by decide +kernel
  have husage : ∀ e, CommandLine.parse ["-q", "-e", "1 $"] ≠ .error (.usage e) := by
    intro e
    rw [hparse]
    nofun
  obtain ⟨code, output, hobserved⟩ := logging_observes husage []
  refine ⟨code, output, hobserved.restricted _ _ wellFormed_off_lexical, hobserved.silent ?_⟩
  intro c hc
  rw [hparse] at hc
  cases hc
  rfl

/-- The message quotes the character as it is, and the line is without it. -/
theorem bell_not_in_line :
    WellFormed "lexical=debug" [⟨some "lexical".toList, some .debug⟩] ∧
    ∃ r ∈ records ["-e", "\x07"] [], ¬ r.Decodes r.message ∧
      run ["-e", "\x07"] [] (some "lexical=debug") = .ok ⟨1,
        Text.encode "Error: Unexpected character '\x07' at position 0\n", [r.plainLine 1]⟩ ∧
      fields? (r.plainLine 1) = some ("1", "DEBUG", "lexical",
        "\"\\u\x7b7\x7d\": Unexpected character '' at position 0") := by
  have hfields : fields? ((failureRecord "\x07" (.badCharacter '\x07' 0)).plainLine 1) =
      some ("1", "DEBUG", "lexical",
        "\"\\u\x7b7\x7d\": Unexpected character '' at position 0") := by
    decide +kernel
  refine ⟨wellFormed_lexical, failureRecord "\x07" (.badCharacter '\x07' 0),
    by decide +kernel, fun h => ?_, by decide +kernel, hfields⟩
  have hread := (h.fields 1).symm.trans hfields
  exact absurd hread (by decide +kernel)

end Program

end Calculator
