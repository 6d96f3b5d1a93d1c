import Calculator.Program
import Calculator.Proofs.CommandLine.Expressions
import Calculator.Proofs.Evaluation.Whitespace
import Calculator.Proofs.Session.AnswerLines
import Calculator.Proofs.Session.Success

/-!
# The two modes of the program

With expressions on its command line the program writes one line for each, whatever its input is,
and its exit code tells if all of them succeeded. Without, it writes the transcript of a session on
its input, and succeeds.
-/

namespace Calculator

/-! ## The answer to an expression of a list -/

def resultLine {α : Type} (text : α → String) : Except EvalError α → String
  | .ok a => text a
  | .error e => "Error: " ++ e.message

namespace Config

variable {c : Config} {expr : String}

def answerLine (c : Config) (expr : String) : String :=
  if c.AsksNothing expr then "Error: Nothing to evaluate in " ++ Text.quote expr
  else
    let inner := String.ofList (Text.trim expr.toList)
    if c.tokens then resultLine listing (tokenize inner)
    else resultLine Binary64.answerText (evaluate inner)

/-- There is something to evaluate, or in token mode to split into tokens, and it can be. -/
structure Succeeds (c : Config) (expr : String) : Prop where
  asks : ¬ c.AsksNothing expr
  result : if c.tokens then ∃ ts, tokenize expr = .ok ts else ∃ v, evaluate expr = .ok v

theorem dueAnswer_eq (c : Config) (expr : String) : c.dueAnswer expr = c.answerLine expr := by
  rw [dueAnswer, answerLine]
  by_cases h : c.AsksNothing expr
  · rw [if_pos h, render_reply_of_asksNothing h]
    rfl
  · rw [if_neg h, outcome_of_not_asksNothing h]
    dsimp only
    split
    · cases tokenize (String.ofList (Text.trim expr.toList)) <;> rfl
    · cases evaluate (String.ofList (Text.trim expr.toList)) <;> rfl

theorem succeeds_iff : c.Succeeds expr ↔
    (c.reply expr).outcome.isEvaluated = true ∧ (c.reply expr).outcome.isFailure = false := by
  by_cases h : c.AsksNothing expr
  · apply iff_of_false
    · intro hsucceeds
      exact hsucceeds.asks h
    · rcases outcome_of_asksNothing h with hskip | hexit
      · simp [hskip, Outcome.isEvaluated]
      · simp [hexit, Outcome.isEvaluated]
  · have hresult : c.Succeeds expr ↔
        if c.tokens then ∃ ts, tokenize expr = .ok ts else ∃ v, evaluate expr = .ok v :=
      ⟨Succeeds.result, fun hresult => ⟨h, hresult⟩⟩
    have hmoved := TokenStream.moved_trim expr
    rw [hresult, outcome_of_not_asksNothing h]
    -- blank ends change neither whether there are tokens nor whether there is a value
    by_cases htokens : c.tokens = true
    · rw [if_pos htokens, if_pos htokens, exists_tokenize_iff_of_moved hmoved,
        Outcome.isFailure_ofTokens_iff, and_iff_right (Outcome.isEvaluated_ofTokens _)]
    · rw [if_neg htokens, if_neg htokens, Outcome.isFailure_ofValue_iff,
        and_iff_right (Outcome.isEvaluated_ofValue _)]
      exact exists_congr fun v => (sameOutcome_of_moved hmoved).eq_ok_iff

end Config

namespace Session

/-- An unlimited run on a list succeeds if the session has had no failure before and every
expression succeeds. -/
theorem exists_result_runBatch (s : Session) (exprs : List String) :
    ∃ b, (s.runBatch exprs none).result = .ok b ∧
      (b = true ↔ s.counters.failed = 0 ∧ ∀ e ∈ exprs, s.config.Succeeds e) := by
  obtain ⟨b, hresult, hb⟩ := s.result_batchScript exprs
  refine ⟨b, ?_, ?_⟩
  · rw [runBatch, play_unlimited]
    exact hresult
  · simp only [hb, Outcome.isSuccess_iff, handleLine, Config.succeeds_iff]

end Session

/-! ## The program -/

/-- What the program leaves behind with expressions on its command line. -/
structure BatchCompletion (c : Config) (exprs : List String) (done : Completion) : Prop where
  output : Divided done.output (exprs.map fun e => textLine (c.answerLine e)) []
  success : done.exitCode = 0 ↔ ∀ e ∈ exprs, c.Succeeds e
  failure : done.exitCode = 1 ↔ ∃ e ∈ exprs, ¬ c.Succeeds e

/-- What the program leaves behind when it holds a session on its input. -/
structure SessionCompletion (c : Config) (input : List UInt8) (done : Completion) : Prop where
  output : ∃ complete rest before after, Divided input complete rest ∧
    complete ++ (if rest.isEmpty then [] else [rest]) = before ++ after ∧
    (∀ l ∈ before, ¬ c.IsExitLine l) ∧ (∀ l ∈ after.head?, c.IsExitLine l) ∧
    done.output = (if c.quiet then [] else Text.encode c.bannerText) ++
      before.flatMap (fun l => Text.encode c.prompt ++ (Session.new c).answerBytes (lineText l)) ++
      Text.encode c.prompt
  success : done.exitCode = 0

namespace Program

/-- The log of a run that makes the records. -/
def logLines (c : Config) (environment : Option String) (rs : List Log.Record) : List String :=
  Log.Filter.warnings (filterSpec c environment) ++
    (Log.Filter.ofSpec (filterSpec c environment)).lines rs

section RunConfig

variable {c : Config} {input : List UInt8}

theorem runConfig_of_isBatch (h : c.isBatch = true) {b : Bool}
    (hresult : ((Session.new c).runBatch c.exprs none).result = .ok b) (input : List UInt8)
    (environment : Option String) :
    runConfig c input environment = ⟨exitCode (.ok b),
      ((Session.new c).runBatch c.exprs none).output, logLines c environment
        (startRecord c :: ((Session.new c).runBatch c.exprs none).records)⟩ := by
  simp only [runConfig, h, ↓reduceIte, hresult, failureLines, List.append_nil, logLines]

theorem runConfig_of_not_isBatch (h : c.isBatch = false) (input : List UInt8)
    (environment : Option String) :
    runConfig c input environment = ⟨0, ((Session.new c).run ⟨input, none⟩ none).output,
      logLines c environment
        (startRecord c :: ((Session.new c).run ⟨input, none⟩ none).records)⟩ := by
  have hresult : ((Session.new c).run ⟨input, none⟩ none).result = .ok () := by
    obtain ⟨before, after, hlines, hbefore, hafter⟩ :=
      Session.exists_exit_split c (Source.mk input none).lines
    rw [(Session.new c).run_eq hlines hbefore hafter]
    cases after <;> rfl
  simp [runConfig, h, hresult, Except.map, exitCode, failureLines, logLines]

end RunConfig

theorem batchCompletion_runConfig {c : Config} (h : c.exprs ≠ []) (environment : Option String) :
    ∃ done, (∀ input, runConfig c input environment = done) ∧ BatchCompletion c c.exprs done := by
  have hbatch : c.isBatch = true := by simpa [Config.isBatch] using h
  obtain ⟨b, hresult, hb⟩ := (Session.new c).exists_result_runBatch c.exprs
  have hall : b = true ↔ ∀ e ∈ c.exprs, c.Succeeds e := by
    rw [hb]
    exact and_iff_right rfl
  refine ⟨runConfig c [] environment, fun input => ?_, ?_⟩
  · simp only [runConfig, hbatch, ↓reduceIte]
  · rw [runConfig_of_isBatch hbatch hresult]
    refine ⟨?_, ?_, ?_⟩
    · have hdivided := (Session.new c).divided_runBatch c.exprs
      simp only [Config.dueAnswer_eq] at hdivided
      exact hdivided
    · rw [← hall]
      cases b <;> simp [exitCode]
    · have hsome : (∃ e ∈ c.exprs, ¬ c.Succeeds e) ↔ ¬ b = true := by
        rw [hall]
        push Not
        rfl
      rw [hsome]
      cases b <;> simp [exitCode]

theorem sessionCompletion_runConfig {c : Config} (h : c.exprs = []) (input : List UInt8)
    (environment : Option String) : SessionCompletion c input (runConfig c input environment) := by
  have hbatch : c.isBatch = false := by simp [Config.isBatch, h]
  obtain ⟨complete, rest, hdiv⟩ := exists_divided input
  obtain ⟨before, after, hlines, hbefore, hafter⟩ :=
    Session.exists_exit_split c (Source.mk input none).lines
  rw [runConfig_of_not_isBatch hbatch, (Session.new c).run_eq hlines hbefore hafter]
  refine ⟨⟨complete, rest, before, after, hdiv, ?_, hbefore, hafter, ?_⟩, rfl⟩
  · rw [← hlines, hdiv.lines_eq none]
    rfl
  · dsimp only
    rw [List.flatMap_map]
    rfl

/-- With expressions on a command line that can be used, the program answers each on a line of its
own, whatever the input is. Without, it holds a session on the input. -/
theorem run_modes {args : List String} {c : Config} (h : CommandLine.parse args = .ok c)
    (environment : Option String) :
    (CommandLine.expressions args ≠ [] → ∃ done, (∀ input, run args input environment = .ok done) ∧
      BatchCompletion c (CommandLine.expressions args) done) ∧
    (CommandLine.expressions args = [] → ∀ input, ∃ done, run args input environment = .ok done ∧
      SessionCompletion c input done) := by
  have hexprs := CommandLine.exprs_of_parse h
  have hrun : ∀ input, run args input environment = .ok (runConfig c input environment) := by
    intro input
    rw [run, h]
  rw [← hexprs]
  constructor
  · intro hne
    obtain ⟨done, hdone, hbatch⟩ := batchCompletion_runConfig hne environment
    exact ⟨done, fun input => by rw [hrun, hdone], hbatch⟩
  · intro hnil input
    exact ⟨_, hrun input, sessionCompletion_runConfig hnil input environment⟩

theorem run_modes_mixed :
    (∃ c done, CommandLine.parse ["--tokens", "-qe=2 2", "--expr", " EXIT", "-e3"] = .ok c ∧
      (∀ input, run ["--tokens", "-qe=2 2", "--expr", " EXIT", "-e3"] input none = .ok done) ∧
      BatchCompletion c ["2 2", " EXIT", "3"] done) ∧
    ∀ input, ∃ c done, CommandLine.parse ["--prompt", "expr", "-q"] = .ok c ∧
      run ["--prompt", "expr", "-q"] input (some "debug") = .ok done ∧
      SessionCompletion c input done := by
  have hbatch : CommandLine.parse ["--tokens", "-qe=2 2", "--expr", " EXIT", "-e3"] =
      .ok ⟨["2 2", " EXIT", "3"], "> ", true, true, "warn", "exit"⟩ := by decide +kernel
  have hsession : CommandLine.parse ["--prompt", "expr", "-q"] =
      .ok ⟨[], "expr", true, false, "warn", "exit"⟩ := by decide +kernel
  constructor
  · obtain ⟨done, hdone, hcompletion⟩ := (run_modes hbatch none).1 (by decide)
    exact ⟨_, done, hbatch, hdone, hcompletion⟩
  · intro input
    obtain ⟨done, hdone, hcompletion⟩ := (run_modes hsession (some "debug")).2 (by decide) input
    exact ⟨_, done, hsession, hdone, hcompletion⟩

end Program

end Calculator
