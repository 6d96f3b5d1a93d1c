import Calculator.Session.Reply

/-!
# What a line is replied

The exit command and a blank line are told by the line without its blank ends. Every other line
has the outcome of what is between these ends, and is answered.
-/

namespace Calculator

namespace Outcome

def ofValue : Except EvalError Binary64 → Outcome
  | .ok x => .value x
  | .error e => .failure e

def ofTokens : Except EvalError (List Token) → Outcome
  | .ok ts => .tokens (listing ts)
  | .error e => .failure e

theorem render_ofValue_ne_none (r : Except EvalError Binary64) : (ofValue r).render ≠ none := by
  cases r <;> exact Option.some_ne_none _

theorem render_ofTokens_ne_none (r : Except EvalError (List Token)) :
    (ofTokens r).render ≠ none := by
  cases r <;> exact Option.some_ne_none _

theorem isEvaluated_ofValue (r : Except EvalError Binary64) : (ofValue r).isEvaluated = true := by
  cases r <;> rfl

theorem isEvaluated_ofTokens (r : Except EvalError (List Token)) :
    (ofTokens r).isEvaluated = true := by
  cases r <;> rfl

theorem isFailure_ofValue_iff {r : Except EvalError Binary64} :
    (ofValue r).isFailure = false ↔ ∃ v, r = .ok v := by
  cases r with
  | ok v => exact iff_of_true rfl ⟨v, rfl⟩
  | error e => exact iff_of_false nofun nofun

theorem isFailure_ofTokens_iff {r : Except EvalError (List Token)} :
    (ofTokens r).isFailure = false ↔ ∃ ts, r = .ok ts := by
  cases r with
  | ok ts => exact iff_of_true rfl ⟨ts, rfl⟩
  | error e => exact iff_of_false nofun nofun

end Outcome

namespace Reply

theorem outcome_value (line : String) :
    (Reply.value line).outcome = .ofValue (evaluate line) := by
  rw [evaluate, Reply.value]
  cases (Evaluation.ofStream (TokenStream.ofString line)).result <;> rfl

theorem outcome_tokens (line : String) :
    (Reply.tokens line).outcome = .ofTokens (tokenize line) := by
  rw [tokenize, Reply.tokens]
  cases (TokenStream.ofString line).toExcept <;> rfl

end Reply

namespace Config

variable {c : Config} {line : String}

theorem isExit_eq_false_iff : c.isExit line = false ↔
    (Text.trim line.toList).map Char.toLower ≠ c.exitCommand.toList.map Char.toLower := by
  rw [← Bool.not_eq_true, isExit, Text.sameIgnoringCase_iff]

/-- The reply depends on nothing but what is between the blank ends of the line. -/
theorem reply_of_trim_eq {line' : String} (h : Text.trim line.toList = Text.trim line'.toList) :
    c.reply line = c.reply line' := by
  rw [reply, reply, isExit, isExit, h]

theorem reply_of_isExit (h : c.isExit line = true) : c.reply line = ⟨.exit, []⟩ := by
  rw [reply, if_pos h]

theorem reply_of_trim_eq_nil (h : c.isExit line = false) (htrim : Text.trim line.toList = []) :
    c.reply line = ⟨.skip, []⟩ := by
  rw [reply, if_neg (by simp [h]), htrim]
  rfl

theorem reply_of_trim_ne_nil (h : c.isExit line = false) (htrim : Text.trim line.toList ≠ []) :
    c.reply line = if c.tokens then .tokens (String.ofList (Text.trim line.toList))
      else .value (String.ofList (Text.trim line.toList)) := by
  rw [reply, if_neg (by simp [h]), if_neg (by simpa using htrim)]

/-- Among the lines that are not the exit command, exactly the blank ones have no answer. -/
theorem render_reply_eq_none_iff (h : c.isExit line = false) :
    (c.reply line).outcome.render = none ↔ Text.trim line.toList = [] := by
  by_cases htrim : Text.trim line.toList = []
  · rw [reply_of_trim_eq_nil h htrim]
    exact iff_of_true rfl htrim
  · refine iff_of_false ?_ htrim
    rw [reply_of_trim_ne_nil h htrim]
    split
    · rw [Reply.outcome_tokens]
      exact Outcome.render_ofTokens_ne_none _
    · rw [Reply.outcome_value]
      exact Outcome.render_ofValue_ne_none _

theorem outcome_ne_exit (h : c.isExit line = false) : (c.reply line).outcome ≠ .exit := by
  intro hexit
  have hnone : (c.reply line).outcome.render = none := by rw [hexit, Outcome.render]
  rw [reply_of_trim_eq_nil h ((render_reply_eq_none_iff h).mp hnone)] at hexit
  cases hexit

/-- Blank, or the exit command in letters of either case, but for its blank ends. -/
def AsksNothing (c : Config) (line : String) : Prop :=
  Text.trim line.toList = [] ∨
    (Text.trim line.toList).map Char.toLower = c.exitCommand.toList.map Char.toLower

instance (c : Config) (line : String) : Decidable (c.AsksNothing line) :=
  inferInstanceAs (Decidable (_ ∨ _))

theorem outcome_of_asksNothing (h : c.AsksNothing line) :
    (c.reply line).outcome = .skip ∨ (c.reply line).outcome = .exit := by
  by_cases hexit : c.isExit line = true
  · rw [reply_of_isExit hexit]
    exact .inr rfl
  · have hexit' : c.isExit line = false := by simpa using hexit
    have htrim : Text.trim line.toList = [] :=
      h.resolve_right (isExit_eq_false_iff.mp hexit')
    rw [reply_of_trim_eq_nil hexit' htrim]
    exact .inl rfl

theorem outcome_of_not_asksNothing (h : ¬ c.AsksNothing line) :
    (c.reply line).outcome =
      if c.tokens then .ofTokens (tokenize (String.ofList (Text.trim line.toList)))
      else .ofValue (evaluate (String.ofList (Text.trim line.toList))) := by
  rw [AsksNothing, not_or] at h
  rw [reply_of_trim_ne_nil (isExit_eq_false_iff.mpr h.2) h.1]
  split
  · exact Reply.outcome_tokens _
  · exact Reply.outcome_value _

end Config

end Calculator
