import Calculator.Proofs.Binary64.IntegerText
import Calculator.Proofs.Evaluation.Exact
import Calculator.Proofs.Evaluation.Trees
import Calculator.Proofs.Scanner.Trimming
import Calculator.Proofs.Session.Reply
import Calculator.Session.Basic

/-!
# Exact answers

An expression whose numbers and results are all integers of magnitude at most `2 ^ 53` evaluates
to the exact integer, and a session answers it with the digits of this integer. If the exact
evaluation meets a divisor that is zero, so does the rounded one.
-/

namespace Calculator

open Grammar

namespace Grammar

mutual

theorem Expr.lexemes_ne_nil (e : Expr) : e.lexemes ≠ [] := by
  cases e with
  | term t => exact t.lexemes_ne_nil
  | sum e op t => exact List.append_ne_nil_of_right_ne_nil _ (List.cons_ne_nil _ _)

theorem Term.lexemes_ne_nil (t : Term) : t.lexemes ≠ [] := by
  cases t with
  | factor f => exact f.lexemes_ne_nil
  | product t op f => exact List.append_ne_nil_of_right_ne_nil _ (List.cons_ne_nil _ _)

theorem Factor.lexemes_ne_nil (f : Factor) : f.lexemes ≠ [] := by
  cases f with
  | number digits => exact List.cons_ne_nil _ _
  | group e => exact List.cons_ne_nil _ _

end

end Grammar

theorem tokenize_empty : tokenize "" = .ok [] := by
  have hlay : Layout 0 "".toList [] (.endOfInput 0) := .finish .nil
  exact tokenize_of_layout hlay

/-- In evaluation mode a line that spells a tree has the value of this tree. -/
theorem Session.outcome_handleLine (session : Session) {s : String} {ts : List Token} {e : Expr}
    (hs : tokenize s = .ok ts) (he : e.lexemes = ts.map Token.lexeme)
    (htokens : session.config.tokens = false) (hexit : session.config.isExit s = false) :
    (session.handleLine s).1.outcome = .ofValue e.value := by
  obtain ⟨ts', hs', hlexemes⟩ := exists_tokenize_trim hs
  have he' : ts'.map Token.lexeme = e.lexemes := hlexemes.trans he.symm
  have htrim : Text.trim s.toList ≠ [] := by
    intro hnil
    rw [hnil, String.ofList_nil, tokenize_empty] at hs'
    obtain rfl := Except.ok.inj hs'
    exact e.lexemes_ne_nil he'.symm
  have hreply : session.config.reply s = .value (String.ofList (Text.trim s.toList)) := by
    rw [Config.reply_of_trim_ne_nil hexit htrim, if_neg (by simp [htokens])]
  rw [handleLine, hreply, Reply.outcome_value, evaluate_eq_value hs' he']

/-- Where the exact evaluation comes to an integer, the value is this integer and the answer its
digits; where it comes to a zero divisor, so does the evaluation. -/
theorem evaluate_exact {s : String} {ts : List Token} {e : Expr} (hs : tokenize s = .ok ts)
    (he : e.lexemes = ts.map Token.lexeme) :
    (∀ z, e.exact = .ok z → ∃ v, evaluate s = .ok v ∧ v.Denotes z ∧
      ∀ session : Session, session.config.tokens = false → session.config.isExit s = false →
        (session.handleLine s).1.outcome = .value v ∧
          (session.handleLine s).1.outcome.render = some (toString z)) ∧
    (e.exact = .error .zeroDivisor → evaluate s = .error .divisionByZero) := by
  have hvalue := evaluate_eq_value hs he.symm
  have hfollows := e.follows
  refine ⟨fun z hz => ?_, fun hz => ?_⟩
  · rw [hz] at hfollows
    cases hv : e.value with
    | error err =>
        rw [hv] at hfollows
        cases hfollows
    | ok v =>
        rw [hv] at hfollows
        cases hfollows with
        | value hsmall hdenotes =>
            refine ⟨v, by rw [hvalue, hv], hdenotes, fun session htokens hexit => ?_⟩
            have houtcome := session.outcome_handleLine hs he htokens hexit
            rw [hv] at houtcome
            rw [houtcome]
            exact ⟨rfl, congrArg some (Binary64.answerText_of_denotes hdenotes hsmall)⟩
  · rw [hvalue]
    rw [hz] at hfollows
    cases hv : e.value with
    | error err =>
        rw [hv] at hfollows
        cases hfollows
        rfl
    | ok v =>
        rw [hv] at hfollows
        cases hfollows

theorem evaluate_exact_lowest :
    ∃ v, evaluate "(0-9007199254740991)/1-1" = .ok v ∧ v.Denotes (-9007199254740992) ∧
      ((Session.new .default).handleLine "(0-9007199254740991)/1-1").1.outcome.render =
        some "-9007199254740992" := by
  obtain ⟨ts, e, hs, he, hexact⟩ : ∃ (ts : List Token) (e : Expr),
      tokenize "(0-9007199254740991)/1-1" = .ok ts ∧ e.lexemes = ts.map Token.lexeme ∧
      e.exact = .ok (-9007199254740992) :=
    ⟨[⟨.leftParen, "(", 0⟩, ⟨.number, "0", 1⟩, ⟨.minus, "-", 2⟩, ⟨.number, "9007199254740991", 3⟩,
      ⟨.rightParen, ")", 19⟩, ⟨.divide, "/", 20⟩, ⟨.number, "1", 21⟩, ⟨.minus, "-", 22⟩,
      ⟨.number, "1", 23⟩],
      .sum (.term (.product (.factor (.group (.sum (.term (.factor (.number "0"))) .sub
        (.factor (.number "9007199254740991"))))) .div (.number "1"))) .sub
        (.factor (.number "1")),
      tokenize_eq_ok_iff.mpr ⟨24, by decide +kernel⟩, rfl, by decide +kernel⟩
  obtain ⟨v, hv, hdenotes, hanswer⟩ := (evaluate_exact hs he).1 _ hexact
  exact ⟨v, hv, hdenotes, (hanswer (Session.new .default) rfl (by decide)).2⟩

end Calculator
