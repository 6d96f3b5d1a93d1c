import Calculator.Proofs.Evaluation.Places

/-!
# What errors are about

An evaluation fails at a token that the state before it does not take, at the end of the input,
which counts as a token here, or at a character that has no place. An error about a token quotes
nothing but this token.
-/

namespace Calculator

/-- The errors about a token. -/
inductive EvalError.Blames (t : Token) : EvalError → Prop where
  | zeroDivisor : Blames t .divisionByZero
  | tooLarge : Blames t (.numberTooLarge t.text)
  | noOperand : Blames t (.unexpectedToken EvalState.operandStart t.description t.offset)
  | unclosed (openOffset : Nat) : Blames t (.unclosedParen openOffset t.description)
  | trailing : Blames t (.trailingInput t.description t.offset)

theorem EvalError.Blames.ne_badCharacter {t : Token} {e : EvalError} (h : e.Blames t) (ch : Char)
    (offset : Nat) : e ≠ .badCharacter ch offset := by
  cases h <;> exact nofun

namespace EvalState

variable {ctx : Context} {st : EvalState} {t : Token} {e : EvalError}

theorem blames_misplaced (ctx : Context) (t : Token) : (misplaced ctx t).Blames t := by
  rw [misplaced]
  cases ctx.levels with
  | nil => exact .trailing
  | cons level levels => exact .unclosed level.openOffset

theorem blames_of_product? {w : Waiting} {y : Binary64} (h : w.product? y = .error e) :
    e.Blames t := by
  rw [Waiting.eq_divisionByZero h]
  exact .zeroDivisor

theorem blames_of_afterOperandToken (h : afterOperandToken ctx t = .error e) : e.Blames t := by
  unfold afterOperandToken at h
  split at h
  · unfold literalValue at h
    dsimp only at h
    split at h
    · cases h
    · cases h
      exact .tooLarge
  · cases h
  · cases h
    exact .noOperand

theorem blames_of_afterOperatorToken {x : Binary64} (h : afterOperatorToken ctx x t = .error e) :
    e.Blames t := by
  unfold afterOperatorToken at h
  split at h
  · cases h
  · cases h
  · cases h
  · cases h
  · split at h
    · cases h
      exact blames_misplaced ctx t
    · cases h
  · cases h
    exact blames_misplaced ctx t

theorem blames_of_step (h : st.step t = .error e) : e.Blames t := by
  cases st with
  | operand ctx => exact blames_of_afterOperandToken h
  | operator ctx y =>
      rw [step] at h
      cases hx : ctx.waiting.product? y with
      | error e' =>
          rw [hx] at h
          cases h
          exact blames_of_product? hx
      | ok x =>
          rw [hx] at h
          exact blames_of_afterOperatorToken h

theorem blames_of_finish {offset : Nat} (h : st.finish offset = .error e) :
    e.Blames (.endOfInput offset) := by
  cases st with
  | operand ctx =>
      cases h
      exact .noOperand
  | operator ctx y =>
      rw [finish] at h
      cases hx : ctx.waiting.product? y with
      | error e' =>
          rw [hx] at h
          cases h
          exact blames_of_product? hx
      | ok x =>
          rw [hx, ok_bind] at h
          split at h
          · cases h
          · cases h
            exact blames_misplaced _ _

theorem blames_of_foldlM {ts : List Token} (h : ts.foldlM step st = .error e) :
    ∃ t ∈ ts, e.Blames t := by
  induction ts generalizing st with
  | nil => cases h
  | cons t ts ih =>
      rw [List.foldlM_cons] at h
      cases hnext : st.step t with
      | error e' =>
          rw [hnext] at h
          cases h
          exact ⟨t, List.mem_cons_self, blames_of_step hnext⟩
      | ok next =>
          rw [hnext] at h
          obtain ⟨u, hu, hblames⟩ := ih h
          exact ⟨u, List.mem_cons_of_mem t hu, hblames⟩

end EvalState

/-- The ways in which the evaluation of a token stream can fail. -/
inductive TokenStream.Fails (S : TokenStream) (e : EvalError) : Prop where
  | token {t : Token} (ht : t ∈ S.tokens)
      (hrun : S.tokens.foldlM EvalState.step .initial = .error e) (hblames : e.Blames t)
  | finish {offset : Nat} (hend : S.ending = .endOfInput offset)
      (hblames : e.Blames (.endOfInput offset))
  | bad {ch : Char} {offset : Nat} (hend : S.ending = .badCharacter ch offset)
      (he : e = .badCharacter ch offset)

theorem fails_of_evaluate {s : String} {e : EvalError} (h : evaluate s = .error e) :
    (TokenStream.ofString s).Fails e := by
  rw [evaluate_eq] at h
  cases hrun : (TokenStream.ofString s).tokens.foldlM EvalState.step .initial with
  | error e' =>
      rw [hrun] at h
      cases h
      obtain ⟨t, ht, hblames⟩ := EvalState.blames_of_foldlM hrun
      exact .token ht hrun hblames
  | ok st =>
      rw [hrun, ok_bind] at h
      cases hend : (TokenStream.ofString s).ending with
      | endOfInput offset =>
          rw [hend] at h
          exact .finish hend (EvalState.blames_of_finish h)
      | badCharacter ch offset =>
          rw [hend] at h
          cases h
          exact .bad hend rfl

theorem fails_of_tokenize {s : String} {e : EvalError} (h : tokenize s = .error e) :
    (TokenStream.ofString s).Fails e := by
  obtain ⟨ch, offset, hend, he⟩ := ending_of_tokenize h
  exact .bad hend he

end Calculator
