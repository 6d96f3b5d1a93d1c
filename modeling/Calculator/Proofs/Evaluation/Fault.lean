import Calculator.Proofs.Evaluation.SyntaxError
import Mathlib.Data.Prod.Lex

/-!
# The error that is reported

An input can have several faults. Each shows at one of the tokens, or behind the last one, and at
one of three stages there: first the token has to be one, then a division by the operand before
it has to be possible, then the token has to fit. The fault that shows first is reported.
-/

namespace Calculator

open Grammar

/-- The faults of an input, each with the number of tokens before the place where it shows, the
stage at which it shows there, and its error. -/
inductive Fault (S : TokenStream) : Nat → Nat → EvalError → Prop where
  | badCharacter {ch : Char} {offset : Nat} (hend : S.ending = .badCharacter ch offset) :
      Fault S S.tokens.length 0 (.badCharacter ch offset)
  | zeroDivisor {before after : List Token} (hS : S.tokens = before ++ after)
      (hz : EndsInZeroDivisor before) : Fault S before.length 1 .divisionByZero
  | numberTooLarge {before after : List Token} {t : Token} (hS : S.tokens = before ++ t :: after)
      (hawaits : AwaitsOperand before) (hk : t.kind = .number)
      (hx : (Binary64.ofNat (digitsValue t.text.toList)).isFinite = false) :
      Fault S before.length 2 (.numberTooLarge t.text)
  | misplaced {before after : List Token} {t : Token} (hS : S.tokens = before ++ t :: after)
      (hbefore : Viable (before.map Token.lexeme))
      (ht : ¬ Viable ((before ++ [t]).map Token.lexeme)) :
      Fault S before.length 2 (syntaxError before t)
  | incomplete {offset : Nat} (hend : S.ending = .endOfInput offset)
      (hviable : Viable (S.tokens.map Token.lexeme))
      (hsentence : ¬ Sentence (S.tokens.map Token.lexeme)) :
      Fault S S.tokens.length 2 (syntaxError S.tokens (.endOfInput offset))

/-- The error of the first stage that has one, and the only one there. -/
def FirstStage (fault : Nat → EvalError → Prop) (e : EvalError) : Prop :=
  ∃ p, fault p e ∧ ∀ p' e', fault p' e' → p < p' ∨ p = p' ∧ e = e'

/-- The error of the fault that shows first. -/
def FirstFault (S : TokenStream) (e : EvalError) : Prop :=
  ∃ m p, Fault S m p e ∧ ∀ m' p' e', Fault S m' p' e' → toLex (m, p) ≤ toLex (m', p')

namespace Grammar.PartialTree

variable {a : PartialTree} {before after : List Token} {t : Token} {S : TokenStream} {p : Nat}
  {e : EvalError}

/-- The faults that show at a token, told of the partial tree before it. -/
inductive TokenFault (a : PartialTree) (t : Token) : Nat → EvalError → Prop where
  | zeroDivisor (hz : a.EndsInZeroDivisor) : TokenFault a t 1 .divisionByZero
  | tooLarge {b : PartialTree} (hb : a.step t = some b) (hk : t.kind = .number)
      (hx : (Binary64.ofNat (digitsValue t.text.toList)).isFinite = false) :
      TokenFault a t 2 (.numberTooLarge t.text)
  | refused (hn : a.step t = none) : TokenFault a t 2 (a.refusal t)

inductive FinalFault (a : PartialTree) : StreamEnd → Nat → EvalError → Prop where
  | badCharacter {ch : Char} {offset : Nat} :
      FinalFault a (.badCharacter ch offset) 0 (.badCharacter ch offset)
  | zeroDivisor {ending : StreamEnd} (hz : a.EndsInZeroDivisor) :
      FinalFault a ending 1 .divisionByZero
  | refused {offset : Nat} (ha : ∀ w f, a ≠ .operator w [] f) :
      FinalFault a (.endOfInput offset) 2 (a.refusal (.endOfInput offset))

theorem mem_of_mem_concat {xs : List Token} {u : Token} (h : xs = before ++ t :: after)
    (hu : u ∈ before ++ [t]) : u ∈ xs := by
  rw [h, ← List.singleton_append, ← List.append_assoc]
  exact List.mem_append_left after hu

theorem exists_step_of_number (h : initial.run before = some a) (hawaits : AwaitsOperand before)
    (hk : t.kind = .number) : ∃ b, a.step t = some b := by
  obtain ⟨w, ps, rfl⟩ := (awaitsOperand_iff h).mp hawaits
  exact ⟨_, step_eq_some_iff.mpr (.number hk)⟩

theorem awaitsOperand_of_step {b : PartialTree} (h : initial.run before = some a)
    (hb : a.step t = some b) (hk : t.kind = .number) : AwaitsOperand before := by
  rw [awaitsOperand_iff h]
  cases step_eq_some_iff.mp hb with
  | number _ => exact ⟨_, _, rfl⟩
  | openParen _ => exact ⟨_, _, rfl⟩
  | sum op hk' => rw [hk] at hk'; cases op <;> cases hk'
  | product op hk' => rw [hk] at hk'; cases op <;> cases hk'
  | closeParen hk' => rw [hk] at hk'; cases hk'

theorem viable_concat_iff (h : initial.run before = some a)
    (hts : ∀ u ∈ before ++ [t], u.WellSpelled) :
    Viable ((before ++ [t]).map Token.lexeme) ↔ ∃ b, a.step t = some b := by
  rw [viable_iff hts, run_concat h]

theorem fault_iff_tokenFault (hspell : ∀ u ∈ S.tokens, u.WellSpelled)
    (hS : S.tokens = before ++ t :: after) (h : initial.run before = some a) :
    Fault S before.length p e ↔ TokenFault a t p e := by
  have hspell' : ∀ u ∈ before ++ [t], u.WellSpelled := fun u hu =>
    hspell u (mem_of_mem_concat hS hu)
  have hbefore : ∀ u ∈ before, u.WellSpelled := fun u hu => hspell' u (by simp [hu])
  -- the item of a fault determines the tokens before it and the one that it shows at
  have hsplit : ∀ {before' after' : List Token}, S.tokens = before' ++ after' →
      before'.length = before.length → before' = before ∧ after' = t :: after :=
    fun hS' hlen => List.append_inj (hS'.symm.trans hS) hlen
  have hlength : S.tokens.length ≠ before.length := by simp [hS]
  constructor
  · generalize hm : before.length = m
    rintro (hend | ⟨hS', hz⟩ | ⟨hS', hawaits, hk, hx⟩ | ⟨hS', hviable, ht⟩ | ⟨hend, _, _⟩)
    · exact (hlength hm.symm).elim
    · obtain ⟨rfl, -⟩ := hsplit hS' hm.symm
      exact .zeroDivisor ((endsInZeroDivisor_iff h hbefore).mp hz)
    · obtain ⟨rfl, htail⟩ := hsplit hS' hm.symm
      cases htail
      obtain ⟨b, hb⟩ := exists_step_of_number h hawaits hk
      exact .tooLarge hb hk hx
    · obtain ⟨rfl, htail⟩ := hsplit hS' hm.symm
      cases htail
      rw [← refusal_eq_syntaxError h]
      rw [viable_concat_iff h hspell', not_exists] at ht
      exact .refused (Option.eq_none_iff_forall_ne_some.mpr ht)
    · exact (hlength hm.symm).elim
  · rintro (hz | ⟨hb, hk, hx⟩ | hn)
    · exact .zeroDivisor hS ((endsInZeroDivisor_iff h hbefore).mpr hz)
    · exact .numberTooLarge hS (awaitsOperand_of_step h hb hk) hk hx
    · rw [refusal_eq_syntaxError h]
      refine .misplaced hS ((viable_iff hbefore).mpr ⟨a, h⟩) ?_
      rw [viable_concat_iff h hspell']
      rintro ⟨b, hb⟩
      rw [hn] at hb
      cases hb

theorem fault_iff_finalFault (hspell : ∀ u ∈ S.tokens, u.WellSpelled)
    (h : initial.run S.tokens = some a) :
    Fault S S.tokens.length p e ↔ FinalFault a S.ending p e := by
  have hsplit : ∀ {before' after' : List Token}, S.tokens = before' ++ after' →
      before'.length = S.tokens.length → before' = S.tokens ∧ after' = [] :=
    fun hS' hlen => List.append_inj (hS'.symm.trans (List.append_nil _).symm) hlen
  have hsentence : Sentence (S.tokens.map Token.lexeme) ↔ ∃ w f, a = .operator w [] f := by
    rw [sentence_iff hspell, h]
    simp only [Option.some.injEq]
  constructor
  · generalize hm : S.tokens.length = m
    rintro (hend | ⟨hS', hz⟩ | ⟨hS', -, -, -⟩ | ⟨hS', -, -⟩ | ⟨hend, -, hnot⟩)
    · rw [hend]
      exact .badCharacter
    · obtain ⟨rfl, -⟩ := hsplit hS' hm.symm
      exact .zeroDivisor ((endsInZeroDivisor_iff h hspell).mp hz)
    · cases (hsplit hS' hm.symm).2
    · cases (hsplit hS' hm.symm).2
    · rw [hend, ← refusal_eq_syntaxError h]
      exact .refused fun w f ha => hnot (hsentence.mpr ⟨w, f, ha⟩)
  · generalize hending : S.ending = ending
    rintro (_ | hz | ha)
    · exact .badCharacter hending
    · exact .zeroDivisor (List.append_nil _).symm ((endsInZeroDivisor_iff h hspell).mpr hz)
    · rw [refusal_eq_syntaxError h]
      refine .incomplete hending ((viable_iff hspell).mpr ⟨a, h⟩) ?_
      rw [hsentence]
      rintro ⟨w, f, rfl⟩
      exact ha w f rfl

theorem Verdict.not_fault {st : EvalState} (h : Verdict a t (.ok st)) : ¬ TokenFault a t p e := by
  cases h with
  | taken hz hb hx _ =>
      rintro (hz' | ⟨-, hk, hx'⟩ | hn)
      · exact hz hz'
      · rw [hx hk] at hx'
        cases hx'
      · rw [hn] at hb
        cases hb

theorem Verdict.firstStage (h : Verdict a t (.error e)) : FirstStage (TokenFault a t) e := by
  cases h with
  | zeroDivisor hz =>
      refine ⟨1, .zeroDivisor hz, ?_⟩
      rintro p' e' (- | ⟨-, -, -⟩ | -)
      · exact .inr ⟨rfl, rfl⟩
      · exact .inl (by decide)
      · exact .inl (by decide)
  | refused hz hn =>
      refine ⟨2, .refused hn, ?_⟩
      rintro p' e' (hz' | ⟨hb, -, -⟩ | -)
      · exact (hz hz').elim
      · rw [hn] at hb
        cases hb
      · exact .inr ⟨rfl, rfl⟩
  | tooLarge hz hb hk hx =>
      refine ⟨2, .tooLarge hb hk hx, ?_⟩
      rintro p' e' (hz' | ⟨-, -, -⟩ | hn)
      · exact (hz hz').elim
      · exact .inr ⟨rfl, rfl⟩
      · rw [hn] at hb
        cases hb

theorem FinalVerdict.not_fault {offset : Nat} {v : Binary64} (h : FinalVerdict a offset (.ok v)) :
    ¬ FinalFault a (.endOfInput offset) p e := by
  cases h with
  | complete hz ha _ =>
      rintro (_ | hz' | ha')
      · exact hz hz'
      · exact ha' _ _ ha

theorem FinalVerdict.firstStage {offset : Nat} (h : FinalVerdict a offset (.error e)) :
    FirstStage (FinalFault a (.endOfInput offset)) e := by
  cases h with
  | zeroDivisor hz =>
      refine ⟨1, .zeroDivisor hz, ?_⟩
      rintro p' e' (_ | - | -)
      · exact .inr ⟨rfl, rfl⟩
      · exact .inl (by decide)
  | refused hz ha =>
      refine ⟨2, .refused ha, ?_⟩
      rintro p' e' (_ | hz' | -)
      · exact (hz hz').elim
      · exact .inr ⟨rfl, rfl⟩

theorem firstStage_badCharacter (a : PartialTree) (ch : Char) (offset : Nat) :
    FirstStage (FinalFault a (.badCharacter ch offset)) (.badCharacter ch offset) := by
  refine ⟨0, .badCharacter, ?_⟩
  rintro p' e' (_ | - | _)
  · exact .inr ⟨rfl, rfl⟩
  · exact .inl (by decide)

end Grammar.PartialTree

open PartialTree

/-- What the faults of a stream make of it. -/
def Answers (S : TokenStream) : Except EvalError Binary64 → Prop
  | .ok _ => ∀ m p e, ¬ Fault S m p e
  | .error e => ∃ m, (∀ m' p' e', Fault S m' p' e' → m ≤ m') ∧ FirstStage (Fault S m) e

theorem Fault.le_length {S : TokenStream} {m p : Nat} {e : EvalError} (h : Fault S m p e) :
    m ≤ S.tokens.length := by
  cases h with
  | badCharacter _ => exact le_rfl
  | zeroDivisor hS _ => simp [hS]
  | numberTooLarge hS _ _ _ => simp [hS]
  | misplaced hS _ _ => simp [hS]
  | incomplete _ _ _ => exact le_rfl

variable {S : TokenStream} {a : PartialTree} {st : EvalState}

theorem answers_end (hspell : ∀ u ∈ S.tokens, u.WellSpelled)
    (hrun : initial.run S.tokens = some a) (hst : a.state = .ok st)
    (hlater : ∀ m p e, Fault S m p e → S.tokens.length ≤ m) :
    Answers S (S.ending.answer st) := by
  have hfinal : ∀ {p e}, Fault S S.tokens.length p e ↔ FinalFault a S.ending p e :=
    fault_iff_finalFault hspell hrun
  cases hend : S.ending with
  | badCharacter ch offset =>
      rw [hend] at hfinal
      refine ⟨S.tokens.length, hlater, ?_⟩
      simpa only [FirstStage, hfinal] using firstStage_badCharacter a ch offset
  | endOfInput offset =>
      rw [hend] at hfinal
      rw [StreamEnd.answer]
      have hverdict := finish_verdict hst offset
      cases hresult : st.finish offset with
      | error e =>
          rw [hresult] at hverdict
          refine ⟨S.tokens.length, hlater, ?_⟩
          simpa only [FirstStage, hfinal] using hverdict.firstStage
      | ok v =>
          rw [hresult] at hverdict
          intro m p e hfault
          obtain rfl : m = S.tokens.length := hfault.le_length.antisymm (hlater m p e hfault)
          exact hverdict.not_fault (hfinal.mp hfault)

/-- When no fault shows at the tokens read so far, the rest is answered as the faults demand. -/
theorem answers_run (hspell : ∀ u ∈ S.tokens, u.WellSpelled) {before rest : List Token}
    (hS : S.tokens = before ++ rest) (hrun : initial.run before = some a) (hst : a.state = .ok st)
    (hlater : ∀ m p e, Fault S m p e → before.length ≤ m) :
    Answers S (rest.foldlM EvalState.step st >>= S.ending.answer) := by
  induction rest generalizing before a st with
  | nil =>
      obtain rfl : before = S.tokens := by simp [hS]
      exact answers_end hspell hrun hst hlater
  | cons t rest ih =>
      have hfault : ∀ {p e}, Fault S before.length p e ↔ TokenFault a t p e :=
        fault_iff_tokenFault hspell hS hrun
      have hverdict := step_verdict hst t
      rw [List.foldlM_cons, bind_assoc]
      cases hstep : st.step t with
      | error e =>
          rw [hstep] at hverdict
          refine ⟨before.length, hlater, ?_⟩
          simpa only [FirstStage, hfault] using hverdict.firstStage
      | ok next =>
          rw [hstep] at hverdict
          have hnone : ∀ p e, ¬ Fault S before.length p e := fun p e h =>
            hverdict.not_fault (hfault.mp h)
          cases hverdict with
          | @taken b _ _ hb _ hnext =>
              have hrun' : initial.run (before ++ [t]) = some b := by rw [run_concat hrun, hb]
              refine ih (by simp [hS]) hrun' hnext fun m p e h => ?_
              have hle := hlater m p e h
              have hne : m ≠ before.length := by
                rintro rfl
                exact hnone p e h
              rw [List.length_append, List.length_singleton]
              omega

theorem answers_evaluate (s : String) : Answers (TokenStream.ofString s) (evaluate s) := by
  rw [evaluate_eq]
  exact answers_run (TokenStream.wellSpelled s) (List.nil_append _).symm rfl state_initial
    fun m _ _ _ => Nat.zero_le m

theorem Answers.eq_error_iff {result : Except EvalError Binary64} (h : Answers S result)
    (e : EvalError) : result = .error e ↔ FirstFault S e := by
  constructor
  · rintro rfl
    obtain ⟨m, hleast, p, hfault, hstage⟩ := h
    refine ⟨m, p, hfault, fun m' p' e' hfault' => ?_⟩
    rw [Prod.Lex.toLex_le_toLex]
    rcases (hleast m' p' e' hfault').lt_or_eq with hlt | rfl
    · exact .inl hlt
    · refine .inr ⟨rfl, ?_⟩
      rcases hstage p' e' hfault' with hlt | ⟨heq, -⟩
      · exact hlt.le
      · exact heq.le
  · rintro ⟨m, p, hfault, hfirst⟩
    cases result with
    | ok v => exact (h m p e hfault).elim
    | error e' =>
        obtain ⟨m', hleast, p', hfault', hstage⟩ := h
        -- both are least, so they show at the same place and the same stage
        have hle := Prod.Lex.toLex_le_toLex.mp (hfirst m' p' e' hfault')
        have hge := hleast m p e hfault
        obtain rfl : m = m' := by omega
        rcases hstage p e hfault with hlt | ⟨-, rfl⟩
        · omega
        · rfl

/-- An input has a value exactly when it has no fault, and an error exactly when this is the
error of the fault that shows first. -/
theorem evaluate_firstFault (s : String) :
    ((∃ v, evaluate s = .ok v) ↔ ∀ m p e, ¬ Fault (TokenStream.ofString s) m p e) ∧
    ∀ e, evaluate s = .error e ↔ FirstFault (TokenStream.ofString s) e := by
  have h := answers_evaluate s
  refine ⟨⟨?_, fun hnone => ?_⟩, h.eq_error_iff⟩
  · rintro ⟨v, hv⟩
    rwa [hv] at h
  · cases hresult : evaluate s with
    | ok v => exact ⟨v, rfl⟩
    | error e =>
        rw [hresult] at h
        obtain ⟨m, -, p, hfault, -⟩ := h
        exact (hnone m p e hfault).elim

end Calculator
