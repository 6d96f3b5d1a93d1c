import Calculator.Proofs.Evaluation.Trees
import Mathlib.Data.List.Forall2

/-!
# Places do not matter

The offset of a token goes into errors and into nothing else. So tokens that differ only in their
places evaluate to the same value, or to the same error at the corresponding places. Which places
correspond is a relation between offsets, kept as a parameter throughout.
-/

namespace Calculator

variable {R : Nat → Nat → Prop}

/-! ## The same thing at another place -/

structure Token.Moved (R : Nat → Nat → Prop) (t u : Token) : Prop where
  kind : t.kind = u.kind
  text : t.text = u.text
  offset : R t.offset u.offset

inductive StreamEnd.Moved (R : Nat → Nat → Prop) : StreamEnd → StreamEnd → Prop where
  | endOfInput {p q : Nat} (h : R p q) : Moved R (.endOfInput p) (.endOfInput q)
  | badCharacter {ch : Char} {p q : Nat} (h : R p q) :
      Moved R (.badCharacter ch p) (.badCharacter ch q)

/-- Same cause and same contents, at corresponding places. -/
inductive EvalError.Moved (R : Nat → Nat → Prop) : EvalError → EvalError → Prop where
  | badCharacter {ch : Char} {p q : Nat} (h : R p q) :
      Moved R (.badCharacter ch p) (.badCharacter ch q)
  | numberTooLarge {literal : String} : Moved R (.numberTooLarge literal) (.numberTooLarge literal)
  | unexpectedToken {expected : List TokenKind} {found : String} {p q : Nat} (h : R p q) :
      Moved R (.unexpectedToken expected found p) (.unexpectedToken expected found q)
  | unclosedParen {found : String} {p q : Nat} (h : R p q) :
      Moved R (.unclosedParen p found) (.unclosedParen q found)
  | trailingInput {found : String} {p q : Nat} (h : R p q) :
      Moved R (.trailingInput found p) (.trailingInput found q)
  | divisionByZero : Moved R .divisionByZero .divisionByZero

structure Level.Moved (R : Nat → Nat → Prop) (a b : Level) : Prop where
  openOffset : R a.openOffset b.openOffset
  outside : a.outside = b.outside

structure Context.Moved (R : Nat → Nat → Prop) (a b : Context) : Prop where
  waiting : a.waiting = b.waiting
  levels : List.Forall₂ (Level.Moved R) a.levels b.levels

inductive EvalState.Moved (R : Nat → Nat → Prop) : EvalState → EvalState → Prop where
  | operand {a b : Context} (h : a.Moved R b) : Moved R (.operand a) (.operand b)
  | operator {a b : Context} {y : Binary64} (h : a.Moved R b) :
      Moved R (.operator a y) (.operator b y)

structure TokenStream.Moved (R : Nat → Nat → Prop) (S T : TokenStream) : Prop where
  tokens : List.Forall₂ (Token.Moved R) S.tokens T.tokens
  ending : S.ending.Moved R T.ending

/-! ## Agreement of two computations -/

/-- Both come to related results, or both to the same error at corresponding places. -/
inductive Agree {α β : Type} (A : α → β → Prop) (R : Nat → Nat → Prop) :
    Except EvalError α → Except EvalError β → Prop where
  | ok {a : α} {b : β} (h : A a b) : Agree A R (.ok a) (.ok b)
  | error {e e' : EvalError} (h : e.Moved R e') : Agree A R (.error e) (.error e')

/-- The same value, or the same error at corresponding places. -/
abbrev SameOutcome (R : Nat → Nat → Prop) :
    Except EvalError Binary64 → Except EvalError Binary64 → Prop := Agree Eq R

namespace Agree

variable {α β γ δ : Type} {A : α → β → Prop} {C : γ → δ → Prop}

theorem bind {x : Except EvalError α} {y : Except EvalError β} {f : α → Except EvalError γ}
    {g : β → Except EvalError δ} (h : Agree A R x y) (hfg : ∀ a b, A a b → Agree C R (f a) (g b)) :
    Agree C R (x >>= f) (y >>= g) := by
  cases h with
  | ok h => exact hfg _ _ h
  | error h => exact .error h

/-- A computation without places in it agrees with itself. -/
theorem bind_same {x : Except EvalError α} {f : α → Except EvalError γ}
    {g : α → Except EvalError δ} (hx : ∀ e, x = .error e → e.Moved R e)
    (hfg : ∀ a, Agree C R (f a) (g a)) : Agree C R (x >>= f) (x >>= g) := by
  cases x with
  | ok a => exact hfg a
  | error e => exact .error (hx e rfl)

theorem eq_ok_iff {x y : Except EvalError α} (h : Agree Eq R x y) {a : α} :
    x = .ok a ↔ y = .ok a := by
  cases h with
  | ok h => rw [h]
  | error _ => exact ⟨nofun, nofun⟩

end Agree

/-! ## One token -/

theorem Token.Moved.description {t u : Token} (h : t.Moved R u) :
    t.description = u.description := by
  rw [Token.description, Token.description, h.kind, h.text]

/-- Nothing but a zero divisor can be wrong with a waiting product. -/
theorem Waiting.eq_divisionByZero {w : Waiting} {y : Binary64} {e : EvalError}
    (h : w.product? y = .error e) : e = .divisionByZero := by
  obtain ⟨sum, product⟩ := w
  cases product with
  | none => cases h
  | some p =>
      obtain ⟨x, op⟩ := p
      cases op with
      | mul => cases h
      | div =>
          simp only [product?, ProductOp.apply] at h
          split at h
          · cases h
            rfl
          · cases h

namespace EvalState

variable {a b : Context} {t u : Token}

theorem agree_misplaced (h : a.Moved R b) (ht : t.Moved R u) :
    (misplaced a t).Moved R (misplaced b u) := by
  obtain ⟨waiting, levels⟩ := a
  obtain ⟨waiting', levels'⟩ := b
  rw [misplaced, misplaced, ht.description]
  cases h.levels with
  | nil => exact .trailingInput ht.offset
  | cons hlevel _ => exact .unclosedParen hlevel.openOffset

theorem agree_afterOperandToken (h : a.Moved R b) (ht : t.Moved R u) :
    Agree (EvalState.Moved R) R (afterOperandToken a t) (afterOperandToken b u) := by
  have hrefused : Agree (EvalState.Moved R) R
      (.error (.unexpectedToken operandStart t.description t.offset))
      (.error (.unexpectedToken operandStart u.description u.offset)) := by
    rw [ht.description]
    exact .error (.unexpectedToken ht.offset)
  rw [afterOperandToken, afterOperandToken, ← ht.kind, ← ht.text]
  cases t.kind with
  | number =>
      simp only [literalValue]
      split
      · exact .ok (.operator h)
      · exact .error .numberTooLarge
  | leftParen => exact .ok (.operand ⟨rfl, .cons ⟨ht.offset, h.waiting⟩ h.levels⟩)
  | _ => exact hrefused

theorem agree_afterOperatorToken (h : a.Moved R b) (ht : t.Moved R u) (x : Binary64) :
    Agree (EvalState.Moved R) R (afterOperatorToken a x t) (afterOperatorToken b x u) := by
  have hmisplaced := agree_misplaced h ht
  obtain ⟨waiting, levels⟩ := a
  obtain ⟨waiting', levels'⟩ := b
  obtain ⟨hwaiting, hlevels⟩ := h
  dsimp only at hwaiting hlevels
  subst hwaiting
  rw [afterOperatorToken, afterOperatorToken, ← ht.kind]
  cases t.kind with
  | multiply => exact .ok (.operand ⟨rfl, hlevels⟩)
  | divide => exact .ok (.operand ⟨rfl, hlevels⟩)
  | plus => exact .ok (.operand ⟨rfl, hlevels⟩)
  | minus => exact .ok (.operand ⟨rfl, hlevels⟩)
  | rightParen =>
      cases hlevels with
      | nil => exact .error hmisplaced
      | cons hlevel hlevels => exact .ok (.operator ⟨hlevel.outside, hlevels⟩)
  | _ => exact .error hmisplaced

variable {st st' : EvalState}

/-- What a token does to a state depends on no place. -/
theorem agree_step (h : st.Moved R st') (ht : t.Moved R u) :
    Agree (EvalState.Moved R) R (st.step t) (st'.step u) := by
  cases h with
  | operand h => exact agree_afterOperandToken h ht
  | @operator a b y h =>
      rw [step, step, ← h.waiting]
      apply Agree.bind_same
      · intro e he
        rw [Waiting.eq_divisionByZero he]
        exact .divisionByZero
      · intro x
        exact agree_afterOperatorToken h ht x

theorem agree_finish (h : st.Moved R st') {p q : Nat} (hpq : R p q) :
    SameOutcome R (st.finish p) (st'.finish q) := by
  cases h with
  | operand h => exact .error (.unexpectedToken hpq)
  | @operator a b y h =>
      have hend : (Token.endOfInput p).Moved R (Token.endOfInput q) := ⟨rfl, rfl, hpq⟩
      have hmisplaced := agree_misplaced h hend
      obtain ⟨waiting, levels⟩ := a
      obtain ⟨waiting', levels'⟩ := b
      obtain ⟨hwaiting, hlevels⟩ := h
      dsimp only at hwaiting hlevels
      subst hwaiting
      rw [finish, finish]
      apply Agree.bind_same
      · intro e he
        rw [Waiting.eq_divisionByZero he]
        exact .divisionByZero
      · intro x
        cases hlevels with
        | nil => exact .ok rfl
        | cons _ _ => exact .error hmisplaced

/-! ## All tokens -/

theorem agree_foldlM_step {ts us : List Token} (h : st.Moved R st')
    (hts : List.Forall₂ (Token.Moved R) ts us) :
    Agree (EvalState.Moved R) R (ts.foldlM step st) (us.foldlM step st') := by
  induction hts generalizing st st' with
  | nil => exact .ok h
  | cons ht _ ih =>
      rw [List.foldlM_cons, List.foldlM_cons]
      apply Agree.bind (agree_step h ht)
      intro next next' hnext
      exact ih hnext

theorem agree_answer (h : st.Moved R st') {e e' : StreamEnd} (he : e.Moved R e') :
    SameOutcome R (e.answer st) (e'.answer st') := by
  cases he with
  | endOfInput hpq => exact agree_finish h hpq
  | badCharacter hpq => exact .error (.badCharacter hpq)

theorem moved_initial : EvalState.initial.Moved R .initial := .operand ⟨rfl, .nil⟩

end EvalState

/-- Inputs with the same tokens up to places have the same value, or the same error up to
places. -/
theorem sameOutcome_of_moved {s s' : String}
    (h : (TokenStream.ofString s).Moved R (TokenStream.ofString s')) :
    SameOutcome R (evaluate s) (evaluate s') := by
  rw [evaluate_eq, evaluate_eq]
  apply Agree.bind (EvalState.agree_foldlM_step EvalState.moved_initial h.tokens)
  intro st st' hst
  exact EvalState.agree_answer hst h.ending

theorem exists_tokenize_iff {s : String} :
    (∃ ts, tokenize s = .ok ts) ↔ ∃ offset, (TokenStream.ofString s).ending = .endOfInput offset := by
  constructor
  · rintro ⟨ts, hts⟩
    obtain ⟨offset, hstream⟩ := tokenize_eq_ok_iff.mp hts
    exact ⟨offset, by rw [hstream]⟩
  · rintro ⟨offset, hend⟩
    exact ⟨_, tokenize_eq_ok_iff.mpr ⟨offset, by rw [← hend]⟩⟩

theorem exists_tokenize_iff_of_moved {s s' : String}
    (h : (TokenStream.ofString s).Moved R (TokenStream.ofString s')) :
    (∃ ts, tokenize s = .ok ts) ↔ ∃ ts, tokenize s' = .ok ts := by
  rw [exists_tokenize_iff, exists_tokenize_iff]
  have hending := h.ending
  generalize (TokenStream.ofString s).ending = e at hending
  generalize (TokenStream.ofString s').ending = e' at hending
  cases hending with
  | endOfInput _ => exact iff_of_true ⟨_, rfl⟩ ⟨_, rfl⟩
  | badCharacter _ => exact iff_of_false nofun nofun

end Calculator
