import Calculator.Evaluation
import Calculator.Proofs.Grammar.PartialTree
import Calculator.Proofs.Grammar.Value

/-!
# Evaluation follows the partial tree

The state between two tokens is the value of the partial tree that these tokens are read as: each
tree in it replaced by what it evaluates to, from left to right. One token more does to the state
what it does to the partial tree, and a token that the partial tree does not take is an error.
-/

namespace Calculator

theorem pure_eq_ok {ε α : Type} (a : α) : (pure a : Except ε α) = .ok a := rfl

theorem ok_bind {ε α β : Type} (a : α) (f : α → Except ε β) : (.ok a >>= f) = f a := rfl

theorem bind_ok {ε α : Type} (x : Except ε α) : (x >>= fun a => .ok a) = x := bind_pure x

theorem map_eq_bind {ε α β : Type} (f : α → β) (x : Except ε α) :
    x.map f = x >>= fun a => .ok (f a) := by
  cases x <;> rfl

namespace Grammar

/-- A tree that waits for a right operand, by its value. -/
def waitingValue {α β : Type} (value : α → Except EvalError Binary64) :
    Option (α × β) → Except EvalError (Option (Binary64 × β))
  | none => .ok none
  | some (a, op) => do
    let x ← value a
    return some (x, op)

@[simp] theorem waitingValue_none {α β : Type} (value : α → Except EvalError Binary64) :
    (waitingValue value none : Except EvalError (Option (Binary64 × β))) = .ok none := rfl

@[simp] theorem waitingValue_some {α β : Type} (value : α → Except EvalError Binary64) (a : α)
    (op : β) : waitingValue value (some (a, op)) = (do
      let x ← value a
      return some (x, op)) := rfl

def PartialLevel.waiting (w : PartialLevel) : Except EvalError Waiting := do
  let sum ← waitingValue Expr.value w.sum
  let product ← waitingValue Term.value w.product
  return ⟨sum, product⟩

@[simp] theorem PartialLevel.waiting_empty : PartialLevel.empty.waiting = .ok .empty := rfl

/-- The levels outside the open parentheses, from the outermost on. -/
def parenLevels : List OpenParen → Except EvalError (List Level)
  | [] => .ok []
  | p :: ps => do
    let levels ← parenLevels ps
    let outside ← p.outside.waiting
    return ⟨p.offset, outside⟩ :: levels

/-- The state that the trees of a partial tree evaluate to. -/
def PartialTree.state : PartialTree → Except EvalError EvalState
  | .operand w ps => do
    let levels ← parenLevels ps
    let waiting ← w.waiting
    return .operand ⟨waiting, levels⟩
  | .operator w ps f => do
    let levels ← parenLevels ps
    let waiting ← w.waiting
    let y ← f.value
    return .operator ⟨waiting, levels⟩ y

@[simp] theorem state_initial : PartialTree.initial.state = .ok .initial := rfl

theorem PartialLevel.value_term (w : PartialLevel) (f : Factor) :
    (w.term f).value = (do
      let product ← waitingValue Term.value w.product
      let y ← f.value
      Waiting.product? ⟨none, product⟩ y) := by
  obtain ⟨sum, product⟩ := w
  cases product with
  | none => simp only [term, waitingValue_none, ok_bind, Waiting.product?, bind_ok, Term.value]
  | some p =>
      obtain ⟨t, op⟩ := p
      simp only [term, waitingValue_some, bind_assoc, pure_bind, Waiting.product?, Term.value]

theorem PartialLevel.value_expr (w : PartialLevel) (f : Factor) :
    (w.expr f).value = (do
      let sum ← waitingValue Expr.value w.sum
      let x ← (w.term f).value
      return Waiting.sumWith ⟨sum, none⟩ x) := by
  obtain ⟨sum, product⟩ := w
  cases sum with
  | none => simp only [expr, waitingValue_none, ok_bind, Waiting.sumWith, bind_pure, Expr.value]
  | some p =>
      obtain ⟨e, op⟩ := p
      simp only [expr, waitingValue_some, bind_assoc, pure_bind, Waiting.sumWith, Expr.value]

namespace PartialTree

/-- A token does to the state what it does to the partial tree. -/
theorem state_of_grows {a b : PartialTree} {t : Token} (h : Grows a t b) :
    b.state = a.state >>= fun st => st.step t := by
  -- both sides evaluate the same trees in the same order
  cases h with
  | number hk =>
      simp only [state, bind_assoc, EvalState.step, EvalState.afterOperandToken, hk,
        Factor.value, map_eq_bind, pure_eq_ok, ok_bind]
  | openParen hk =>
      simp only [state, parenLevels, bind_assoc, EvalState.step,
        EvalState.afterOperandToken, hk, PartialLevel.waiting_empty, pure_eq_ok, ok_bind]
  | sum op hk =>
      simp only [state, bind_assoc, EvalState.step, PartialLevel.waiting, waitingValue_none,
        waitingValue_some, PartialLevel.value_expr, PartialLevel.value_term, pure_eq_ok, ok_bind]
      cases op <;>
        simp only [EvalState.afterOperatorToken, hk, SumOp.lexeme, Waiting.product?,
          Waiting.sumWith]
  | product op hk =>
      simp only [state, bind_assoc, EvalState.step, PartialLevel.waiting, waitingValue_some,
        PartialLevel.value_term, pure_eq_ok, ok_bind]
      cases op <;>
        simp only [EvalState.afterOperatorToken, hk, ProductOp.lexeme, Waiting.product?]
  | closeParen hk =>
      simp only [state, parenLevels, bind_assoc, EvalState.step, Factor.value,
        PartialLevel.waiting, PartialLevel.value_expr, PartialLevel.value_term,
        EvalState.afterOperatorToken, hk, pure_eq_ok, ok_bind, Waiting.product?,
        Waiting.sumWith]

theorem state_of_run {a b : PartialTree} {ts : List Token} (h : a.run ts = some b) :
    b.state = a.state >>= fun st => ts.foldlM EvalState.step st := by
  induction ts generalizing a with
  | nil =>
      rw [Option.some.inj h]
      exact (bind_ok b.state).symm
  | cons t ts ih =>
      obtain ⟨c, hc, hrun⟩ := Option.bind_eq_some_iff.mp h
      rw [ih hrun, state_of_grows (step_eq_some_iff.mp hc), bind_assoc]
      simp only [List.foldlM_cons]

theorem finish_of_state (w : PartialLevel) (f : Factor) (offset : Nat) :
    ((operator w [] f).state >>= fun st => st.finish offset) = (w.expr f).value := by
  simp only [state, parenLevels, bind_assoc, EvalState.finish, PartialLevel.waiting,
    PartialLevel.value_expr, PartialLevel.value_term, pure_eq_ok, ok_bind, Waiting.product?,
    Waiting.sumWith]

inductive HasState : PartialTree → EvalState → Prop where
  | operand {w : PartialLevel} {ps : List OpenParen} {waiting : Waiting} {levels : List Level}
      (hps : parenLevels ps = .ok levels) (hw : w.waiting = .ok waiting) :
      HasState (.operand w ps) (.operand ⟨waiting, levels⟩)
  | operator {w : PartialLevel} {ps : List OpenParen} {f : Factor} {waiting : Waiting}
      {levels : List Level} {y : Binary64} (hps : parenLevels ps = .ok levels)
      (hw : w.waiting = .ok waiting) (hf : f.value = .ok y) :
      HasState (.operator w ps f) (.operator ⟨waiting, levels⟩ y)

theorem hasState_of_state {a : PartialTree} {st : EvalState} (h : a.state = .ok st) :
    HasState a st := by
  cases a with
  | operand w ps =>
      simp only [state, bind_eq_ok_iff] at h
      obtain ⟨levels, hps, waiting, hw, hst⟩ := h
      cases hst
      exact .operand hps hw
  | operator w ps f =>
      simp only [state, bind_eq_ok_iff] at h
      obtain ⟨levels, hps, waiting, hw, y, hf, hst⟩ := h
      cases hst
      exact .operator hps hw hf

/-! ## What becomes of a token -/

/-- The operand just completed divides, and is zero. -/
inductive EndsInZeroDivisor : PartialTree → Prop where
  | mk {w : PartialLevel} {ps : List OpenParen} {f : Factor} {t : Term} {y : Binary64}
      (hw : w.product = some (t, .div)) (hf : f.HasValue y) (hy : y.isZero = true) :
      EndsInZeroDivisor (.operator w ps f)

theorem product_cases {w : PartialLevel} (ps : List OpenParen) {f : Factor} {waiting : Waiting}
    {y : Binary64} (hw : w.waiting = .ok waiting) (hf : f.value = .ok y) :
    (∃ x, waiting.product? y = .ok x ∧ ¬ EndsInZeroDivisor (.operator w ps f)) ∨
      waiting.product? y = .error .divisionByZero ∧ EndsInZeroDivisor (.operator w ps f) := by
  simp only [PartialLevel.waiting, bind_eq_ok_iff] at hw
  obtain ⟨sum, -, product, hproduct, hwaiting⟩ := hw
  cases hwaiting
  cases hp : w.product with
  | none =>
      rw [hp] at hproduct
      cases hproduct
      refine .inl ⟨y, rfl, ?_⟩
      rintro ⟨hdiv, -, -⟩
      rw [hp] at hdiv
      cases hdiv
  | some p =>
      obtain ⟨t, op⟩ := p
      rw [hp, waitingValue_some, bind_eq_ok_iff] at hproduct
      obtain ⟨x, -, hx⟩ := hproduct
      cases hx
      cases op with
      | mul =>
          refine .inl ⟨x * y, rfl, ?_⟩
          rintro ⟨hdiv, -, -⟩
          rw [hp] at hdiv
          cases hdiv
      | div =>
          by_cases hy : y.isZero = true
          · refine .inr ⟨?_, .mk hp (f.value_eq_ok_iff.mp hf) hy⟩
            simp only [Waiting.product?, ProductOp.apply, hy, ↓reduceIte]
          · refine .inl ⟨x / y, ?_, ?_⟩
            · simp only [Waiting.product?, ProductOp.apply, hy, ↓reduceIte, Bool.false_eq_true]
            · rintro ⟨-, hf', hy'⟩
              rw [← f.value_eq_ok_iff, hf] at hf'
              cases hf'
              exact hy hy'

/-- The error for a token that a partial tree does not take. -/
def refusal : PartialTree → Token → EvalError
  | .operand _ _, t => .unexpectedToken EvalState.operandStart t.description t.offset
  | .operator _ [] _, t => .trailingInput t.description t.offset
  | .operator _ (p :: _) _, t => .unclosedParen p.offset t.description

theorem levels_of_cons {p : OpenParen} {ps : List OpenParen} {levels : List Level}
    (h : parenLevels (p :: ps) = .ok levels) :
    ∃ outside outer, levels = ⟨p.offset, outside⟩ :: outer := by
  simp only [parenLevels, bind_eq_ok_iff] at h
  obtain ⟨outer, -, outside, -, hlevels⟩ := h
  exact ⟨outside, outer, (Except.ok.inj hlevels).symm⟩

theorem misplaced_eq_refusal {w : PartialLevel} {ps : List OpenParen} {f : Factor}
    {waiting : Waiting} {levels : List Level} (h : parenLevels ps = .ok levels) (t : Token) :
    EvalState.misplaced ⟨waiting, levels⟩ t = refusal (.operator w ps f) t := by
  cases ps with
  | nil =>
      cases h
      rfl
  | cons p ps =>
      obtain ⟨outside, outer, rfl⟩ := levels_of_cons h
      rfl

theorem afterOperandToken_of_none {w : PartialLevel} {ps : List OpenParen} {t : Token}
    (hb : (operand w ps).step t = none) (ctx : Context) :
    EvalState.afterOperandToken ctx t = .error (refusal (.operand w ps) t) := by
  cases hk : t.kind with
  | number => simp [step, hk] at hb
  | leftParen => simp [step, hk] at hb
  | _ => simp only [EvalState.afterOperandToken, hk, refusal]

theorem afterOperatorToken_of_none {w : PartialLevel} {ps : List OpenParen} {f : Factor}
    {waiting : Waiting} {levels : List Level} (h : parenLevels ps = .ok levels) {t : Token}
    (hb : (operator w ps f).step t = none) (x : Binary64) :
    EvalState.afterOperatorToken ⟨waiting, levels⟩ x t =
      .error (refusal (.operator w ps f) t) := by
  have hrefusal : EvalState.misplaced ⟨waiting, levels⟩ t = refusal (.operator w ps f) t :=
    misplaced_eq_refusal h t
  rw [← hrefusal]
  cases hk : t.kind with
  | rightParen =>
      cases ps with
      | nil =>
          cases h
          simp only [EvalState.afterOperatorToken, hk]
      | cons p ps => simp [step, hk] at hb
  | number => simp only [EvalState.afterOperatorToken, hk]
  | leftParen => simp only [EvalState.afterOperatorToken, hk]
  | endOfInput => simp only [EvalState.afterOperatorToken, hk]
  | _ => simp [step, hk] at hb

theorem afterOperatorToken_of_grows {w : PartialLevel} {ps : List OpenParen} {f : Factor}
    {waiting : Waiting} {levels : List Level} (h : parenLevels ps = .ok levels) {b : PartialTree}
    {t : Token} (hb : Grows (.operator w ps f) t b) (x : Binary64) :
    t.kind ≠ .number ∧ ∃ st, EvalState.afterOperatorToken ⟨waiting, levels⟩ x t = .ok st := by
  cases hb with
  | sum op hk =>
      cases op <;> simp only [SumOp.lexeme] at hk <;>
        simp [EvalState.afterOperatorToken, hk]
  | product op hk =>
      cases op <;> simp only [ProductOp.lexeme] at hk <;>
        simp [EvalState.afterOperatorToken, hk]
  | closeParen hk =>
      obtain ⟨outside, outer, rfl⟩ := levels_of_cons h
      simp [EvalState.afterOperatorToken, hk]

/-- How a token is received, in the order in which it is checked. -/
inductive Verdict (a : PartialTree) (t : Token) : Except EvalError EvalState → Prop where
  | zeroDivisor (hz : a.EndsInZeroDivisor) : Verdict a t (.error .divisionByZero)
  | refused (hz : ¬ a.EndsInZeroDivisor) (hn : a.step t = none) :
      Verdict a t (.error (a.refusal t))
  | tooLarge {b : PartialTree} (hz : ¬ a.EndsInZeroDivisor) (hb : a.step t = some b)
      (hk : t.kind = .number)
      (hx : (Binary64.ofNat (digitsValue t.text.toList)).isFinite = false) :
      Verdict a t (.error (.numberTooLarge t.text))
  | taken {b : PartialTree} {st : EvalState} (hz : ¬ a.EndsInZeroDivisor)
      (hb : a.step t = some b)
      (hx : t.kind = .number → (Binary64.ofNat (digitsValue t.text.toList)).isFinite = true)
      (hst : b.state = .ok st) : Verdict a t (.ok st)

theorem step_verdict {a : PartialTree} {st : EvalState} (h : a.state = .ok st) (t : Token) :
    Verdict a t (st.step t) := by
  have hstate : ∀ b, a.step t = some b → b.state = st.step t := fun b hb => by
    rw [state_of_grows (step_eq_some_iff.mp hb), h, ok_bind]
  cases hasState_of_state h with
  | @operand w ps waiting levels hps hw =>
      have hz : ¬ EndsInZeroDivisor (.operand w ps) := nofun
      cases hb : (operand w ps).step t with
      | none =>
          rw [EvalState.step, afterOperandToken_of_none hb]
          exact .refused hz hb
      | some b =>
          have hst := hstate b hb
          simp only [EvalState.step, EvalState.afterOperandToken] at hst ⊢
          cases step_eq_some_iff.mp hb with
          | number hk =>
              simp only [hk, literalValue] at hst ⊢
              split
              · next hx =>
                rw [if_pos hx] at hst
                exact .taken hz hb (fun _ => hx) hst
              · next hx => exact .tooLarge hz hb hk (by simpa using hx)
          | openParen hk =>
              simp only [hk] at hst ⊢
              exact .taken hz hb (by simp [hk]) hst
  | @operator w ps f waiting levels y hps hw hf =>
      rcases product_cases ps hw hf with ⟨x, hx, hz⟩ | ⟨hx, hz⟩
      · cases hb : (operator w ps f).step t with
        | none =>
            rw [EvalState.step, hx, ok_bind, afterOperatorToken_of_none hps hb]
            exact .refused hz hb
        | some b =>
            have hst := hstate b hb
            rw [EvalState.step, hx, ok_bind] at hst ⊢
            obtain ⟨hk, st, hafter⟩ := afterOperatorToken_of_grows hps (step_eq_some_iff.mp hb) x
            rw [hafter] at hst ⊢
            exact .taken hz hb (fun hnum => (hk hnum).elim) hst
      · rw [EvalState.step, hx]
        exact .zeroDivisor hz

inductive FinalVerdict (a : PartialTree) (offset : Nat) : Except EvalError Binary64 → Prop where
  | zeroDivisor (hz : a.EndsInZeroDivisor) : FinalVerdict a offset (.error .divisionByZero)
  | refused (hz : ¬ a.EndsInZeroDivisor) (ha : ∀ w f, a ≠ .operator w [] f) :
      FinalVerdict a offset (.error (a.refusal (.endOfInput offset)))
  | complete {w : PartialLevel} {f : Factor} {v : Binary64} (hz : ¬ a.EndsInZeroDivisor)
      (ha : a = .operator w [] f) (hv : (w.expr f).value = .ok v) : FinalVerdict a offset (.ok v)

theorem finish_verdict {a : PartialTree} {st : EvalState} (h : a.state = .ok st) (offset : Nat) :
    FinalVerdict a offset (st.finish offset) := by
  cases hasState_of_state h with
  | operand hps hw => exact .refused nofun nofun
  | @operator w ps f waiting levels y hps hw hf =>
      rcases product_cases ps hw hf with ⟨x, hx, hz⟩ | ⟨hx, hz⟩
      · cases ps with
        | nil =>
            have hfinish := finish_of_state w f offset
            rw [h, ok_bind] at hfinish
            cases hps
            rw [EvalState.finish, hx] at hfinish ⊢
            exact .complete hz rfl hfinish.symm
        | cons p ps =>
            obtain ⟨outside, outer, rfl⟩ := levels_of_cons hps
            rw [EvalState.finish, hx]
            exact .refused hz nofun
      · rw [EvalState.finish, hx]
        exact .zeroDivisor hz

end PartialTree

end Grammar

end Calculator
