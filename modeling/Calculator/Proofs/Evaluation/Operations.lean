import Calculator.Proofs.Binary64.Overflow
import Calculator.Proofs.Evaluation.Literal

/-!
# The operations of an evaluation

An evaluation performs its operations from left to right. All numbers of an expression are finite
and no divisor is zero, so as long as every result is finite, so are all the operands. The first
result that is not is an infinity, because the exact result was too large.
-/

namespace Calculator

/-- An operation with its operands. -/
inductive Calculation where
  | sum (op : SumOp) (left right : Binary64)
  | product (op : ProductOp) (left right : Binary64)

namespace Calculation

def left : Calculation → Binary64
  | sum _ x _ => x
  | product _ x _ => x

def right : Calculation → Binary64
  | sum _ _ y => y
  | product _ _ y => y

def result : Calculation → Binary64
  | sum op x y => op.apply x y
  | product .mul x y => x * y
  | product .div x y => x / y

/-- The result on the numbers that the operands are, not rounded. -/
def exact : Calculation → ℚ
  | sum .add x y => x.toRat + y.toRat
  | sum .sub x y => x.toRat - y.toRat
  | product .mul x y => x.toRat * y.toRat
  | product .div x y => x.toRat / y.toRat

def DividesByZero : Calculation → Prop
  | product .div _ y => y.isZero = true
  | _ => False

/-- The operands are finite, but the exact result is from the overflow limit on, and the result is
the infinity with its sign. -/
structure Overflows (o : Calculation) : Prop where
  left : o.left.isFinite = true
  right : o.right.isFinite = true
  result : ∃ s, o.result = .infinite s ∧ overflowLimit ≤ signFactor s * o.exact

variable {o : Calculation}

/-- On finite operands the exact result is rounded, unless it is divided by zero. -/
theorem rounded (hl : o.left.isFinite = true) (hr : o.right.isFinite = true)
    (hz : ¬ o.DividesByZero) : Rounded o.exact o.result := by
  cases o with
  | sum op x y =>
      cases op with
      | add => exact Binary64.rounded_add hl hr
      | sub => exact Binary64.rounded_sub hl hr
  | product op x y =>
      cases op with
      | mul => exact Binary64.rounded_mul hl hr
      | div => exact Binary64.rounded_div hl hr (Bool.not_eq_true _ ▸ hz)

theorem isFinite_or_overflows (hl : o.left.isFinite = true) (hr : o.right.isFinite = true)
    (hz : ¬ o.DividesByZero) : o.result.isFinite = true ∨ o.Overflows := by
  have hrounded := rounded hl hr hz
  cases hresult : o.result with
  | finite s m => exact .inl rfl
  | infinite s =>
      rw [hresult] at hrounded
      cases hrounded with
      | infinite h => exact .inr ⟨hl, hr, s, hresult, h⟩
  | nan =>
      rw [hresult] at hrounded
      cases hrounded

end Calculation

/-! ## Recording the operations -/

/-- A computation that keeps a record of the operations it performs. -/
abbrev Recorded := StateT (List Calculation) (Except EvalError)

/-- Performs one operation. -/
def Calculation.perform (o : Calculation) : Recorded Binary64 := fun os => .ok (o.result, os ++ [o])

namespace Waiting

/-- The waiting product with its right operand. -/
def performProduct (w : Waiting) (y : Binary64) : Recorded Binary64 :=
  match w.product with
  | none => pure y
  | some (x, .mul) => Calculation.perform (.product .mul x y)
  | some (x, .div) =>
    if y.isZero then throw .divisionByZero else Calculation.perform (.product .div x y)

/-- The waiting sum with its right operand. -/
def performSum (w : Waiting) (y : Binary64) : Recorded Binary64 :=
  match w.sum with
  | none => pure y
  | some (x, op) => Calculation.perform (.sum op x y)

end Waiting

namespace EvalState

/-- One step, with a record of its operations: a product that waits, and the sum behind which no
product follows. -/
def record : EvalState → Token → Recorded EvalState
  | operand ctx, t => afterOperandToken ctx t
  | operator ctx y, t => do
    let x ← ctx.waiting.performProduct y
    if t.kind = .multiply ∨ t.kind = .divide then afterOperatorToken ctx x t
    else
      let z ← ctx.waiting.performSum x
      afterOperatorToken ⟨.empty, ctx.levels⟩ z t

/-- The value at the end of the input, with a record of its operations. -/
def recordFinish : EvalState → Nat → Recorded Binary64
  | operand ctx, offset => (operand ctx).finish offset
  | operator ctx y, offset => do
    let x ← ctx.waiting.performProduct y
    let z ← ctx.waiting.performSum x
    (operator ⟨.empty, ctx.levels⟩ z).finish offset

end EvalState

/-- The answer at the end of a stream, with a record of its operations. -/
def StreamEnd.recordAnswer : StreamEnd → EvalState → Recorded Binary64
  | .endOfInput offset, st => st.recordFinish offset
  | .badCharacter ch offset, _ => throw (.badCharacter ch offset)

/-- The value of an expression, with a record of the operations that come to it. -/
def recordEvaluation (s : String) : Recorded Binary64 := do
  let st ← (TokenStream.ofString s).tokens.foldlM EvalState.record .initial
  (TokenStream.ofString s).ending.recordAnswer st

/-! ## Forgetting the record -/

namespace Recorded

variable {α β : Type}

/-- Without the record the computation is this one. -/
def Erases (x : Recorded α) (y : Except EvalError α) : Prop := ∀ os, (x os).map Prod.fst = y

theorem bind_apply (x : Recorded α) (f : α → Recorded β) (os : List Calculation) :
    (x >>= f) os = x os >>= fun p => f p.1 p.2 := rfl

theorem lift_apply (y : Except EvalError α) (os : List Calculation) :
    (liftM y : Recorded α) os = y >>= fun a => .ok (a, os) := rfl

theorem erases_pure (a : α) : (pure a : Recorded α).Erases (.ok a) := fun _ => rfl

theorem erases_throw (e : EvalError) : (throw e : Recorded α).Erases (.error e) := fun _ => rfl

theorem erases_lift (y : Except EvalError α) : (liftM y : Recorded α).Erases y := by
  intro os
  rw [lift_apply]
  cases y <;> rfl

theorem Erases.bind {x : Recorded α} {y : Except EvalError α} {f : α → Recorded β}
    {g : α → Except EvalError β} (h : x.Erases y) (hf : ∀ a, (f a).Erases (g a)) :
    (x >>= f).Erases (y >>= g) := by
  intro os
  have hx := h os
  rw [bind_apply]
  cases hp : x os with
  | error e =>
      rw [hp] at hx
      rw [← hx]
      rfl
  | ok p =>
      rw [hp] at hx
      rw [← hx]
      exact hf p.1 p.2

theorem erases_foldlM {f : β → α → Recorded β} {g : β → α → Except EvalError β}
    (h : ∀ b a, (f b a).Erases (g b a)) (as : List α) (b : β) :
    (as.foldlM f b).Erases (as.foldlM g b) := by
  induction as generalizing b with
  | nil => exact erases_pure b
  | cons a as ih =>
      rw [List.foldlM_cons, List.foldlM_cons]
      exact (h b a).bind ih

theorem Erases.exists_eq_ok {x : Recorded α} {a : α} (h : x.Erases (.ok a))
    (os : List Calculation) : ∃ os', x os = .ok (a, os') := by
  have hx := h os
  cases hp : x os with
  | error e =>
      rw [hp] at hx
      cases hx
  | ok p =>
      rw [hp] at hx
      obtain rfl := Except.ok.inj hx
      exact ⟨p.2, rfl⟩

end Recorded

open Recorded

theorem Waiting.erases_performProduct (w : Waiting) (y : Binary64) :
    (w.performProduct y).Erases (w.product? y) := by
  rw [performProduct, product?]
  cases w.product with
  | none => exact erases_pure y
  | some p =>
      obtain ⟨x, op⟩ := p
      cases op with
      | mul => exact fun _ => rfl
      | div =>
          dsimp only [ProductOp.apply]
          split
          · exact erases_throw _
          · exact fun _ => rfl

theorem Waiting.erases_performSum (w : Waiting) (y : Binary64) :
    (w.performSum y).Erases (.ok (w.sumWith y)) := by
  rw [performSum, sumWith]
  cases w.sum with
  | none => exact erases_pure y
  | some p => exact fun _ => rfl

namespace EvalState

/-- Only a product that goes on leaves the sum waiting. -/
theorem afterOperatorToken_sumWith {t : Token} (ht : ¬ (t.kind = .multiply ∨ t.kind = .divide))
    (ctx : Context) (x : Binary64) :
    afterOperatorToken ⟨.empty, ctx.levels⟩ (ctx.waiting.sumWith x) t =
      afterOperatorToken ctx x t := by
  obtain ⟨waiting, levels⟩ := ctx
  cases hk : t.kind with
  | multiply => exact (ht (.inl hk)).elim
  | divide => exact (ht (.inr hk)).elim
  | rightParen => cases levels <;> simp only [afterOperatorToken, hk] <;> rfl
  | _ =>
      simp only [afterOperatorToken, hk]
      rfl

theorem erases_record (st : EvalState) (t : Token) : (st.record t).Erases (st.step t) := by
  cases st with
  | operand ctx => exact erases_lift _
  | operator ctx y =>
      refine (ctx.waiting.erases_performProduct y).bind fun x => ?_
      split
      · exact erases_lift _
      · next ht =>
        rw [← afterOperatorToken_sumWith ht]
        exact (ctx.waiting.erases_performSum x).bind fun z => erases_lift _

theorem erases_recordFinish (st : EvalState) (offset : Nat) :
    (st.recordFinish offset).Erases (st.finish offset) := by
  cases st with
  | operand ctx => exact erases_lift _
  | operator ctx y =>
      refine (ctx.waiting.erases_performProduct y).bind fun x => ?_
      exact (ctx.waiting.erases_performSum x).bind fun z => erases_lift _

end EvalState

theorem erases_recordEvaluation (s : String) : (recordEvaluation s).Erases (evaluate s) := by
  rw [evaluate_eq]
  refine (erases_foldlM EvalState.erases_record _ _).bind fun st => ?_
  cases (TokenStream.ofString s).ending with
  | endOfInput offset => exact st.erases_recordFinish offset
  | badCharacter ch offset => exact erases_throw _

/-! ## Finite results -/

def AllFinite (os : List Calculation) : Prop := ∀ o ∈ os, o.result.isFinite = true

theorem allFinite_concat {os : List Calculation} {o : Calculation} :
    AllFinite (os ++ [o]) ↔ AllFinite os ∧ o.result.isFinite = true := by
  simp only [AllFinite, List.forall_mem_append, List.forall_mem_singleton]

/-- Nothing is divided by zero, and the operands are finite behind finite results. -/
structure Lawful (os : List Calculation) : Prop where
  divisor : ∀ o ∈ os, ¬ o.DividesByZero
  operands : ∀ before o after, os = before ++ o :: after → AllFinite before →
    o.left.isFinite = true ∧ o.right.isFinite = true

theorem Lawful.nil : Lawful [] := by
  refine ⟨nofun, fun before o after h => ?_⟩
  cases before <;> cases h

theorem Lawful.concat {os : List Calculation} {o : Calculation} (h : Lawful os)
    (hz : ¬ o.DividesByZero)
    (ho : AllFinite os → o.left.isFinite = true ∧ o.right.isFinite = true) :
    Lawful (os ++ [o]) := by
  refine ⟨List.forall_mem_append.mpr ⟨h.divisor, List.forall_mem_singleton.mpr hz⟩, ?_⟩
  intro before p after hsplit
  rcases List.eq_nil_or_concat after with rfl | ⟨init, q, rfl⟩
  · obtain ⟨rfl, hp⟩ := List.append_inj' hsplit rfl
    obtain rfl := List.head_eq_of_cons_eq hp
    exact ho
  · rw [List.concat_eq_append, ← List.cons_append, ← List.append_assoc] at hsplit
    exact h.operands before p init (List.append_inj' hsplit rfl).1

/-- The record is lawful, and if all its results are finite, `p` holds. -/
structure Clean (os : List Calculation) (p : Prop) : Prop where
  lawful : Lawful os
  finite : AllFinite os → p

/-- From a clean record the computation comes to a clean record. -/
def Recorded.Keeps {α : Type} (x : Recorded α) (p : Prop) (q : α → Prop) : Prop :=
  ∀ os a os', Clean os p → x os = .ok (a, os') → Clean os' (q a)

namespace Recorded

variable {α β : Type} {p : Prop} {q : α → Prop} {r : β → Prop}

theorem keeps_pure {a : α} (h : p → q a) : (pure a : Recorded α).Keeps p q := by
  rintro os _ _ hclean ⟨⟩
  exact ⟨hclean.lawful, fun hos => h (hclean.finite hos)⟩

theorem keeps_throw (e : EvalError) : (throw e : Recorded α).Keeps p q := by
  rintro os a os' - ⟨⟩

theorem keeps_lift {y : Except EvalError α} (h : ∀ a, y = .ok a → p → q a) :
    (liftM y : Recorded α).Keeps p q := by
  intro os a os' hclean hrun
  rw [lift_apply] at hrun
  cases y with
  | error e => cases hrun
  | ok b =>
      cases hrun
      exact ⟨hclean.lawful, fun hos => h _ rfl (hclean.finite hos)⟩

theorem Keeps.bind {x : Recorded α} {f : α → Recorded β} (h : x.Keeps p q)
    (hf : ∀ a, (f a).Keeps (q a) r) : (x >>= f).Keeps p r := by
  intro os b os' hclean hrun
  rw [bind_apply, bind_eq_ok_iff] at hrun
  obtain ⟨a, hx, hrun⟩ := hrun
  exact hf a.1 a.2 b os' (h os a.1 a.2 hclean hx) hrun

theorem keeps_foldlM {f : β → α → Recorded β} (h : ∀ b a, (f b a).Keeps (r b) r) (as : List α)
    (b : β) : (as.foldlM f b).Keeps (r b) r := by
  induction as generalizing b with
  | nil => exact keeps_pure id
  | cons a as ih =>
      rw [List.foldlM_cons]
      exact (h b a).bind ih

theorem keeps_perform {o : Calculation} (hz : ¬ o.DividesByZero)
    (h : p → o.left.isFinite = true ∧ o.right.isFinite = true) :
    o.perform.Keeps p fun x => p ∧ x.isFinite = true := by
  rintro os _ _ hclean ⟨⟩
  refine ⟨hclean.lawful.concat hz fun hos => h (hclean.finite hos), fun hall => ?_⟩
  obtain ⟨hos, ho⟩ := allFinite_concat.mp hall
  exact ⟨hclean.finite hos, ho⟩

end Recorded

/-- Every number that waits for a right operand is finite. -/
structure Waiting.IsFinite (w : Waiting) : Prop where
  sum : ∀ x ∈ w.sum, x.1.isFinite = true
  product : ∀ x ∈ w.product, x.1.isFinite = true

structure Context.IsFinite (ctx : Context) : Prop where
  waiting : ctx.waiting.IsFinite
  levels : ∀ level ∈ ctx.levels, level.outside.IsFinite

/-- Every number in the state is finite. -/
def EvalState.IsFinite : EvalState → Prop
  | operand ctx => ctx.IsFinite
  | operator ctx y => ctx.IsFinite ∧ y.isFinite = true

namespace Waiting

variable {w : Waiting} {y : Binary64} {p : Prop}

theorem isFinite_empty : empty.IsFinite := ⟨nofun, nofun⟩

theorem isFinite_of_mem_some {α : Type} {op : α} (h : y.isFinite = true) :
    ∀ x ∈ some (y, op), x.1.isFinite = true := by
  rintro _ ⟨⟩
  exact h

theorem keeps_performProduct (h : p → w.IsFinite ∧ y.isFinite = true) :
    (w.performProduct y).Keeps p fun x => p ∧ x.isFinite = true := by
  unfold performProduct
  split
  · exact keeps_pure fun hp => ⟨hp, (h hp).2⟩
  · next x hx => exact keeps_perform id fun hp => ⟨(h hp).1.product _ hx, (h hp).2⟩
  · next x hx =>
    split
    · exact keeps_throw _
    · next hy => exact keeps_perform hy fun hp => ⟨(h hp).1.product _ hx, (h hp).2⟩

theorem keeps_performSum (h : p → w.IsFinite ∧ y.isFinite = true) :
    (w.performSum y).Keeps p fun x => p ∧ x.isFinite = true := by
  unfold performSum
  split
  · exact keeps_pure fun hp => ⟨hp, (h hp).2⟩
  · next x op hx => exact keeps_perform id fun hp => ⟨(h hp).1.sum _ hx, (h hp).2⟩

end Waiting

namespace EvalState

variable {ctx : Context} {x : Binary64} {t : Token} {st : EvalState}

theorem isFinite_of_afterOperandToken (h : afterOperandToken ctx t = .ok st)
    (hctx : ctx.IsFinite) : st.IsFinite := by
  unfold afterOperandToken at h
  split at h
  · cases hx : literalValue t.text with
    | error e =>
        rw [hx] at h
        cases h
    | ok x =>
        rw [hx] at h
        cases h
        exact ⟨hctx, (Grammar.literalValue_eq_ok_iff.mp hx).2⟩
  · cases h
    exact ⟨Waiting.isFinite_empty, List.forall_mem_cons.mpr ⟨hctx.waiting, hctx.levels⟩⟩
  · cases h

theorem isFinite_of_afterOperatorToken (h : afterOperatorToken ctx x t = .ok st)
    (hctx : ctx.IsFinite) (hx : x.isFinite = true)
    (hsum : ¬ (t.kind = .multiply ∨ t.kind = .divide) →
      (ctx.waiting.sumWith x).isFinite = true) : st.IsFinite := by
  unfold afterOperatorToken at h
  split at h
  · cases h
    exact ⟨⟨hctx.waiting.sum, Waiting.isFinite_of_mem_some hx⟩, hctx.levels⟩
  · cases h
    exact ⟨⟨hctx.waiting.sum, Waiting.isFinite_of_mem_some hx⟩, hctx.levels⟩
  · next hk =>
    cases h
    exact ⟨⟨Waiting.isFinite_of_mem_some (hsum (by simp [hk])), nofun⟩, hctx.levels⟩
  · next hk =>
    cases h
    exact ⟨⟨Waiting.isFinite_of_mem_some (hsum (by simp [hk])), nofun⟩, hctx.levels⟩
  · next hk =>
    split at h
    · cases h
    · next level levels hlevels =>
      cases h
      have hall := hctx.levels
      rw [hlevels] at hall
      obtain ⟨hlevel, hrest⟩ := List.forall_mem_cons.mp hall
      exact ⟨⟨hlevel, hrest⟩, hsum (by simp [hk])⟩
  · cases h

theorem keeps_record (st : EvalState) (t : Token) :
    (st.record t).Keeps st.IsFinite EvalState.IsFinite := by
  cases st with
  | operand ctx => exact keeps_lift fun st => isFinite_of_afterOperandToken
  | operator ctx y =>
      refine (Waiting.keeps_performProduct fun h => ⟨h.1.waiting, h.2⟩).bind fun x => ?_
      split
      · next ht =>
        refine keeps_lift fun st h hfinite => ?_
        exact isFinite_of_afterOperatorToken h hfinite.1.1 hfinite.2 fun hnot => (hnot ht).elim
      · refine (Waiting.keeps_performSum fun h => ⟨h.1.1.waiting, h.2⟩).bind fun z => ?_
        refine keeps_lift fun st h hfinite => ?_
        have hctx : (Context.mk .empty ctx.levels).IsFinite :=
          ⟨Waiting.isFinite_empty, hfinite.1.1.1.levels⟩
        exact isFinite_of_afterOperatorToken h hctx hfinite.2 fun _ => hfinite.2

theorem keeps_recordFinish (st : EvalState) (offset : Nat) :
    (st.recordFinish offset).Keeps st.IsFinite fun v => v.isFinite = true := by
  cases st with
  | operand ctx => exact keeps_lift nofun
  | operator ctx y =>
      refine (Waiting.keeps_performProduct fun h => ⟨h.1.waiting, h.2⟩).bind fun x => ?_
      refine (Waiting.keeps_performSum fun h => ⟨h.1.1.waiting, h.2⟩).bind fun z => ?_
      refine keeps_lift fun v h hfinite => ?_
      obtain ⟨waiting, levels⟩ := ctx
      cases levels with
      | nil =>
          cases h
          exact hfinite.2
      | cons level levels => cases h

end EvalState

theorem keeps_recordEvaluation (s : String) :
    (recordEvaluation s).Keeps EvalState.initial.IsFinite fun v => v.isFinite = true := by
  refine (keeps_foldlM EvalState.keeps_record _ _).bind fun st => ?_
  cases (TokenStream.ofString s).ending with
  | endOfInput offset => exact st.keeps_recordFinish offset
  | badCharacter ch offset => exact keeps_throw _

/-! ## The first overflow -/

/-- All results are finite up to the first one that is too large. -/
structure FiniteUntilOverflow (os : List Calculation) (v : Binary64) : Prop where
  first : ∀ before o after, os = before ++ o :: after → AllFinite before →
    o.result.isFinite = false → o.Overflows
  ne_nan : ∀ o ∈ os, o.left.isFinite = true → o.right.isFinite = true → o.result ≠ .nan
  divisor : ∀ o ∈ os, ¬ o.DividesByZero
  value : v.isFinite = false →
    ∃ before o after, os = before ++ o :: after ∧ AllFinite before ∧ o.Overflows

theorem exists_first_of_not_allFinite {os : List Calculation} (h : ¬ AllFinite os) :
    ∃ before o after, os = before ++ o :: after ∧ AllFinite before ∧ o.result.isFinite = false := by
  induction os with
  | nil => exact (h nofun).elim
  | cons o os ih =>
      by_cases ho : o.result.isFinite = true
      · have hos : ¬ AllFinite os := fun hos => h (List.forall_mem_cons.mpr ⟨ho, hos⟩)
        obtain ⟨before, p, after, rfl, hbefore, hp⟩ := ih hos
        exact ⟨o :: before, p, after, rfl, List.forall_mem_cons.mpr ⟨ho, hbefore⟩, hp⟩
      · exact ⟨[], o, os, rfl, nofun, by simpa using ho⟩

theorem Lawful.overflows {os before after : List Calculation} {o : Calculation} (h : Lawful os)
    (hos : os = before ++ o :: after) (hbefore : AllFinite before)
    (ho : o.result.isFinite = false) : o.Overflows := by
  have hz : ¬ o.DividesByZero := h.divisor o (by simp [hos])
  obtain ⟨hl, hr⟩ := h.operands before o after hos hbefore
  refine (Calculation.isFinite_or_overflows hl hr hz).resolve_left ?_
  rw [ho]
  exact Bool.false_ne_true

/-- The operations of an expression that has a value have finite results up to the first overflow.
No other operation on finite operands leaves the finite numbers, and none divides by zero. -/
theorem evaluate_finiteUntilOverflow {s : String} {v : Binary64} (h : evaluate s = .ok v) :
    ∃ os, recordEvaluation s [] = .ok (v, os) ∧ FiniteUntilOverflow os v := by
  have herases := erases_recordEvaluation s
  rw [h] at herases
  obtain ⟨os, hrun⟩ := herases.exists_eq_ok []
  have hinitial : EvalState.initial.IsFinite := ⟨Waiting.isFinite_empty, nofun⟩
  have hclean := keeps_recordEvaluation s [] v os ⟨.nil, fun _ => hinitial⟩ hrun
  refine ⟨os, hrun,
    { first := fun before o after => hclean.lawful.overflows
      ne_nan := fun o ho hl hr hnan => ?_
      divisor := hclean.lawful.divisor
      value := fun hv => ?_ }⟩
  · rcases Calculation.isFinite_or_overflows hl hr (hclean.lawful.divisor o ho) with hfinite | hover
    · rw [hnan] at hfinite
      cases hfinite
    · obtain ⟨s, hresult, -⟩ := hover.result
      rw [hnan] at hresult
      cases hresult
  · have hnot : ¬ AllFinite os := by
      intro hall
      rw [hclean.finite hall] at hv
      cases hv
    obtain ⟨before, o, after, hos, hbefore, ho⟩ := exists_first_of_not_allFinite hnot
    exact ⟨before, o, after, hos, hbefore, hclean.lawful.overflows hos hbefore ho⟩

theorem evaluate_tenfold {n : ℕ} (hn : (Binary64.ofNat n).isFinite = true) :
    evaluate (String.ofList (Nat.toDigits 10 n) ++ "*10") =
      .ok (Binary64.ofNat n * Binary64.ofNat 10) := by
  have hstream : TokenStream.ofString "*10" =
      ⟨[⟨.multiply, "*", 0⟩, ⟨.number, "10", 1⟩], .endOfInput 3⟩ := by decide +kernel
  have htail := TokenStream.layout_ofString "*10"
  rw [hstream] at htail
  have hlay := (layout_of_tokenize (IsDigits.toDigits n).tokenize_eq).append
    (.inr (by simp)) (htail.shifted _)
  rw [← String.toList_append] at hlay
  have hvalue := evaluate_eq_value (e := .term (.product (.factor (.number _)) .mul (.number "10")))
    (tokenize_of_layout hlay) rfl
  have hleft : literalValue (String.ofList (Nat.toDigits 10 n)) = .ok (Binary64.ofNat n) := by
    rw [Grammar.literalValue_eq_ok_iff, digitsValue_toList_ofList, numberOf_toDigits]
    exact ⟨rfl, hn⟩
  have hright : literalValue "10" = .ok (Binary64.ofNat 10) := by decide +kernel
  rw [hvalue, Grammar.Expr.value, Grammar.Term.value, Grammar.Term.value, Grammar.Factor.value,
    Grammar.Factor.value, hleft, hright]
  rfl

/-- Ten times the largest power of ten that can be written. -/
theorem evaluate_finiteUntilOverflow_tenfold :
    let s := String.ofList (Nat.toDigits 10 (10 ^ 308)) ++ "*10"
    evaluate s = .ok (.infinite false) ∧
      ∃ os, recordEvaluation s [] = .ok (.infinite false, os) ∧
        FiniteUntilOverflow os (.infinite false) := by
  intro s
  have hfinite : (Binary64.ofNat (10 ^ 308)).isFinite = true := by decide +kernel
  have hproduct : Binary64.ofNat (10 ^ 308) * Binary64.ofNat 10 = .infinite false := by
    decide +kernel
  have hvalue : evaluate s = .ok (.infinite false) := hproduct ▸ evaluate_tenfold hfinite
  exact ⟨hvalue, evaluate_finiteUntilOverflow hvalue⟩

end Calculator
