import Calculator.Proofs.Evaluation.Trees

/-!
# What the tokens before an error say

The tokens that have been read decide which error a token that does not fit becomes: whether an
operand is required after them, and which of their parentheses is still open. They also decide
whether the last operand is a zero that something is divided by. All this is told here of the
tokens alone, and agrees with the partial tree that they are read as.
-/

namespace Calculator

open Grammar

def AwaitsOperand (ts : List Token) : Prop :=
  ∀ t ∈ ts.getLast?, t.kind ∈ [TokenKind.plus, .minus, .multiply, .divide, .leftParen]

instance (ts : List Token) : Decidable (AwaitsOperand ts) :=
  inferInstanceAs (Decidable (∀ t ∈ ts.getLast?, _))

def stackParen (stack : List Token) (t : Token) : List Token :=
  match t.kind with
  | .leftParen => t :: stack
  | .rightParen => stack.tail
  | _ => stack

/-- The open parentheses among the tokens that are not yet closed, the last one first. -/
def unclosed (ts : List Token) : List Token := ts.foldl stackParen []

theorem mem_stackParen {stack : List Token} {p t : Token} (h : p ∈ stackParen stack t) :
    p ∈ stack ∨ p = t ∧ t.kind = .leftParen := by
  unfold stackParen at h
  split at h
  · next hk =>
    rcases List.mem_cons.mp h with rfl | h
    · exact .inr ⟨rfl, hk⟩
    · exact .inl h
  · exact .inl (List.mem_of_mem_tail h)
  · exact .inl h

theorem mem_foldl_stackParen {stack ts : List Token} {p : Token}
    (h : p ∈ ts.foldl stackParen stack) : p ∈ stack ∨ p ∈ ts ∧ p.kind = .leftParen := by
  induction ts generalizing stack with
  | nil => exact .inl h
  | cons t ts ih =>
      rcases ih h with hp | ⟨hp, hk⟩
      · rcases mem_stackParen hp with hp | ⟨rfl, hk⟩
        · exact .inl hp
        · exact .inr ⟨List.mem_cons_self, hk⟩
      · exact .inr ⟨List.mem_cons_of_mem t hp, hk⟩

theorem mem_unclosed {ts : List Token} {p : Token} (h : p ∈ unclosed ts) :
    p ∈ ts ∧ p.kind = .leftParen :=
  (mem_foldl_stackParen h).resolve_left List.not_mem_nil

/-- The error of a token `t` that does not fit after the tokens of `before`. -/
def syntaxError (before : List Token) (t : Token) : EvalError :=
  if AwaitsOperand before then .unexpectedToken [.number, .leftParen] t.description t.offset
  else
    match unclosed before with
    | [] => .trailingInput t.description t.offset
    | p :: _ => .unclosedParen p.offset t.description

/-- The tokens begin an expression and end with a divisor whose value is a zero. -/
def EndsInZeroDivisor (ts : List Token) : Prop :=
  Viable (ts.map Token.lexeme) ∧ ∃ (before : List Lexeme) (f : Factor) (y : Binary64),
    ts.map Token.lexeme = before ++ ProductOp.div.lexeme :: f.lexemes ∧ f.HasValue y ∧
      y.isZero = true

namespace Grammar.PartialTree

variable {a b : PartialTree} {t : Token} {ts : List Token}

theorem eq_nil_or_grows (h : initial.run ts = some a) :
    ts = [] ∧ a = .initial ∨ ∃ init t b, ts = init ++ [t] ∧ Grows b t a := by
  rcases List.eq_nil_or_concat' ts with rfl | ⟨init, t, rfl⟩
  · exact .inl ⟨rfl, (Option.some.inj h).symm⟩
  · rw [run_append] at h
    obtain ⟨b, -, hb⟩ := Option.bind_eq_some_iff.mp h
    obtain ⟨c, hc, hca⟩ := Option.bind_eq_some_iff.mp hb
    cases hca
    exact .inr ⟨init, t, b, rfl, step_eq_some_iff.mp hc⟩

theorem awaitsOperand_iff (h : initial.run ts = some a) :
    AwaitsOperand ts ↔ ∃ w ps, a = .operand w ps := by
  rcases eq_nil_or_grows h with ⟨rfl, rfl⟩ | ⟨init, t, b, rfl, hgrows⟩
  · exact ⟨fun _ => ⟨_, _, rfl⟩, fun _ t ht => by cases ht⟩
  · have hlast : AwaitsOperand (init ++ [t]) ↔
        t.kind ∈ [TokenKind.plus, .minus, .multiply, .divide, .leftParen] := by
      simp [AwaitsOperand]
    rw [hlast]
    cases hgrows with
    | number hk => simp [hk]
    | openParen hk => simp [hk]
    | sum op hk => cases op <;> simp [hk, SumOp.lexeme]
    | product op hk => cases op <;> simp [hk, ProductOp.lexeme]
    | closeParen hk => simp [hk]

theorem offsets_of_grows {stack : List Token} (h : Grows a t b)
    (hstack : stack.map Token.offset = a.parens.map OpenParen.offset) :
    (stackParen stack t).map Token.offset = b.parens.map OpenParen.offset := by
  cases h with
  | number hk => simpa [stackParen, hk] using hstack
  | openParen hk => simpa [stackParen, hk] using hstack
  | sum op hk => cases op <;> simpa [stackParen, hk, SumOp.lexeme] using hstack
  | product op hk => cases op <;> simpa [stackParen, hk, ProductOp.lexeme] using hstack
  | closeParen hk => simpa [stackParen, hk] using congrArg List.tail hstack

theorem offsets_of_run {stack : List Token} (h : a.run ts = some b)
    (hstack : stack.map Token.offset = a.parens.map OpenParen.offset) :
    (ts.foldl stackParen stack).map Token.offset = b.parens.map OpenParen.offset := by
  induction ts generalizing a stack with
  | nil =>
      rw [← Option.some.inj h]
      exact hstack
  | cons t ts ih =>
      obtain ⟨c, hc, hrun⟩ := Option.bind_eq_some_iff.mp h
      exact ih hrun (offsets_of_grows (step_eq_some_iff.mp hc) hstack)

theorem map_offset_unclosed (h : initial.run ts = some a) :
    (unclosed ts).map Token.offset = a.parens.map OpenParen.offset :=
  offsets_of_run h rfl

theorem refusal_eq_syntaxError (h : initial.run ts = some a) (t : Token) :
    a.refusal t = syntaxError ts t := by
  have hawaits := awaitsOperand_iff h
  have hoffset := map_offset_unclosed h
  cases a with
  | operand w ps => rw [syntaxError, if_pos (hawaits.mpr ⟨w, ps, rfl⟩)]; rfl
  | operator w ps f =>
      rw [syntaxError, if_neg (by simp [hawaits])]
      cases hopen : unclosed ts with
      | nil =>
          rw [hopen] at hoffset
          obtain rfl : ps = [] := by simpa using hoffset
          rfl
      | cons p rest =>
          rw [hopen] at hoffset
          cases ps with
          | nil => cases hoffset
          | cons q ps =>
              have hpq : p.offset = q.offset := (List.cons.inj hoffset).1
              simp only [refusal, hpq]

theorem endsInZeroDivisor_iff (h : initial.run ts = some a) (hts : ∀ t ∈ ts, t.WellSpelled) :
    Calculator.EndsInZeroDivisor ts ↔ a.EndsInZeroDivisor := by
  constructor
  · rintro ⟨-, before, f, y, hsplit, hf, hy⟩
    obtain ⟨xs, rest, rfl, -, hrest⟩ := List.map_eq_append_iff.mp hsplit
    obtain ⟨u, ys, rfl, hu, hys⟩ := List.map_eq_cons_iff.mp hrest
    rw [run_append] at h
    obtain ⟨b, -, hb⟩ := Option.bind_eq_some_iff.mp h
    obtain ⟨c, hc, hca⟩ := Option.bind_eq_some_iff.mp hb
    have hk : u.kind = .divide := congrArg Prod.fst hu
    cases step_eq_some_iff.mp hc with
    | number hk' => rw [hk] at hk'; cases hk'
    | openParen hk' => rw [hk] at hk'; cases hk'
    | sum op hk' => rw [hk] at hk'; cases op <;> cases hk'
    | closeParen hk' => rw [hk] at hk'; cases hk'
    | product op hk' =>
        cases op with
        | mul => rw [hk] at hk'; cases hk'
        | div =>
            rw [run_factor f hys] at hca
            cases hca
            exact .mk rfl hf hy
  · intro hzero
    have hlexemes : a.lexemes = ts.map Token.lexeme := lexemes_of_run h hts
    refine ⟨hlexemes ▸ viable_lexemes a, ?_⟩
    cases hzero with
    | @mk w ps f u y hw hf hy =>
        let sumLexemes := w.sum.elim [] fun p => p.1.lexemes ++ [p.2.lexeme]
        refine ⟨parenLexemes ps ++ (sumLexemes ++ u.lexemes), f, y, ?_, hf, hy⟩
        rw [← hlexemes]
        simp [lexemes, PartialLevel.lexemes, hw, sumLexemes]

end Grammar.PartialTree

end Calculator
