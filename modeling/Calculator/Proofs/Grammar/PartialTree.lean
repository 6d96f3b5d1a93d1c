import Calculator.Grammar
import Mathlib.Data.List.Basic

/-!
# Partial trees

A partial tree is what the first tokens of an expression say about its tree: the parentheses not
yet closed, and at each nesting level the sum and the product whose right operand is not complete.
It grows by one token at a time, in one way at most. Every tree is reached by its own tokens, and
a partial tree can always be completed; so the tokens that are read as a partial tree are exactly
the beginnings of sentences, and a sentence has one tree only.
-/

namespace Calculator

def Token.WellSpelled (t : Token) : Prop :=
  ∀ c, t.kind.symbol? = some c → t.text = c.toString

namespace Grammar

theorem Viable.of_append {xs ys : List Lexeme} (h : Viable (xs ++ ys)) : Viable xs := by
  obtain ⟨rest, hrest⟩ := h
  exact ⟨ys ++ rest, by rwa [← List.append_assoc]⟩

/-- The sum and the product of one nesting level that lack a right operand. -/
structure PartialLevel where
  sum : Option (Expr × SumOp)
  product : Option (Term × ProductOp)

/-- An open parenthesis, and the level outside it. -/
structure OpenParen where
  offset : Nat
  outside : PartialLevel

inductive PartialTree where
  /-- An operand comes next. -/
  | operand (level : PartialLevel) (parens : List OpenParen)
  /-- The operand has just been completed. -/
  | operator (level : PartialLevel) (parens : List OpenParen) (operand : Factor)

namespace PartialLevel

def empty : PartialLevel := ⟨none, none⟩

def term (w : PartialLevel) (f : Factor) : Term :=
  match w.product with
  | none => .factor f
  | some (t, op) => .product t op f

def expr (w : PartialLevel) (f : Factor) : Expr :=
  match w.sum with
  | none => .term (w.term f)
  | some (e, op) => .sum e op (w.term f)

def lexemes (w : PartialLevel) : List Lexeme :=
  (w.sum.elim [] fun p => p.1.lexemes ++ [p.2.lexeme]) ++
    w.product.elim [] fun p => p.1.lexemes ++ [p.2.lexeme]

@[simp] theorem lexemes_empty : empty.lexemes = [] := rfl

theorem lexemes_expr (w : PartialLevel) (f : Factor) :
    (w.expr f).lexemes = w.lexemes ++ f.lexemes := by
  obtain ⟨sum, product⟩ := w
  cases sum <;> cases product <;>
    simp [expr, term, lexemes, Expr.lexemes, Term.lexemes]

end PartialLevel

namespace PartialTree

def initial : PartialTree := .operand .empty []

/-- The lexemes up to the innermost open parenthesis. -/
def parenLexemes : List OpenParen → List Lexeme
  | [] => []
  | p :: ps => parenLexemes ps ++ p.outside.lexemes ++ [(.leftParen, "(")]

def lexemes : PartialTree → List Lexeme
  | operand w ps => parenLexemes ps ++ w.lexemes
  | operator w ps f => parenLexemes ps ++ w.lexemes ++ f.lexemes

def parens : PartialTree → List OpenParen
  | operand _ ps => ps
  | operator _ ps _ => ps

@[simp] theorem parens_operand (w : PartialLevel) (ps : List OpenParen) :
    (operand w ps).parens = ps := rfl

@[simp] theorem parens_operator (w : PartialLevel) (ps : List OpenParen) (f : Factor) :
    (operator w ps f).parens = ps := rfl

def step : PartialTree → Token → Option PartialTree
  | operand w ps, t =>
    match t.kind with
    | .number => some (.operator w ps (.number t.text))
    | .leftParen => some (.operand .empty (⟨t.offset, w⟩ :: ps))
    | _ => none
  | operator w ps f, t =>
    match t.kind with
    | .plus => some (.operand ⟨some (w.expr f, .add), none⟩ ps)
    | .minus => some (.operand ⟨some (w.expr f, .sub), none⟩ ps)
    | .multiply => some (.operand ⟨w.sum, some (w.term f, .mul)⟩ ps)
    | .divide => some (.operand ⟨w.sum, some (w.term f, .div)⟩ ps)
    | .rightParen =>
      match ps with
      | [] => none
      | p :: ps => some (.operator p.outside ps (.group (w.expr f)))
    | _ => none

/-- All that one token can do. -/
inductive Grows : PartialTree → Token → PartialTree → Prop where
  | number {w : PartialLevel} {ps : List OpenParen} {t : Token} (hk : t.kind = .number) :
      Grows (.operand w ps) t (.operator w ps (.number t.text))
  | openParen {w : PartialLevel} {ps : List OpenParen} {t : Token} (hk : t.kind = .leftParen) :
      Grows (.operand w ps) t (.operand .empty (⟨t.offset, w⟩ :: ps))
  | sum {w : PartialLevel} {ps : List OpenParen} {f : Factor} {t : Token} (op : SumOp)
      (hk : t.kind = op.lexeme.1) :
      Grows (.operator w ps f) t (.operand ⟨some (w.expr f, op), none⟩ ps)
  | product {w : PartialLevel} {ps : List OpenParen} {f : Factor} {t : Token} (op : ProductOp)
      (hk : t.kind = op.lexeme.1) :
      Grows (.operator w ps f) t (.operand ⟨w.sum, some (w.term f, op)⟩ ps)
  | closeParen {w : PartialLevel} {p : OpenParen} {ps : List OpenParen} {f : Factor} {t : Token}
      (hk : t.kind = .rightParen) :
      Grows (.operator w (p :: ps) f) t (.operator p.outside ps (.group (w.expr f)))

theorem step_eq_some_iff {a b : PartialTree} {t : Token} :
    a.step t = some b ↔ Grows a t b := by
  constructor
  · intro h
    cases a with
    | operand w ps =>
        simp only [step] at h
        split at h
        · next hk => exact Option.some.inj h ▸ .number hk
        · next hk => exact Option.some.inj h ▸ .openParen hk
        · cases h
    | operator w ps f =>
        simp only [step] at h
        split at h
        · next hk => exact Option.some.inj h ▸ .sum .add hk
        · next hk => exact Option.some.inj h ▸ .sum .sub hk
        · next hk => exact Option.some.inj h ▸ .product .mul hk
        · next hk => exact Option.some.inj h ▸ .product .div hk
        · next hk =>
          split at h
          · cases h
          · exact Option.some.inj h ▸ .closeParen hk
        · cases h
  · intro h
    cases h with
    | number hk => simp only [step, hk]
    | openParen hk => simp only [step, hk]
    | sum op hk => cases op <;> simp only [step, hk, SumOp.lexeme]
    | product op hk => cases op <;> simp only [step, hk, ProductOp.lexeme]
    | closeParen hk => simp only [step, hk]

def run (a : PartialTree) : List Token → Option PartialTree
  | [] => some a
  | t :: ts => (a.step t).bind fun b => b.run ts

@[simp] theorem run_nil (a : PartialTree) : a.run [] = some a := rfl

theorem run_cons (a : PartialTree) (t : Token) (ts : List Token) :
    a.run (t :: ts) = (a.step t).bind fun b => b.run ts := rfl

theorem run_append (a : PartialTree) (xs ys : List Token) :
    a.run (xs ++ ys) = (a.run xs).bind fun b => b.run ys := by
  induction xs generalizing a with
  | nil => rfl
  | cons x xs ih =>
      rw [List.cons_append, run_cons, run_cons]
      cases a.step x with
      | none => rfl
      | some b => exact ih b

theorem run_concat {a b : PartialTree} {ts : List Token} (h : a.run ts = some b) (t : Token) :
    a.run (ts ++ [t]) = b.step t := by
  rw [run_append, h, Option.bind_some, run_cons]
  cases b.step t <;> rfl

/-! ## What a partial tree spells -/

theorem lexemes_of_grows {a b : PartialTree} {t : Token} (h : Grows a t b)
    (ht : t.WellSpelled) : b.lexemes = a.lexemes ++ [t.lexeme] := by
  obtain ⟨kind, text, offset⟩ := t
  cases h with
  | number hk =>
      cases hk
      simp [lexemes, Factor.lexemes, Token.lexeme]
  | openParen hk =>
      cases hk
      have htext : text = "(" := ht '(' rfl
      simp [lexemes, parenLexemes, Token.lexeme, htext]
  | sum op hk =>
      have htext : Token.lexeme ⟨kind, text, offset⟩ = op.lexeme := by
        cases op <;> cases hk <;> rw [Token.lexeme, ht _ rfl] <;> rfl
      rw [htext]
      simp [lexemes, PartialLevel.lexemes, PartialLevel.lexemes_expr]
  | @product w ps f _ op hk =>
      have htext : Token.lexeme ⟨kind, text, offset⟩ = op.lexeme := by
        cases op <;> cases hk <;> rw [Token.lexeme, ht _ rfl] <;> rfl
      rw [htext]
      obtain ⟨sum, product⟩ := w
      cases product <;> simp [lexemes, PartialLevel.lexemes, PartialLevel.term, Term.lexemes]
  | closeParen hk =>
      cases hk
      have htext : text = ")" := ht ')' rfl
      simp [lexemes, parenLexemes, Token.lexeme, htext, Factor.lexemes, PartialLevel.lexemes_expr]

theorem lexemes_of_run {a b : PartialTree} {ts : List Token} (h : a.run ts = some b)
    (hts : ∀ t ∈ ts, t.WellSpelled) : b.lexemes = a.lexemes ++ ts.map Token.lexeme := by
  induction ts generalizing a with
  | nil =>
      rw [run_nil] at h
      simp [Option.some.inj h]
  | cons t ts ih =>
      obtain ⟨c, hc, hrun⟩ := Option.bind_eq_some_iff.mp h
      rw [ih hrun fun u hu => hts u (List.mem_cons_of_mem _ hu),
        lexemes_of_grows (step_eq_some_iff.mp hc) (hts t List.mem_cons_self)]
      simp

/-! ## Every tree is reached -/

theorem step_of_sumOp {w : PartialLevel} {ps : List OpenParen} {f : Factor} {t : Token}
    {op : SumOp} (h : t.lexeme = op.lexeme) :
    (operator w ps f).step t = some (.operand ⟨some (w.expr f, op), none⟩ ps) :=
  step_eq_some_iff.mpr (.sum op (congrArg Prod.fst h))

theorem step_of_productOp {w : PartialLevel} {ps : List OpenParen} {f : Factor} {t : Token}
    {op : ProductOp} (h : t.lexeme = op.lexeme) :
    (operator w ps f).step t = some (.operand ⟨w.sum, some (w.term f, op)⟩ ps) :=
  step_eq_some_iff.mpr (.product op (congrArg Prod.fst h))

mutual

/-- At the beginning of a level, the tokens of an expression complete this expression. -/
theorem run_expr (e : Expr) {ts : List Token} (h : ts.map Token.lexeme = e.lexemes)
    (ps : List OpenParen) : ∃ w f, (operand .empty ps).run ts = some (.operator w ps f) ∧
      w.expr f = e := by
  cases e with
  | term t =>
      obtain ⟨product, f, hrun, hterm⟩ := run_term t h none ps
      exact ⟨⟨none, product⟩, f, hrun, congrArg Expr.term hterm⟩
  | sum e op t =>
      obtain ⟨xs, rest, rfl, he, hrest⟩ := List.map_eq_append_iff.mp h
      obtain ⟨u, ys, rfl, hop, ht⟩ := List.map_eq_cons_iff.mp hrest
      obtain ⟨w, f, hrun, hexpr⟩ := run_expr e he ps
      obtain ⟨product, g, hrun', hterm⟩ := run_term t ht (some (e, op)) ps
      refine ⟨⟨some (e, op), product⟩, g, ?_, congrArg (Expr.sum e op) hterm⟩
      rw [run_append, hrun, Option.bind_some, run_cons, step_of_sumOp hop, Option.bind_some, hexpr]
      exact hrun'

/-- Where no product waits, the tokens of a term complete this term. -/
theorem run_term (t : Term) {ts : List Token} (h : ts.map Token.lexeme = t.lexemes)
    (sum : Option (Expr × SumOp)) (ps : List OpenParen) :
    ∃ product f, (operand ⟨sum, none⟩ ps).run ts = some (.operator ⟨sum, product⟩ ps f) ∧
      PartialLevel.term ⟨sum, product⟩ f = t := by
  cases t with
  | factor f => exact ⟨none, f, run_factor f h ⟨sum, none⟩ ps, rfl⟩
  | product t op f =>
      obtain ⟨xs, rest, rfl, ht, hrest⟩ := List.map_eq_append_iff.mp h
      obtain ⟨u, ys, rfl, hop, hf⟩ := List.map_eq_cons_iff.mp hrest
      obtain ⟨product, g, hrun, hterm⟩ := run_term t ht sum ps
      refine ⟨some (t, op), f, ?_, rfl⟩
      rw [run_append, hrun, Option.bind_some, run_cons, step_of_productOp hop, Option.bind_some,
        hterm]
      exact run_factor f hf ⟨sum, some (t, op)⟩ ps

/-- Where an operand comes next, the tokens of a factor complete it as this operand. -/
theorem run_factor (f : Factor) {ts : List Token} (h : ts.map Token.lexeme = f.lexemes)
    (w : PartialLevel) (ps : List OpenParen) :
    (operand w ps).run ts = some (.operator w ps f) := by
  cases f with
  | number digits =>
      obtain ⟨t, xs, rfl, ht, hxs⟩ := List.map_eq_cons_iff.mp h
      obtain rfl := List.map_eq_nil_iff.mp hxs
      obtain ⟨hkind, rfl⟩ := Prod.mk.inj ht
      rw [run_cons, step_eq_some_iff.mpr (.number hkind), Option.bind_some, run_nil]
  | group e =>
      obtain ⟨xs, ys, rfl, hxs, hys⟩ := List.map_eq_append_iff.mp h
      obtain ⟨t, xs, rfl, ht, he⟩ := List.map_eq_cons_iff.mp hxs
      obtain ⟨u, ys, rfl, hu, hnil⟩ := List.map_eq_cons_iff.mp hys
      obtain rfl := List.map_eq_nil_iff.mp hnil
      obtain ⟨v, f, hrun, hexpr⟩ := run_expr e he (⟨t.offset, w⟩ :: ps)
      have hopen : (operand w ps).step t = some (.operand .empty (⟨t.offset, w⟩ :: ps)) :=
        step_eq_some_iff.mpr (.openParen (congrArg Prod.fst ht))
      have hclose : (operator v (⟨t.offset, w⟩ :: ps) f).step u =
          some (.operator w ps (.group (v.expr f))) :=
        step_eq_some_iff.mpr (.closeParen (congrArg Prod.fst hu))
      rw [List.cons_append, run_cons, hopen, Option.bind_some, run_append, hrun,
        Option.bind_some, run_cons, hclose, Option.bind_some, run_nil, hexpr]

end

/-! ## Beginnings of sentences -/

theorem viable_operator (w : PartialLevel) (ps : List OpenParen) (f : Factor) :
    Viable (operator w ps f).lexemes := by
  induction ps generalizing w f with
  | nil => exact ⟨[], w.expr f, by simp [lexemes, parenLexemes, PartialLevel.lexemes_expr]⟩
  | cons p ps ih =>
      -- the closing parenthesis turns the level into an operand of the level outside
      have hclosed : Viable ((operator w (p :: ps) f).lexemes ++ [(.rightParen, ")")]) := by
        have h := ih p.outside (.group (w.expr f))
        simpa [lexemes, parenLexemes, Factor.lexemes, PartialLevel.lexemes_expr] using h
      exact hclosed.of_append

theorem viable_lexemes (a : PartialTree) : Viable a.lexemes := by
  cases a with
  | operand w ps => exact (viable_operator w ps (.number "0")).of_append
  | operator w ps f => exact viable_operator w ps f

end PartialTree

open PartialTree

/-- Tokens at no particular place. -/
def tokensOf (ls : List Lexeme) : List Token := ls.map fun l => ⟨l.1, l.2, 0⟩

@[simp] theorem map_lexeme_tokensOf (ls : List Lexeme) :
    (tokensOf ls).map Token.lexeme = ls := by
  rw [tokensOf, List.map_map]
  exact List.map_id ls

/-- Tokens begin a sentence exactly when they are read as a partial tree. -/
theorem viable_iff {ts : List Token} (hts : ∀ t ∈ ts, t.WellSpelled) :
    Viable (ts.map Token.lexeme) ↔ ∃ a, initial.run ts = some a := by
  constructor
  · rintro ⟨rest, e, he⟩
    have hmap : (ts ++ tokensOf rest).map Token.lexeme = e.lexemes := by
      rw [List.map_append, map_lexeme_tokensOf, he]
    obtain ⟨w, f, hrun, -⟩ := run_expr e hmap []
    rw [run_append] at hrun
    obtain ⟨a, ha, -⟩ := Option.bind_eq_some_iff.mp hrun
    exact ⟨a, ha⟩
  · rintro ⟨a, ha⟩
    have h := viable_lexemes a
    rwa [lexemes_of_run ha hts] at h

/-- Tokens are a sentence exactly when they are read as an operand outside all parentheses. -/
theorem sentence_iff {ts : List Token} (hts : ∀ t ∈ ts, t.WellSpelled) :
    Sentence (ts.map Token.lexeme) ↔ ∃ w f, initial.run ts = some (.operator w [] f) := by
  constructor
  · rintro ⟨e, he⟩
    obtain ⟨w, f, hrun, -⟩ := run_expr e he.symm []
    exact ⟨w, f, hrun⟩
  · rintro ⟨w, f, hrun⟩
    have h := lexemes_of_run hrun hts
    exact ⟨w.expr f, by rw [PartialLevel.lexemes_expr]; exact h⟩

theorem lexemes_injective : Function.Injective Expr.lexemes := by
  intro d e h
  have hd := map_lexeme_tokensOf d.lexemes
  obtain ⟨w, f, hrun, rfl⟩ := run_expr d hd []
  obtain ⟨w', f', hrun', rfl⟩ := run_expr e (hd.trans h) []
  rw [hrun] at hrun'
  cases hrun'
  rfl

end Grammar

end Calculator
