import Calculator.Proofs.Evaluation.Simulation
import Calculator.Proofs.Scanner.Tiling

/-!
# An expression evaluates to the value of its tree

An input evaluates to a value exactly when it is split into tokens that are the lexemes of a tree
with this value, and no other tree has the same lexemes.
-/

namespace Calculator

open Grammar

/-! ## The tokens of an input are spelled as their kinds demand -/

theorem Munch.eq_of_symbol {k : TokenKind} {text rest : List Char} {c : Char}
    (h : Munch k text rest) (hc : k.symbol? = some c) : text = [c] := by
  cases h with
  | number => cases hc
  | symbol hd =>
      rw [hd] at hc
      rw [Option.some.inj hc]

namespace TokenStream

variable (s : String)

theorem kind_ne_endOfInput : ∀ t ∈ (ofString s).tokens, t.kind ≠ .endOfInput := by
  intro t ht
  obtain ⟨_, _, -, hm, -⟩ := exists_spans s t ht
  exact hm.kind_ne_endOfInput

theorem wellSpelled : ∀ t ∈ (ofString s).tokens, t.WellSpelled := by
  intro t ht c hc
  obtain ⟨_, _, -, hm, -⟩ := exists_spans s t ht
  rw [← String.ofList_toList (s := t.text), hm.eq_of_symbol hc, Char.toString_eq_singleton,
    String.singleton_eq_ofList]

end TokenStream

/-! ## A run over the tokens -/

def StreamEnd.answer : StreamEnd → EvalState → Except EvalError Binary64
  | .endOfInput offset, st => st.finish offset
  | .badCharacter ch offset, _ => .error (.badCharacter ch offset)

theorem Evaluation.result_run (ending : StreamEnd) (read : Nat) (st : EvalState)
    (ts : List Token) :
    (run ending read st ts).result = ts.foldlM EvalState.step st >>= ending.answer := by
  induction ts generalizing read st with
  | nil => cases ending <;> rfl
  | cons t ts ih =>
      rw [run, List.foldlM_cons, bind_assoc]
      cases h : st.step t with
      | ok next => exact ih (read + 1) next
      | error e => rfl

theorem evaluate_eq (s : String) :
    evaluate s = (TokenStream.ofString s).tokens.foldlM EvalState.step .initial >>=
      (TokenStream.ofString s).ending.answer :=
  Evaluation.result_run _ _ _ _

namespace Grammar.PartialTree

theorem exists_run_of_foldlM {a : PartialTree} {st st' : EvalState} {ts : List Token}
    (h : a.state = .ok st) (hts : ts.foldlM EvalState.step st = .ok st') :
    ∃ b, a.run ts = some b ∧ b.state = .ok st' := by
  induction ts generalizing a st with
  | nil =>
      cases hts
      exact ⟨a, rfl, h⟩
  | cons t ts ih =>
      rw [List.foldlM_cons, bind_eq_ok_iff] at hts
      obtain ⟨next, hnext, hts⟩ := hts
      have hverdict := step_verdict h t
      rw [hnext] at hverdict
      cases hverdict with
      | taken _ hb _ hst =>
          obtain ⟨c, hrun, hc⟩ := ih hst hts
          exact ⟨c, by rw [run_cons, hb, Option.bind_some, hrun], hc⟩

end Grammar.PartialTree

open PartialTree

theorem evaluate_eq_value {s : String} {ts : List Token} {e : Expr} (hs : tokenize s = .ok ts)
    (he : ts.map Token.lexeme = e.lexemes) : evaluate s = e.value := by
  obtain ⟨offset, hstream⟩ := tokenize_eq_ok_iff.mp hs
  obtain ⟨w, f, hrun, rfl⟩ := run_expr e he []
  have hstate := state_of_run (a := .initial) hrun
  rw [state_initial, ok_bind] at hstate
  rw [evaluate_eq, hstream, ← hstate]
  exact finish_of_state w f offset

theorem exists_tree_of_evaluate {s : String} {v : Binary64} (h : evaluate s = .ok v) :
    ∃ ts, tokenize s = .ok ts ∧
      ∃ e : Expr, e.lexemes = ts.map Token.lexeme ∧ e.value = .ok v := by
  rw [evaluate_eq, bind_eq_ok_iff] at h
  obtain ⟨st, hfold, hv⟩ := h
  obtain ⟨a, hrun, hst⟩ := exists_run_of_foldlM state_initial hfold
  have hlexemes := lexemes_of_run hrun (TokenStream.wellSpelled s)
  cases hend : (TokenStream.ofString s).ending with
  | badCharacter ch offset =>
      rw [hend] at hv
      cases hv
  | endOfInput offset =>
      refine ⟨_, tokenize_eq_ok_iff.mpr ⟨offset, by rw [← hend]⟩, ?_⟩
      have hverdict := finish_verdict hst offset
      rw [hend, StreamEnd.answer] at hv
      rw [hv] at hverdict
      cases hverdict with
      | @complete w f _ _ ha hvalue =>
          subst ha
          exact ⟨w.expr f, by rw [PartialLevel.lexemes_expr]; exact hlexemes, hvalue⟩

/-- An input evaluates to a value exactly when its tokens are the lexemes of a tree with this
value, and the lexemes leave no choice of the tree. -/
theorem evaluate_eq_ok_iff_tree :
    (∀ (s : String) (v : Binary64), evaluate s = .ok v ↔ ∃ ts, tokenize s = .ok ts ∧
      ∃ e : Expr, e.lexemes = ts.map Token.lexeme ∧ e.HasValue v) ∧
    Function.Injective Expr.lexemes := by
  refine ⟨fun s v => ⟨fun h => ?_, ?_⟩, lexemes_injective⟩
  · obtain ⟨ts, hts, e, he, hv⟩ := exists_tree_of_evaluate h
    exact ⟨ts, hts, e, he, e.value_eq_ok_iff.mp hv⟩
  · rintro ⟨ts, hts, e, he, hv⟩
    rw [evaluate_eq_value hts he.symm]
    exact e.value_eq_ok_iff.mpr hv

end Calculator
