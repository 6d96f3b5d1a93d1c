import Calculator.Proofs.Evaluation.Places
import Calculator.Proofs.Scanner.Joining

/-!
# More text behind a rejected one

An error is found without a look at what stands behind the token that it is about. So when more
text follows, the same error is found again, unless it is about the end of the input. A zero
divisor is found once the token behind it has been read, so a character without a place there is
found first.
-/

namespace Calculator

/-- The error names the end of the input as what was found. -/
def EvalError.FoundEnd : EvalError → Prop
  | .unexpectedToken _ found _ => found = TokenKind.endOfInput.description
  | .unclosedParen _ found => found = TokenKind.endOfInput.description
  | .trailingInput found _ => found = TokenKind.endOfInput.description
  | .badCharacter _ _ => False
  | .numberTooLarge _ => False
  | .divisionByZero => False

/-- The tokens of a text that goes on begin with its own. -/
theorem Layout.exists_append {p : Nat} {cs ds : List Char} {ts : List Token} {e : StreamEnd}
    (h : Layout p cs ts e) (hend : DigitsEnd cs ds) :
    ∃ us e', Layout p (cs ++ ds) (ts ++ us) e' := by
  cases e with
  | badCharacter ch q =>
      refine ⟨[], .badCharacter ch q, ?_⟩
      rw [List.append_nil]
      exact h.append_of_bad ds
  | endOfInput q =>
      have hds := TokenStream.layout_ofString (String.ofList ds)
      rw [String.toList_ofList] at hds
      exact ⟨_, _, h.append hend (hds.shifted q)⟩

variable {s u : String} {e : EvalError}

/-- A token that is not taken is not taken with more text behind it either. -/
theorem evaluate_append_of_foldlM
    (hrun : (TokenStream.ofString s).tokens.foldlM EvalState.step .initial = .error e)
    (hend : DigitsEnd s.toList u.toList) : evaluate (s ++ u) = .error e := by
  obtain ⟨us, ending, hlay⟩ := (TokenStream.layout_ofString s).exists_append hend
  rw [← String.toList_append] at hlay
  rw [evaluate_eq, TokenStream.ofString_eq_of_layout hlay, List.foldlM_append, hrun]
  rfl

theorem evaluate_append_of_bad {ch : Char} {q : Nat}
    (hbad : (TokenStream.ofString s).ending = .badCharacter ch q) (u : String) :
    evaluate (s ++ u) = evaluate s := by
  have hlay := TokenStream.layout_ofString s
  rw [hbad] at hlay
  have hwhole := hlay.append_of_bad u.toList
  rw [← String.toList_append] at hwhole
  rw [evaluate_eq, evaluate_eq, TokenStream.ofString_eq_of_layout hwhole, hbad]

namespace EvalState

/-- At the end of the input nothing else can be wrong than the end itself or a zero divisor. -/
theorem finish_eq_error {st : EvalState} {offset : Nat} (h : st.finish offset = .error e) :
    e.FoundEnd ∨ e = .divisionByZero ∧
      ∃ ctx y, st = .operator ctx y ∧ ctx.waiting.product? y = .error .divisionByZero := by
  cases st with
  | operand ctx =>
      cases h
      exact .inl rfl
  | operator ctx y =>
      rw [finish] at h
      cases hx : ctx.waiting.product? y with
      | error e' =>
          obtain rfl := Waiting.eq_divisionByZero hx
          rw [hx] at h
          cases h
          exact .inr ⟨rfl, ctx, y, rfl, hx⟩
      | ok x =>
          rw [hx, ok_bind] at h
          left
          obtain ⟨waiting, levels⟩ := ctx
          cases levels with
          | nil => cases h
          | cons level levels =>
              cases h
              rfl

end EvalState

/-- Behind a zero divisor at the end of a text the next token does not matter, but a character
without a place does. -/
theorem evaluate_append_of_zeroDivisor {q : Nat} {ctx : Context} {y : Binary64}
    (hending : (TokenStream.ofString s).ending = .endOfInput q)
    (hrun : (TokenStream.ofString s).tokens.foldlM EvalState.step .initial =
      .ok (.operator ctx y))
    (hzero : ctx.waiting.product? y = .error .divisionByZero)
    (hend : DigitsEnd s.toList u.toList) :
    evaluate (s ++ u) = .error .divisionByZero ∨
      ∃ blanks ch rest, u.toList = blanks ++ ch :: rest ∧ AllBlank blanks ∧
        ¬ IsExpressionChar ch ∧
        evaluate (s ++ u) =
          .error (.badCharacter ch (s ++ String.ofList blanks).utf8ByteSize) := by
  have hlay := TokenStream.layout_ofString s
  rw [hending] at hlay
  have hq := hlay.endOfInput_eq
  rw [Nat.zero_add] at hq
  have hu := TokenStream.layout_ofString u
  have hwhole := hlay.append hend (hu.shifted q)
  rw [← String.toList_append] at hwhole
  rw [evaluate_eq, TokenStream.ofString_eq_of_layout hwhole, List.foldlM_append, hrun, ok_bind]
  clear hwhole hlay
  generalize (TokenStream.ofString u).ending = ending at hu ⊢
  generalize (TokenStream.ofString u).tokens = us at hu ⊢
  generalize hcs : u.toList = cs at hu ⊢
  cases hu with
  | finish hb =>
      have hfinish : ∀ n, (EvalState.operator ctx y).finish n = .error .divisionByZero := by
        intro n
        rw [EvalState.finish, hzero]
        rfl
      exact .inl (hfinish _)
  | @bad _ blanks rest ch hb hch =>
      refine .inr ⟨blanks, ch, rest, rfl, hb, hch, ?_⟩
      have hsize : q + (0 + Text.utf8Size blanks) = (s ++ String.ofList blanks).utf8ByteSize := by
        rw [Nat.zero_add, hq, ← Text.utf8Size_toList, String.toList_append, String.toList_ofList,
          Text.utf8Size_append]
      rw [← hsize]
      rfl
  | token hb hm h =>
      left
      rw [List.map_cons, List.foldlM_cons, EvalState.step, hzero]
      rfl

/-- A rejected text is rejected with the same error when more text follows that does not go on with
its last number, unless the error is about the end of the input. After a division by zero the
first character behind it may be the error, if it is one that has no place. -/
theorem evaluate_append_of_error (he : evaluate s = .error e)
    (hend : DigitsEnd s.toList u.toList) :
    (e ≠ .divisionByZero → ¬ e.FoundEnd → evaluate (s ++ u) = .error e) ∧
    (e = .divisionByZero → evaluate (s ++ u) = .error .divisionByZero ∨
      ∃ blanks ch rest, u.toList = blanks ++ ch :: rest ∧ AllBlank blanks ∧
        ¬ IsExpressionChar ch ∧
        evaluate (s ++ u) =
          .error (.badCharacter ch (s ++ String.ofList blanks).utf8ByteSize)) := by
  have heval := he
  rw [evaluate_eq] at he
  cases hrun : (TokenStream.ofString s).tokens.foldlM EvalState.step .initial with
  | error e' =>
      rw [hrun] at he
      cases he
      have hsame := evaluate_append_of_foldlM hrun hend
      exact ⟨fun _ _ => hsame, fun hzero => .inl (hzero ▸ hsame)⟩
  | ok st =>
      rw [hrun, ok_bind] at he
      cases hending : (TokenStream.ofString s).ending with
      | badCharacter ch q =>
          have hsame := evaluate_append_of_bad hending u
          rw [hending] at he
          cases he
          exact ⟨fun _ _ => hsame.trans heval, nofun⟩
      | endOfInput q =>
          rw [hending] at he
          rcases EvalState.finish_eq_error he with hfound | ⟨rfl, ctx, y, rfl, hzero⟩
          · refine ⟨fun _ hfound' => absurd hfound hfound', ?_⟩
            rintro rfl
            exact hfound.elim
          · refine ⟨fun hne => absurd rfl hne, fun _ => ?_⟩
            exact evaluate_append_of_zeroDivisor hending hrun hzero hend

theorem evaluate_append_of_error_judged :
    (evaluate "2)" = .error (.trailingInput "')'" 1) ∧ DigitsEnd "2)".toList "(§".toList ∧
      evaluate ("2)" ++ "(§") = .error (.trailingInput "')'" 1)) ∧
    (evaluate "(1/0" = .error .divisionByZero ∧ DigitsEnd "(1/0".toList " §2".toList ∧
      (evaluate ("(1/0" ++ " §2") = .error .divisionByZero ∨
        ∃ blanks ch rest, " §2".toList = blanks ++ ch :: rest ∧ AllBlank blanks ∧
          ¬ IsExpressionChar ch ∧
          evaluate ("(1/0" ++ " §2") =
            .error (.badCharacter ch ("(1/0" ++ String.ofList blanks).utf8ByteSize))) := by
  have he : evaluate "2)" = .error (.trailingInput "')'" 1) := by decide +kernel
  have hend : DigitsEnd "2)".toList "(§".toList := by
    left
    rintro c ⟨⟩
    rfl
  have hfound : ¬ (EvalError.trailingInput "')'" 1).FoundEnd := by
    show ¬ "')'" = "end of input"
    decide
  have hzero : evaluate "(1/0" = .error .divisionByZero := by decide +kernel
  have hend' : DigitsEnd "(1/0".toList " §2".toList := by
    right
    rintro c ⟨⟩
    rfl
  exact ⟨⟨he, hend, (evaluate_append_of_error he hend).1 nofun hfound⟩,
    hzero, hend', (evaluate_append_of_error hzero hend').2 rfl⟩

end Calculator
