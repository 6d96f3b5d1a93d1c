import Calculator.Proofs.Evaluation.Fault

/-!
# Where a syntax error stands

A syntax error names the first token with which the input stops being the beginning of an
expression, or its end, when an expression has only begun there. Which error it is, and what it
says, follows from the tokens before.
-/

namespace Calculator

open Grammar

def EvalError.IsSyntax : EvalError → Prop
  | .unexpectedToken _ _ _ => True
  | .unclosedParen _ _ => True
  | .trailingInput _ _ => True
  | _ => False

/-- The error `e` of the input is about `t`, which comes behind the tokens of `before`. -/
structure SyntaxErrorAt (s : String) (before : List Token) (t : Token) (e : EvalError) : Prop where
  items : ∃ after, (TokenStream.ofString s).items = before ++ t :: after
  viable : Viable (before.map Token.lexeme)
  refused : t.kind ≠ .endOfInput → ¬ Viable ((before ++ [t]).map Token.lexeme)
  unfinished : t.kind = .endOfInput → ¬ Sentence (before.map Token.lexeme)
  operand : AwaitsOperand before → e = .unexpectedToken [.number, .leftParen] t.description t.offset
  paren : ¬ AwaitsOperand before → ∀ p ps, unclosed before = p :: ps →
    e = .unclosedParen p.offset t.description ∧
      t.kind ∈ [TokenKind.number, .leftParen, .endOfInput] ∧ p ∈ before ∧ p.kind = .leftParen
  whole : ¬ AwaitsOperand before → unclosed before = [] →
    e = .trailingInput t.description t.offset ∧
      t.kind ∈ [TokenKind.number, .leftParen, .rightParen] ∧ Sentence (before.map Token.lexeme)
  spans : ∀ u ∈ before ++ [t], u.kind ≠ .endOfInput → ∃ front back, u.Spans s front back
  offset : t.kind = .endOfInput → t.offset = s.utf8ByteSize

namespace TokenStream

theorem exists_items_eq (S : TokenStream) : ∃ rest, S.items = S.tokens ++ rest := by
  unfold items
  split
  · exact ⟨_, rfl⟩
  · exact ⟨[], (List.append_nil _).symm⟩

theorem mem_items {S : TokenStream} {t : Token} (h : t ∈ S.items) :
    t ∈ S.tokens ∨ ∃ offset, S.ending = .endOfInput offset ∧ t = .endOfInput offset := by
  unfold items at h
  split at h
  · next offset hend =>
    rcases List.mem_append.mp h with h | h
    · exact .inl h
    · exact .inr ⟨offset, hend, List.mem_singleton.mp h⟩
  · exact .inl h

variable {s : String} {t : Token}

theorem wellSpelled_of_mem_items (h : t ∈ (ofString s).items) : t.WellSpelled := by
  rcases mem_items h with h | ⟨offset, -, rfl⟩
  · exact wellSpelled s t h
  · rintro c ⟨⟩

theorem spans_of_mem_items (h : t ∈ (ofString s).items) (hk : t.kind ≠ .endOfInput) :
    ∃ front back, t.Spans s front back := by
  rcases mem_items h with h | ⟨offset, -, rfl⟩
  · obtain ⟨front, back, hspan, -⟩ := exists_spans s t h
    exact ⟨front, back, hspan⟩
  · exact (hk rfl).elim

theorem offset_of_mem_items (h : t ∈ (ofString s).items) (hk : t.kind = .endOfInput) :
    t.offset = s.utf8ByteSize := by
  rcases mem_items h with h | ⟨offset, hend, rfl⟩
  · exact (kind_ne_endOfInput s t h hk).elim
  · have hacc := ending_accounts s
    rw [hend] at hacc
    rw [Token.endOfInput, hacc.2, Nat.zero_add, Text.utf8Size_toList]

end TokenStream

open PartialTree

theorem kind_of_step_eq_none {w : PartialLevel} {ps : List OpenParen} {f : Factor} {t : Token}
    (h : (operator w ps f).step t = none) :
    t.kind ∈ [TokenKind.number, .leftParen, .endOfInput] ∨ t.kind = .rightParen ∧ ps = [] := by
  cases hk : t.kind with
  | rightParen =>
      cases ps with
      | nil => exact .inr ⟨rfl, rfl⟩
      | cons p ps => simp [step, hk] at h
  | number => simp
  | leftParen => simp
  | endOfInput => simp
  | _ => simp [step, hk] at h

variable {s : String} {before after : List Token} {t : Token} {a : PartialTree}

theorem syntaxErrorAt_of_step_eq_none
    (hitems : (TokenStream.ofString s).items = before ++ t :: after)
    (hrun : initial.run before = some a) (hn : a.step t = none)
    (hend : t.kind = .endOfInput → ¬ Sentence (before.map Token.lexeme)) :
    SyntaxErrorAt s before t (syntaxError before t) := by
  have hmem : ∀ u ∈ before ++ [t], u ∈ (TokenStream.ofString s).items := fun u hu =>
    mem_of_mem_concat hitems hu
  have hspell : ∀ u ∈ before ++ [t], u.WellSpelled := fun u hu =>
    TokenStream.wellSpelled_of_mem_items (hmem u hu)
  have hbefore : ∀ u ∈ before, u.WellSpelled := fun u hu => hspell u (List.mem_append_left _ hu)
  have hoffsets := map_offset_unclosed hrun
  have hoperator : ¬ AwaitsOperand before → ∃ w ps f, a = .operator w ps f := by
    rw [awaitsOperand_iff hrun]
    intro h
    cases a with
    | operand w ps => exact (h ⟨w, ps, rfl⟩).elim
    | operator w ps f => exact ⟨w, ps, f, rfl⟩
  refine
    { items := ⟨after, hitems⟩
      viable := (viable_iff hbefore).mpr ⟨a, hrun⟩
      refused := fun _ => ?_
      unfinished := hend
      operand := fun h => if_pos h
      paren := fun h p ps hopen => ?_
      whole := fun h hopen => ?_
      spans := fun u hu => TokenStream.spans_of_mem_items (hmem u hu)
      offset := TokenStream.offset_of_mem_items (hmem t (by simp)) }
  · rw [viable_concat_iff hrun hspell, hn]
    rintro ⟨b, ⟨⟩⟩
  · obtain ⟨w, qs, f, rfl⟩ := hoperator h
    refine ⟨by rw [syntaxError, if_neg h, hopen], ?_, mem_unclosed (by simp [hopen])⟩
    refine (kind_of_step_eq_none hn).resolve_right ?_
    rintro ⟨-, rfl⟩
    rw [hopen] at hoffsets
    cases hoffsets
  · obtain ⟨w, qs, f, rfl⟩ := hoperator h
    rw [hopen] at hoffsets
    obtain rfl : qs = [] := by simpa using hoffsets
    have hsentence : Sentence (before.map Token.lexeme) :=
      (sentence_iff hbefore).mpr ⟨w, f, hrun⟩
    refine ⟨by rw [syntaxError, if_neg h, hopen], ?_, hsentence⟩
    rcases kind_of_step_eq_none hn with hk | ⟨hk, -⟩
    · simp only [List.mem_cons, List.not_mem_nil, or_false] at hk ⊢
      rcases hk with hk | hk | hk
      · exact .inl hk
      · exact .inr (.inl hk)
      · exact (hend hk hsentence).elim
    · simp [hk]

/-- A syntax error is about the first token with which the input stops being the beginning of an
expression, or about the end of an unfinished one, and says what is missing there. -/
theorem exists_syntaxErrorAt {e : EvalError} (h : evaluate s = .error e) (he : e.IsSyntax) :
    ∃ before t, SyntaxErrorAt s before t e := by
  have hspell := TokenStream.wellSpelled s
  have hanswers := answers_evaluate s
  rw [h] at hanswers
  obtain ⟨m, -, p, hfault, -⟩ := hanswers
  cases hfault with
  | badCharacter _ => exact he.elim
  | zeroDivisor _ _ => exact he.elim
  | numberTooLarge _ _ _ _ => exact he.elim
  | @misplaced before after t hS hviable ht =>
      obtain ⟨rest, hitems⟩ := TokenStream.exists_items_eq (TokenStream.ofString s)
      have hspell' : ∀ u ∈ before ++ [t], u.WellSpelled := fun u hu =>
        hspell u (mem_of_mem_concat hS hu)
      obtain ⟨a, hrun⟩ := (viable_iff fun u hu => hspell' u (List.mem_append_left _ hu)).mp hviable
      rw [viable_concat_iff hrun hspell', not_exists] at ht
      rw [hS, List.append_assoc, List.cons_append] at hitems
      have hkind : t.kind ≠ .endOfInput := TokenStream.kind_ne_endOfInput s t (by simp [hS])
      have hn : a.step t = none := Option.eq_none_iff_forall_ne_some.mpr ht
      exact ⟨before, t, syntaxErrorAt_of_step_eq_none hitems hrun hn fun hk => (hkind hk).elim⟩
  | @incomplete offset hend hviable hsentence =>
      obtain ⟨a, hrun⟩ := (viable_iff hspell).mp hviable
      have hitems : (TokenStream.ofString s).items =
          (TokenStream.ofString s).tokens ++ [.endOfInput offset] := by
        rw [TokenStream.items, hend]
      have hn : a.step (.endOfInput offset) = none := by cases a <;> rfl
      exact ⟨_, _, syntaxErrorAt_of_step_eq_none hitems hrun hn fun _ => hsentence⟩

theorem syntaxErrorAt_second_number :
    evaluate "(1 2" = .error (.unclosedParen 0 "number 2") ∧
      ∃ before t, SyntaxErrorAt "(1 2" before t (.unclosedParen 0 "number 2") := by
  have hstream : TokenStream.ofString "(1 2" = ⟨[⟨.leftParen, "(", 0⟩, ⟨.number, "1", 1⟩,
      ⟨.number, "2", 3⟩], .endOfInput 4⟩ := by decide +kernel
  have hfinite : (Binary64.ofNat 1).isFinite = true := by decide +kernel
  have hone : literalValue "1" = .ok (Binary64.ofNat 1) := by
    have hdigits : digitsValue "1".toList = 1 := by decide
    rw [literalValue, hdigits, if_pos hfinite]
  have herror : evaluate "(1 2" = .error (.unclosedParen 0 "number 2") := by
    rw [evaluate_eq, hstream]
    simp only [List.foldlM_cons, EvalState.initial, EvalState.step, EvalState.afterOperandToken,
      EvalState.afterOperatorToken, Waiting.empty, Waiting.product?, hone, Except.map, ok_bind]
    rfl
  exact ⟨herror, exists_syntaxErrorAt herror trivial⟩

end Calculator
