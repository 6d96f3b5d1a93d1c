import Calculator.Proofs.Evaluation.Places
import Calculator.Proofs.Scanner.Joining

/-!
# Expressions in parentheses count by their value

Between two parentheses the evaluation goes as it does for the expression alone, only with more
levels outside. Behind the closing one nothing is left of it but the value. So in any text, well
formed or not, an expression in parentheses can be replaced by another one with the same value.
-/

namespace Calculator

open Text (utf8Size)

variable {R : Nat → Nat → Prop} {ts us : List Token} {v : Binary64} {m n : Nat}

namespace EvalState

/-- The state with more levels outside. -/
def inside (outer : List Level) : EvalState → EvalState
  | operand ctx => .operand ⟨ctx.waiting, ctx.levels ++ outer⟩
  | operator ctx y => .operator ⟨ctx.waiting, ctx.levels ++ outer⟩ y

variable {st next : EvalState} {t : Token}

theorem afterOperandToken_inside {ctx : Context} (h : afterOperandToken ctx t = .ok next)
    (outer : List Level) :
    afterOperandToken ⟨ctx.waiting, ctx.levels ++ outer⟩ t = .ok (next.inside outer) := by
  rw [afterOperandToken] at h ⊢
  cases hk : t.kind with
  | number =>
      rw [hk] at h
      simp only [literalValue] at h ⊢
      split at h
      · next hfinite =>
        cases h
        rw [if_pos hfinite]
        rfl
      · cases h
  | leftParen =>
      rw [hk] at h
      cases h
      rfl
  | _ =>
      rw [hk] at h
      cases h

theorem afterOperatorToken_inside {ctx : Context} {x : Binary64}
    (h : afterOperatorToken ctx x t = .ok next) (outer : List Level) :
    afterOperatorToken ⟨ctx.waiting, ctx.levels ++ outer⟩ x t = .ok (next.inside outer) := by
  rw [afterOperatorToken] at h ⊢
  cases hk : t.kind with
  | number => rw [hk] at h; cases h
  | leftParen => rw [hk] at h; cases h
  | endOfInput => rw [hk] at h; cases h
  | rightParen =>
      rw [hk] at h
      obtain ⟨waiting, levels⟩ := ctx
      cases levels with
      | nil => cases h
      | cons level levels =>
          cases h
          rfl
  | _ =>
      rw [hk] at h
      cases h
      rfl

/-- What is outside does not change what a token does, as long as it is taken without. -/
theorem step_inside (h : st.step t = .ok next) (outer : List Level) :
    (st.inside outer).step t = .ok (next.inside outer) := by
  cases st with
  | operand ctx => exact afterOperandToken_inside h outer
  | operator ctx y =>
      obtain ⟨x, hx, hafter⟩ := bind_eq_ok_iff.mp h
      rw [inside, step, hx, ok_bind]
      exact afterOperatorToken_inside hafter outer

theorem foldlM_step_inside (h : ts.foldlM step st = .ok next) (outer : List Level) :
    ts.foldlM step (st.inside outer) = .ok (next.inside outer) := by
  induction ts generalizing st with
  | nil =>
      cases h
      rfl
  | cons t ts ih =>
      rw [List.foldlM_cons, bind_eq_ok_iff] at h
      obtain ⟨st', hst', hts⟩ := h
      rw [List.foldlM_cons, step_inside hst' outer, ok_bind]
      exact ih hts

theorem exists_operator_of_finish (h : st.finish n = .ok v) : ∃ waiting y x,
    st = .operator ⟨waiting, []⟩ y ∧ waiting.product? y = .ok x ∧ waiting.sumWith x = v := by
  cases st with
  | operand ctx => cases h
  | operator ctx y =>
      obtain ⟨x, hx, hfinish⟩ := bind_eq_ok_iff.mp h
      obtain ⟨waiting, levels⟩ := ctx
      cases levels with
      | cons level levels => cases hfinish
      | nil => exact ⟨waiting, y, x, rfl, hx, Except.ok.inj hfinish⟩

end EvalState

open EvalState

/-! ## The tokens of a group -/

/-- Evaluated alone, the tokens have this value. -/
def TokensValue (ts : List Token) (n : Nat) (v : Binary64) : Prop :=
  (ts.foldlM EvalState.step .initial >>= fun st => st.finish n) = .ok v

theorem exists_tokensValue {s : String} (h : evaluate s = .ok v) :
    ∃ ts n, Layout 0 s.toList ts (.endOfInput n) ∧ TokensValue ts n v := by
  have hlay := TokenStream.layout_ofString s
  rw [evaluate_eq] at h
  cases hend : (TokenStream.ofString s).ending with
  | endOfInput n =>
      rw [hend] at h hlay
      exact ⟨_, n, hlay, h⟩
  | badCharacter ch n =>
      rw [hend, bind_eq_ok_iff] at h
      obtain ⟨st, -, herror⟩ := h
      cases herror

theorem TokensValue.shifted (h : TokensValue ts n v) (m : Nat) :
    TokensValue (ts.map (Token.shifted m)) (m + n) v := by
  have hmoved : List.Forall₂ (Token.Moved fun p q => q = m + p) ts (ts.map (Token.shifted m)) := by
    rw [List.forall₂_map_right_iff, List.forall₂_same]
    intro t _
    exact ⟨rfl, rfl, rfl⟩
  have hsame : SameOutcome (fun p q => q = m + p)
      (ts.foldlM step .initial >>= fun st => st.finish n)
      ((ts.map (Token.shifted m)).foldlM step .initial >>= fun st => st.finish (m + n)) := by
    apply Agree.bind (agree_foldlM_step moved_initial hmoved)
    intro st st' hst
    exact agree_finish hst rfl
  exact hsame.eq_ok_iff.mp h

/-- The tokens between two parentheses, and the parentheses at `p` and `q`. -/
def groupTokens (p : Nat) (ts : List Token) (q : Nat) : List Token :=
  ⟨.leftParen, "(", p⟩ :: (ts ++ [⟨.rightParen, ")", q⟩])

theorem layout_group {E Q : List Char} {e : StreamEnd} (hE : Layout 0 E ts (.endOfInput m))
    (hQ : Layout 0 Q us e) (n : Nat) :
    Layout n ('(' :: (E ++ ')' :: Q))
      (groupTokens n (ts.map (Token.shifted (n + 1))) (n + 1 + m) ++
        us.map (Token.shifted (n + 1 + m + 1))) (e.shifted (n + 1 + m + 1)) := by
  have hclose : Layout (n + 1 + m) (')' :: Q) _ _ :=
    Layout.symbol (k := .rightParen) rfl (hQ.shifted (n + 1 + m + 1))
  have hend : DigitsEnd E (')' :: Q) := by
    right
    rintro _ ⟨⟩
    rfl
  have hgroup := (hE.shifted (n + 1)).append hend hclose
  have hopen := Layout.symbol (k := .leftParen) rfl hgroup
  rw [← String.singleton_eq_ofList, ← String.singleton_eq_ofList] at hopen
  simpa [groupTokens] using hopen

/-- Where an operand comes next, a group becomes an operand with the value of its tokens. -/
theorem foldlM_groupTokens (h : TokensValue ts n v) (ctx : Context) (p q : Nat) :
    (groupTokens p ts q).foldlM step (.operand ctx) = .ok (.operator ctx v) := by
  obtain ⟨st, hst, hfinish⟩ := bind_eq_ok_iff.mp h
  obtain ⟨waiting, y, x, rfl, hx, rfl⟩ := exists_operator_of_finish hfinish
  have hopen : (EvalState.operand ctx).step ⟨.leftParen, "(", p⟩ =
      .ok (EvalState.initial.inside (⟨p, ctx.waiting⟩ :: ctx.levels)) := rfl
  rw [groupTokens, List.foldlM_cons, hopen, ok_bind, List.foldlM_append,
    foldlM_step_inside hst, ok_bind, List.foldlM_cons, inside, step, hx]
  rfl

theorem agree_groupTokens {st st' : EvalState} (hst : st.Moved R st') {ts' : List Token}
    {n' p p' q q' : Nat} (hp : R p p') (h : TokensValue ts n v) (h' : TokensValue ts' n' v) :
    Agree (EvalState.Moved R) R ((groupTokens p ts q).foldlM step st)
      ((groupTokens p' ts' q').foldlM step st') := by
  cases hst with
  | operand hctx =>
      rw [foldlM_groupTokens h, foldlM_groupTokens h']
      exact .ok (.operator hctx)
  | @operator a b y hctx =>
      have hopen : Token.Moved R ⟨.leftParen, "(", p⟩ ⟨.leftParen, "(", p'⟩ := ⟨rfl, rfl, hp⟩
      have hstep := agree_step (.operator (y := y) hctx) hopen
      -- a group cannot follow an operand, whatever is in it
      have hrefused : ∀ next, (EvalState.operator a y).step ⟨.leftParen, "(", p⟩ ≠ .ok next := by
        intro next hnext
        obtain ⟨x, -, hafter⟩ := bind_eq_ok_iff.mp hnext
        cases hafter
      rw [groupTokens, groupTokens, List.foldlM_cons, List.foldlM_cons]
      generalize (EvalState.operator a y).step ⟨.leftParen, "(", p⟩ = first at hstep hrefused ⊢
      generalize (EvalState.operator b y).step ⟨.leftParen, "(", p'⟩ = second at hstep ⊢
      cases hstep with
      | ok _ => exact (hrefused _ rfl).elim
      | error herror => exact .error herror

/-! ## Replacing a group -/

/-- How a byte offset moves when the parentheses behind `p` hold `e'` and no longer `e`: up to the
opening one it stays, and behind the closing one it moves by the difference in length. -/
def ReplacedOffset (p e e' : String) (o o' : Nat) : Prop :=
  o < (p ++ "(").utf8ByteSize ∧ o' = o ∨
    (p ++ "(" ++ e ++ ")").utf8ByteSize ≤ o ∧ o' + e.utf8ByteSize = o + e'.utf8ByteSize

theorem evaluate_of_layout {s : String} {e : StreamEnd} (h : Layout 0 s.toList ts e) :
    evaluate s = ts.foldlM step .initial >>= e.answer := by
  rw [evaluate_eq, TokenStream.ofString_eq_of_layout h]

section Replacement

variable {p e e' : String}

theorem replacedOffset_of_le {o : Nat} (h : o ≤ utf8Size p.toList) : ReplacedOffset p e e' o o := by
  left
  rw [Text.utf8Size_toList] at h
  rw [String.utf8ByteSize_append]
  have hparen : "(".utf8ByteSize = 1 := by decide
  omega

theorem replacedOffset_behind (o : Nat) :
    ReplacedOffset p e e' (utf8Size p.toList + 1 + utf8Size e.toList + 1 + o)
      (utf8Size p.toList + 1 + utf8Size e'.toList + 1 + o) := by
  right
  simp only [Text.utf8Size_toList, String.utf8ByteSize_append]
  have hopen : "(".utf8ByteSize = 1 := by decide
  have hclose : ")".utf8ByteSize = 1 := by decide
  omega

/-- Up to the opening parenthesis nothing moves. -/
theorem moved_front {ts : List Token} {ending : StreamEnd}
    (h : Layout 0 p.toList ts ending) : List.Forall₂ (Token.Moved (ReplacedOffset p e e')) ts ts := by
  rw [List.forall₂_same]
  intro t ht
  have hle := h.offset_le t ht
  rw [Nat.zero_add] at hle
  exact ⟨rfl, rfl, replacedOffset_of_le hle⟩

end Replacement

/-- An expression in parentheses can be replaced by another one with the same value, whatever
stands in front of it and behind it. -/
theorem sameOutcome_replace_group {e e' : String} (he : evaluate e = .ok v)
    (he' : evaluate e' = .ok v) (p q : String) :
    SameOutcome (ReplacedOffset p e e') (evaluate (p ++ "(" ++ e ++ ")" ++ q))
      (evaluate (p ++ "(" ++ e' ++ ")" ++ q)) ∧ evaluate ("(" ++ e ++ ")") = .ok v := by
  obtain ⟨ts, m, hE, hv⟩ := exists_tokensValue he
  obtain ⟨ts', m', hE', hv'⟩ := exists_tokensValue he'
  have hwhole : ∀ s : String, (p ++ "(" ++ s ++ ")" ++ q).toList =
      p.toList ++ '(' :: (s.toList ++ ')' :: q.toList) := by
    intro s
    simp
  have hQ := TokenStream.layout_ofString q
  have hP := TokenStream.layout_ofString p
  refine ⟨?_, ?_⟩
  · cases hend : (TokenStream.ofString p).ending with
    | badCharacter ch n =>
        rw [hend] at hP
        rw [evaluate_of_layout (hwhole e ▸ hP.append_of_bad _),
          evaluate_of_layout (hwhole e' ▸ hP.append_of_bad _)]
        have hn := hP.badCharacter_le
        rw [Nat.zero_add] at hn
        apply Agree.bind (agree_foldlM_step moved_initial (moved_front hP))
        intro st st' hst
        exact agree_answer hst (.badCharacter (replacedOffset_of_le hn))
    | endOfInput n =>
        rw [hend] at hP
        have hn := hP.endOfInput_eq
        have hm := hE.endOfInput_eq
        have hm' := hE'.endOfInput_eq
        rw [Nat.zero_add] at hn hm hm'
        subst hn hm hm'
        have hopen : ∀ s : String, DigitsEnd p.toList ('(' :: (s.toList ++ ')' :: q.toList)) := by
          intro s
          right
          rintro _ ⟨⟩
          rfl
        rw [evaluate_of_layout (hwhole e ▸ hP.append (hopen e) (layout_group hE hQ _)),
          evaluate_of_layout (hwhole e' ▸ hP.append (hopen e') (layout_group hE' hQ _))]
        simp only [List.foldlM_append, bind_assoc]
        apply Agree.bind (agree_foldlM_step moved_initial (moved_front hP))
        intro st st' hst
        apply Agree.bind (agree_groupTokens hst (replacedOffset_of_le le_rfl) (hv.shifted _)
          (hv'.shifted _))
        intro st st' hst
        apply Agree.bind (agree_foldlM_step hst ?_)
        · intro st st' hst
          apply agree_answer hst
          cases (TokenStream.ofString q).ending with
          | endOfInput o => exact .endOfInput (replacedOffset_behind o)
          | badCharacter ch o => exact .badCharacter (replacedOffset_behind o)
        · rw [List.forall₂_map_left_iff, List.forall₂_map_right_iff, List.forall₂_same]
          intro t _
          exact ⟨rfl, rfl, replacedOffset_behind t.offset⟩
  · have hempty : Layout 0 [] [] (.endOfInput 0) := .finish .nil
    have hparens : ("(" ++ e ++ ")").toList = '(' :: (e.toList ++ ')' :: []) := by simp
    rw [evaluate_of_layout (hparens ▸ layout_group hE hempty 0), List.foldlM_append,
      EvalState.initial, foldlM_groupTokens (hv.shifted _)]
    rfl

theorem sameOutcome_replace_group_unfinished :
    evaluate "2*3" = .ok (.ofNat 6) ∧ evaluate " 6" = .ok (.ofNat 6) ∧
      SameOutcome (ReplacedOffset "1+" "2*3" " 6") (evaluate "1+(2*3)*(7") (evaluate "1+( 6)*(7") ∧
      evaluate "(2*3)" = .ok (.ofNat 6) := by
  have he : evaluate "2*3" = .ok (.ofNat 6) := by decide +kernel
  have he' : evaluate " 6" = .ok (.ofNat 6) := by decide +kernel
  exact ⟨he, he', sameOutcome_replace_group he he' "1+" "*(7"⟩

end Calculator
