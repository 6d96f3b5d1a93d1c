import Calculator.Proofs.Evaluation.ViablePrefix
import Calculator.Proofs.Scanner.Schedule
import Calculator.Proofs.Session.BlankEnds

/-!
# Tokens on demand

An evaluation asks for its tokens one by one, each time for the token behind the last one. It does
not ask again behind the end of the input, behind a token that it cannot take or at a character that
has no place. The records of a line are those of the tokens that it was given in this way, then one
about the value or the error, and if there is an error one more.
-/

namespace Calculator

open Grammar

/-- What an evaluation comes to, and the tokens that it has been given. -/
structure Demand where
  result : Except EvalError Binary64
  pulled : List Token

namespace Scanner

theorem length_rest_nextToken_lt {s s' : Scanner} {t : Token} (h : s.nextToken = (.ok t, s'))
    (hk : t.kind ≠ .endOfInput) : s'.cursor.rest.length < s.cursor.rest.length := by
  unfold nextToken at h
  cases hnext : s.cursor.next with
  | mk r c =>
      rw [hnext] at h
      obtain ⟨hr, rfl⟩ := Prod.mk.inj h
      cases r with
      | token u => exact Cursor.length_rest_next_lt hnext
      | ending e =>
          cases e with
          | badCharacter ch offset => cases hr
          | endOfInput offset =>
              cases hr
              exact (hk rfl).elim

/-- Evaluates on from a state, with a call on the scanner for each token. -/
def demand (st : EvalState) (s : Scanner) : Demand :=
  match _h : s.nextToken with
  | (.error e, _) => ⟨.error e, []⟩
  | (.ok t, s') =>
    if _hk : t.kind = .endOfInput then ⟨st.finish t.offset, [t]⟩
    else
      match st.step t with
      | .error e => ⟨.error e, [t]⟩
      | .ok next => ⟨(s'.demand next).result, t :: (s'.demand next).pulled⟩
termination_by s.cursor.rest.length
decreasing_by all_goals exact length_rest_nextToken_lt _h _hk

variable {s s' : Scanner} {st : EvalState} {t : Token} {e : EvalError}

theorem demand_of_error (h : s.nextToken = (.error e, s')) : s.demand st = ⟨.error e, []⟩ := by
  rw [demand]
  split <;> simp_all

theorem demand_of_endOfInput (h : s.nextToken = (.ok t, s')) (hk : t.kind = .endOfInput) :
    s.demand st = ⟨st.finish t.offset, [t]⟩ := by
  rw [demand]
  split <;> simp_all

theorem demand_of_refused (h : s.nextToken = (.ok t, s')) (hk : t.kind ≠ .endOfInput)
    (hstep : st.step t = .error e) : s.demand st = ⟨.error e, [t]⟩ := by
  rw [demand]
  split <;> simp_all

theorem demand_of_taken {next : EvalState} (h : s.nextToken = (.ok t, s'))
    (hk : t.kind ≠ .endOfInput) (hstep : st.step t = .ok next) :
    s.demand st = ⟨(s'.demand next).result, t :: (s'.demand next).pulled⟩ := by
  rw [demand]
  split <;> simp_all

theorem nextToken_of_next {r : Reading} {c' : Cursor} (h : s.cursor.next = (r, c')) :
    s.nextToken = (r.token?, ⟨c', s.failed⟩) := by
  rw [nextToken, h]

end Scanner

theorem TokenStream.items_cons (t : Token) (ts : List Token) (e : StreamEnd) :
    (TokenStream.mk (t :: ts) e).items = t :: (TokenStream.mk ts e).items := by
  cases e <;> rfl

/-- What is left for the scanner is evaluated on demand with the same result as when it has been
read before. The tokens that have been given are the first ones, as many as are read. -/
theorem Scanner.demand_spec (s : Scanner) (st : EvalState) (n : Nat) :
    let evaluation := Evaluation.run s.cursor.left.ending n st s.cursor.left.tokens
    (s.demand st).result = evaluation.result ∧
      evaluation.read = n + (s.demand st).pulled.length ∧
      (s.demand st).pulled <+: s.cursor.left.items := by
  cases hnext : s.cursor.next with
  | mk r c' =>
      have hcall := nextToken_of_next hnext
      cases r with
      | ending e =>
          rw [Cursor.left_of_ending hnext]
          cases e with
          | endOfInput offset =>
              rw [demand_of_endOfInput hcall rfl]
              exact ⟨rfl, rfl, List.prefix_rfl⟩
          | badCharacter ch offset =>
              rw [demand_of_error hcall]
              exact ⟨rfl, rfl, List.nil_prefix⟩
      | token t =>
          have hk := kind_ne_of_next hnext
          rw [Cursor.left_of_token hnext, TokenStream.items_cons]
          cases hstep : st.step t with
          | error e =>
              rw [demand_of_refused hcall hk hstep, Evaluation.run, hstep]
              exact ⟨rfl, rfl, List.prefix_append [t] _⟩
          | ok next =>
              have hlt := length_rest_nextToken_lt hcall hk
              obtain ⟨hresult, hread, hpulled⟩ := demand_spec ⟨c', s.failed⟩ next (n + 1)
              rw [demand_of_taken hcall hk hstep, Evaluation.run, hstep]
              refine ⟨hresult, hread.trans ?_, List.cons_prefix_cons.mpr ⟨rfl, hpulled⟩⟩
              rw [List.length_cons, Nat.add_right_comm, Nat.add_assoc]
termination_by s.cursor.rest.length

/-! ## The last token -/

/-- How the tokens that have been given end, by what the evaluation comes to. -/
inductive Pulls (s : String) : Except EvalError Binary64 → List Token → Prop where
  | value {v : Binary64} {ts : List Token} (hts : tokenize s = .ok ts) :
      Pulls s (.ok v) (ts ++ [.endOfInput s.utf8ByteSize])
  | syntaxError {before : List Token} {t : Token} {e : EvalError}
      (h : SyntaxErrorAt s before t e) : Pulls s (.error e) (before ++ [t])
  | tooLarge {before : List Token} {t : Token} (hk : t.kind = .number)
      (hx : (Binary64.ofNat (digitsValue t.text.toList)).isFinite = false) :
      Pulls s (.error (.numberTooLarge t.text)) (before ++ [t])
  | zeroDivisor {before : List Token} {t : Token} (hz : EndsInZeroDivisor before) :
      Pulls s (.error .divisionByZero) (before ++ [t])
  | badCharacter {ch : Char} {offset : Nat}
      (hend : (TokenStream.ofString s).ending = .badCharacter ch offset) :
      Pulls s (.error (.badCharacter ch offset)) (TokenStream.ofString s).tokens

open PartialTree

variable {s : String} {a : PartialTree} {st : EvalState}

theorem TokenStream.items_of_endOfInput {offset : Nat}
    (hend : (ofString s).ending = .endOfInput offset) :
    (ofString s).items = (ofString s).tokens ++ [.endOfInput offset] := by
  rw [items, hend]

theorem TokenStream.eq_utf8ByteSize {offset : Nat}
    (hend : (ofString s).ending = .endOfInput offset) : offset = s.utf8ByteSize := by
  have hmem : Token.endOfInput offset ∈ (ofString s).items := by simp [items_of_endOfInput hend]
  exact offset_of_mem_items hmem rfl

/-- At the end of the input all its tokens have been pulled, and the end once. -/
theorem pulls_finish (hrun : initial.run (TokenStream.ofString s).tokens = some a)
    (hst : a.state = .ok st) {offset : Nat}
    (hend : (TokenStream.ofString s).ending = .endOfInput offset) :
    Pulls s (st.finish offset) (TokenStream.ofString s).items := by
  have hspell := TokenStream.wellSpelled s
  have hitems := TokenStream.items_of_endOfInput hend
  have hverdict := finish_verdict hst offset
  obtain rfl := TokenStream.eq_utf8ByteSize hend
  cases hresult : st.finish s.utf8ByteSize with
  | ok v =>
      have hts : tokenize s = .ok (TokenStream.ofString s).tokens := by
        rw [tokenize, TokenStream.toExcept, hend]
        rfl
      rw [hitems]
      exact .value hts
  | error e =>
      rw [hresult] at hverdict
      rw [hitems]
      cases hverdict with
      | zeroDivisor hz => exact .zeroDivisor ((endsInZeroDivisor_iff hrun hspell).mpr hz)
      | refused hz ha =>
          have hn : a.step (.endOfInput s.utf8ByteSize) = none := by cases a <;> rfl
          rw [refusal_eq_syntaxError hrun]
          refine .syntaxError (syntaxErrorAt_of_step_eq_none hitems hrun hn fun _ => ?_)
          rw [sentence_iff hspell]
          rintro ⟨w, f, hsome⟩
          rw [hrun] at hsome
          exact ha w f (Option.some.inj hsome)

/-- The evaluation has read as many items of the input as it needs. -/
def Evaluation.Pulls (s : String) (evaluation : Evaluation) : Prop :=
  Calculator.Pulls s evaluation.result ((TokenStream.ofString s).items.take evaluation.read)

theorem Evaluation.pulls_mk {result : Except EvalError Binary64} {read : Nat} {pulled : List Token}
    (h : Calculator.Pulls s result pulled)
    (hread : (TokenStream.ofString s).items.take read = pulled) :
    Evaluation.Pulls s ⟨result, read⟩ := by
  rwa [Evaluation.Pulls, hread]

/-- The token on which a step fails is the last one. -/
theorem pulls_of_step_eq_error {before behind : List Token} {t : Token} {e : EvalError}
    (hitems : (TokenStream.ofString s).items = before ++ t :: behind) (hk : t.kind ≠ .endOfInput)
    (hrun : initial.run before = some a) (hst : a.state = .ok st) (hstep : st.step t = .error e) :
    Pulls s (.error e) (before ++ [t]) := by
  have hspell : ∀ u ∈ before, u.WellSpelled := fun u hu =>
    TokenStream.wellSpelled_of_mem_items (s := s) (by simp [hitems, hu])
  have hverdict := step_verdict hst t
  rw [hstep] at hverdict
  cases hverdict with
  | zeroDivisor hz => exact .zeroDivisor ((endsInZeroDivisor_iff hrun hspell).mpr hz)
  | refused hz hn =>
      rw [refusal_eq_syntaxError hrun]
      exact .syntaxError (syntaxErrorAt_of_step_eq_none hitems hrun hn fun h => (hk h).elim)
  | tooLarge hz hb hk hx => exact .tooLarge hk hx

/-- Behind tokens that have all been taken, the others are pulled up to the one that is not. -/
theorem pulls_run {before rest : List Token} (hS : (TokenStream.ofString s).tokens = before ++ rest)
    (hrun : initial.run before = some a) (hst : a.state = .ok st) :
    (Evaluation.run (TokenStream.ofString s).ending before.length st rest).Pulls s := by
  induction rest generalizing before a st with
  | nil =>
      rw [List.append_nil] at hS
      subst hS
      cases hend : (TokenStream.ofString s).ending with
      | badCharacter ch offset =>
          have hitems : (TokenStream.ofString s).items = (TokenStream.ofString s).tokens := by
            rw [TokenStream.items, hend]
          exact Evaluation.pulls_mk (.badCharacter hend) (by rw [hitems, List.take_length])
      | endOfInput offset =>
          refine Evaluation.pulls_mk (pulls_finish hrun hst hend) (List.take_of_length_le ?_)
          rw [TokenStream.items_of_endOfInput hend, List.length_append, List.length_singleton]
  | cons t rest ih =>
      obtain ⟨behind, hitems⟩ := TokenStream.exists_items_eq (TokenStream.ofString s)
      rw [hS, List.append_assoc, List.cons_append] at hitems
      have htake : (TokenStream.ofString s).items.take (before.length + 1) = before ++ [t] := by
        rw [hitems, List.take_length_add_append]
        rfl
      have hk : t.kind ≠ .endOfInput := TokenStream.kind_ne_endOfInput s t (by simp [hS])
      rw [Evaluation.run]
      cases hstep : st.step t with
      | error e =>
          exact Evaluation.pulls_mk (pulls_of_step_eq_error hitems hk hrun hst hstep) htake
      | ok next =>
          have hverdict := step_verdict hst t
          rw [hstep] at hverdict
          cases hverdict with
          | @taken b _ hz hb hx hnext =>
              have hrun' : initial.run (before ++ [t]) = some b := by rw [run_concat hrun, hb]
              have hmore := ih (by simp [hS]) hrun' hnext
              rwa [List.length_append, List.length_singleton] at hmore

/-! ## The records of a line -/

/-- The records of an evaluation that has been given these tokens. -/
def evaluationRecords (s : String) (pulled : List Token) : List Log.Record :=
  pulled.map Log.tokenRecord ++ [Log.verdictRecord s (evaluate s)]

/-- The record of the error, if there is one. -/
def failureRecords (s : String) : List Log.Record :=
  match evaluate s with
  | .ok _ => []
  | .error e => [Log.failureRecord s e]

theorem Reply.records_value (s : String) : (Reply.value s).records =
    evaluationRecords s
      ((TokenStream.ofString s).items.take (Evaluation.ofStream (.ofString s)).read) ++
      failureRecords s := by
  rw [Reply.value, evaluationRecords, failureRecords, evaluate]
  cases (Evaluation.ofStream (TokenStream.ofString s)).result with
  | ok v => exact (List.append_nil _).symm
  | error e => rfl

/-- An evaluation on demand is given these tokens and no others, and its records tell. -/
structure PulledOnce (s : String) (pulled : List Token) : Prop where
  demanded : (Scanner.ofString s).demand .initial = ⟨evaluate s, pulled⟩
  isPrefix : pulled <+: (TokenStream.ofString s).tokens ++ [.endOfInput s.utf8ByteSize]
  kind_ne : ∀ t ∈ (TokenStream.ofString s).tokens, t.kind ≠ .endOfInput
  last : Pulls s (evaluate s) pulled
  records : (Reply.value s).records = evaluationRecords s pulled ++ failureRecords s
  handled : ∀ (session : Session) (line : String), session.config.tokens = false →
    ¬ session.config.AsksNothing line → trimmed line = s →
      (session.handleLine line).1 =
        ⟨.ofValue (evaluate s), evaluationRecords s pulled ++ failureRecords s⟩

theorem TokenStream.items_isPrefix (s : String) :
    (ofString s).items <+: (ofString s).tokens ++ [.endOfInput s.utf8ByteSize] := by
  cases hend : (ofString s).ending with
  | badCharacter ch offset =>
      rw [items, hend]
      exact List.prefix_append _ _
  | endOfInput offset =>
      obtain rfl := eq_utf8ByteSize hend
      exact ⟨[], by rw [items_of_endOfInput hend, List.append_nil]⟩

/-- For every input the tokens are pulled from the scanner one by one, each once, up to the end or
to the token or the character that decides on the error. -/
theorem exists_pulledOnce (s : String) : ∃ pulled, PulledOnce s pulled := by
  obtain ⟨hresult, hread, hpulled⟩ := (Scanner.ofString s).demand_spec .initial 0
  have hleft : (Scanner.ofString s).cursor.left = TokenStream.ofString s := rfl
  rw [hleft] at hresult hread hpulled
  have htake : (TokenStream.ofString s).items.take (Evaluation.ofStream (.ofString s)).read =
      ((Scanner.ofString s).demand .initial).pulled := by
    rw [Evaluation.ofStream, hread, Nat.zero_add]
    exact (List.prefix_iff_eq_take.mp hpulled).symm
  have hlast : (Evaluation.ofStream (.ofString s)).Pulls s :=
    pulls_run (List.nil_append _).symm rfl state_initial
  have hrecords := Reply.records_value s
  rw [htake] at hrecords
  refine ⟨((Scanner.ofString s).demand .initial).pulled,
    { demanded := ?_
      isPrefix := hpulled.trans (TokenStream.items_isPrefix s)
      kind_ne := TokenStream.kind_ne_endOfInput s
      last := ?_
      records := hrecords
      handled := fun session line htokens hasks hline => ?_ }⟩
  · rw [evaluate, Evaluation.ofStream, ← hresult]
  · rwa [Evaluation.Pulls, htake] at hlast
  · obtain ⟨htrim, hexit⟩ := not_or.mp hasks
    subst hline
    have hreply := Config.reply_of_trim_ne_nil (Config.isExit_eq_false_iff.mpr hexit) htrim
    rw [htokens, if_neg Bool.false_ne_true] at hreply
    rw [Session.handleLine, hreply, ← Reply.outcome_value, ← hrecords, trimmed]

end Calculator
