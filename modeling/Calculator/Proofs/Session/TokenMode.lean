import Calculator.Proofs.Evaluation.Blame
import Calculator.Proofs.Evaluation.Extension
import Calculator.Proofs.Session.Listing
import Calculator.Proofs.Session.Reply
import Calculator.Session.Basic

/-!
# Token mode and evaluation mode

A line is split into all its tokens in token mode, and read no further than needed in evaluation
mode. So the two modes differ on a line that cannot be split only when its evaluation fails before
the bad character. Where it has a value, the listing has all that the value depends on.
-/

namespace Calculator

open Text (utf8Size)

/-! ## Up to a bad character -/

theorem Layout.exists_cut {p q : Nat} {cs : List Char} {ts : List Token} {ch : Char}
    (h : Layout p cs ts (.badCharacter ch q)) : ∃ before after, cs = before ++ ch :: after ∧
      q = p + utf8Size before ∧ Layout p before ts (.endOfInput q) := by
  generalize hending : StreamEnd.badCharacter ch q = ending at h
  induction h with
  | finish _ => cases hending
  | @bad p blanks rest ch' hb hch =>
      cases hending
      exact ⟨blanks, rest, rfl, rfl, .finish hb⟩
  | @token p blanks text rest k ts ending hb hm h ih =>
      obtain ⟨before, after, rfl, rfl, hlay⟩ := ih hending
      refine ⟨blanks ++ (text ++ before), after, by simp, ?_, .token hb hm.of_append hlay⟩
      rw [Text.utf8Size_append, Text.utf8Size_append]
      omega

/-- However the text goes on, unless with a digit, its evaluation fails with this error. -/
def SettledBy (before : List Char) (e : EvalError) : Prop :=
  ∀ more, (∀ c ∈ more.head?, c.isDigit = false) →
    evaluate (String.ofList (before ++ more)) = .error e

theorem settledBy_of_foldlM {before : List Char} {ts : List Token} {q : Nat} {e : EvalError}
    (h : Layout 0 before ts (.endOfInput q))
    (hrun : ts.foldlM EvalState.step .initial = .error e) : SettledBy before e := by
  intro more hmore
  rw [← String.toList_ofList (l := before)] at h
  rw [String.ofList_append]
  apply evaluate_append_of_foldlM
  · rw [TokenStream.ofString_eq_of_layout h]
    exact hrun
  · rw [String.toList_ofList, String.toList_ofList]
    exact .inr hmore

/-! ## The two modes on one text -/

/-- What the evaluation of a text and its split into tokens can come to. -/
inductive ModesAgree (s : String) :
    Except EvalError Binary64 → Except EvalError (List Token) → Prop where
  /-- There is a value, and it is the value of the listed texts too. -/
  | value {v : Binary64} {ts : List Token}
      (h : evaluate (" ".intercalate (listedTexts (listing ts))) = .ok v) :
      ModesAgree s (.ok v) (.ok ts)
  /-- There are tokens, but no value, and every character has its place. -/
  | invalid {e : EvalError} {ts : List Token} (h : ∀ ch offset, e ≠ .badCharacter ch offset) :
      ModesAgree s (.error e) (.ok ts)
  /-- A character without a place fails both. -/
  | lexical (ch : Char) (offset : Nat) :
      ModesAgree s (.error (.badCharacter ch offset)) (.error (.badCharacter ch offset))
  /-- The evaluation fails on account of the text before the character without a place. -/
  | earlier {e : EvalError} {before after : List Char} {ch : Char}
      (hs : s.toList = before ++ ch :: after) (h : SettledBy before e)
      (he : ∀ ch offset, e ≠ .badCharacter ch offset) :
      ModesAgree s (.error e) (.error (.badCharacter ch (utf8Size before)))

theorem space_not_mem_of_tokenize {s : String} {ts : List Token} (h : tokenize s = .ok ts) :
    ∀ t ∈ ts, ' ' ∉ t.text.toList := by
  have hspaces := TokenStream.space_not_mem_text s
  rwa [tokens_of_tokenize h] at hspaces

theorem evaluate_listedTexts {s : String} {ts : List Token} {v : Binary64}
    (hv : evaluate s = .ok v) (hts : tokenize s = .ok ts) :
    evaluate (" ".intercalate (listedTexts (listing ts))) = .ok v := by
  obtain ⟨ts', hts', e, he, hvalue⟩ := exists_tree_of_evaluate hv
  obtain rfl : ts' = ts := Except.ok.inj (hts'.symm.trans hts)
  obtain ⟨us, q, hus, htexts⟩ := TokenStream.exists_of_texts s
  rw [tokens_of_tokenize hts] at hus htexts
  have hus' : tokenize (" ".intercalate (ts'.map Token.text)) = .ok us :=
    tokenize_eq_ok_iff.mpr ⟨q, htexts⟩
  rw [intercalate_listedTexts (space_not_mem_of_tokenize hts),
    evaluate_eq_value hus' (hus.trans he.symm), hvalue]

theorem modesAgree (s : String) : ModesAgree s (evaluate s) (tokenize s) := by
  cases hts : tokenize s with
  | ok ts =>
      cases hv : evaluate s with
      | ok v => exact .value (evaluate_listedTexts hv hts)
      | error e =>
          obtain ⟨offset, hstream⟩ := tokenize_eq_ok_iff.mp hts
          refine .invalid ?_
          cases fails_of_evaluate hv with
          | token _ _ hblames => exact hblames.ne_badCharacter
          | finish _ hblames => exact hblames.ne_badCharacter
          | bad hend _ =>
              rw [hstream] at hend
              cases hend
  | error e' =>
      obtain ⟨ch, offset, hend, rfl⟩ := ending_of_tokenize hts
      cases hv : evaluate s with
      | ok v =>
          obtain ⟨ts, hts', -⟩ := exists_tree_of_evaluate hv
          rw [hts] at hts'
          cases hts'
      | error e =>
          cases fails_of_evaluate hv with
          | token _ hrun hblames =>
              have hlay := TokenStream.layout_ofString s
              rw [hend] at hlay
              obtain ⟨before, after, hs, hoffset, hbefore⟩ := hlay.exists_cut
              rw [Nat.zero_add] at hoffset
              rw [hoffset]
              exact .earlier hs (settledBy_of_foldlM hbefore hrun) hblames.ne_badCharacter
          | finish hend' _ =>
              rw [hend] at hend'
              cases hend'
          | bad hend' he =>
              rw [hend] at hend'
              cases hend'
              rw [he]
              exact .lexical ch offset

/-! ## The two modes on one line -/

theorem tokenize_of_trim {s : String} {ts : List Token}
    (h : tokenize (String.ofList (Text.trim s.toList)) = .ok ts) :
    ∃ ts', tokenize s = .ok ts' ∧ ts'.map Token.lexeme = ts.map Token.lexeme := by
  obtain ⟨offset, hstream⟩ := tokenize_eq_ok_iff.mp h
  obtain ⟨behind, hs⟩ := TokenStream.ofString_eq_trim s
  rw [hstream] at hs
  refine ⟨_, tokenize_eq_ok_iff.mpr ⟨_, hs⟩, ?_⟩
  rw [List.map_map, Token.lexeme_comp_shifted]

namespace Session

/-- The outcome of a line in token mode or in evaluation mode, with settings otherwise the same. -/
def outcomeIn (tokens : Bool) (c : Config) (k : Counters) (line : String) : Outcome :=
  ((Session.mk { c with tokens := tokens } k).handleLine line).1.outcome

section Outcomes

variable {c : Config} {line : String}

theorem outcomeIn_of_isExit (h : c.isExit line = true) (tokens : Bool) (k : Counters) :
    outcomeIn tokens c k line = .exit :=
  congrArg Reply.outcome (Config.reply_of_isExit (c := { c with tokens := tokens }) h)

theorem outcomeIn_of_trim_eq_nil (h : c.isExit line = false) (htrim : Text.trim line.toList = [])
    (tokens : Bool) (k : Counters) : outcomeIn tokens c k line = .skip :=
  congrArg Reply.outcome (Config.reply_of_trim_eq_nil (c := { c with tokens := tokens }) h htrim)

theorem outcomeIn_of_trim_ne_nil (h : c.isExit line = false) (htrim : Text.trim line.toList ≠ [])
    (tokens : Bool) (k : Counters) : outcomeIn tokens c k line =
      if tokens then .ofTokens (tokenize (String.ofList (Text.trim line.toList)))
      else .ofValue (evaluate (String.ofList (Text.trim line.toList))) :=
  Config.outcome_of_not_asksNothing (c := { c with tokens := tokens })
    (not_or.mpr ⟨htrim, Config.isExit_eq_false_iff.mp h⟩)

theorem tokenize_of_outcomeIn {k : Counters} {listed : String}
    (h : outcomeIn true c k line = .tokens listed) :
    ∃ ts, tokenize (String.ofList (Text.trim line.toList)) = .ok ts ∧ listing ts = listed := by
  by_cases hexit : c.isExit line = true
  · rw [outcomeIn_of_isExit hexit] at h
    cases h
  · have hexit' : c.isExit line = false := by simpa using hexit
    by_cases htrim : Text.trim line.toList = []
    · rw [outcomeIn_of_trim_eq_nil hexit' htrim] at h
      cases h
    · rw [outcomeIn_of_trim_ne_nil hexit' htrim, if_pos rfl] at h
      cases hts : tokenize (String.ofList (Text.trim line.toList)) with
      | ok ts =>
          rw [hts] at h
          cases h
          exact ⟨ts, rfl, rfl⟩
      | error e =>
          rw [hts] at h
          cases h

end Outcomes

/-- Sessions that differ in the mode skip the same lines, end at the same lines, and agree on what
they make of the others. In token mode lines with the same answer have the same tokens. -/
theorem token_mode_agrees (c : Config) (k k' : Counters) :
    (∀ line,
      (outcomeIn false c k line = .skip ∧ outcomeIn true c k' line = .skip) ∨
      (outcomeIn false c k line = .exit ∧ outcomeIn true c k' line = .exit) ∨
      ∃ inner : String, inner.toList = Text.trim line.toList ∧
        ModesAgree inner (evaluate inner) (tokenize inner) ∧
        outcomeIn false c k line = .ofValue (evaluate inner) ∧
        outcomeIn true c k' line = .ofTokens (tokenize inner)) ∧
    ∀ line line' listed, outcomeIn true c k line = .tokens listed →
      outcomeIn true c k' line' = .tokens listed →
      ∃ ts ts', tokenize line = .ok ts ∧ tokenize line' = .ok ts' ∧
        ts.map Token.lexeme = ts'.map Token.lexeme := by
  constructor
  · intro line
    by_cases hexit : c.isExit line = true
    · exact .inr (.inl ⟨outcomeIn_of_isExit hexit false k, outcomeIn_of_isExit hexit true k'⟩)
    · have hexit' : c.isExit line = false := by simpa using hexit
      by_cases htrim : Text.trim line.toList = []
      · exact .inl ⟨outcomeIn_of_trim_eq_nil hexit' htrim false k,
          outcomeIn_of_trim_eq_nil hexit' htrim true k'⟩
      · exact .inr (.inr ⟨_, String.toList_ofList, modesAgree _,
          outcomeIn_of_trim_ne_nil hexit' htrim false k,
          outcomeIn_of_trim_ne_nil hexit' htrim true k'⟩)
  · intro line line' listed h h'
    obtain ⟨us, hus, hlisted⟩ := tokenize_of_outcomeIn h
    obtain ⟨us', hus', hlisted'⟩ := tokenize_of_outcomeIn h'
    obtain ⟨ts, hts, hlexemes⟩ := tokenize_of_trim hus
    obtain ⟨ts', hts', hlexemes'⟩ := tokenize_of_trim hus'
    refine ⟨ts, ts', hts, hts', ?_⟩
    rw [hlexemes, hlexemes']
    exact lexemes_eq_of_listing_eq (space_not_mem_of_tokenize hus)
      (space_not_mem_of_tokenize hus') (hlisted.trans hlisted'.symm)

end Session

end Calculator
