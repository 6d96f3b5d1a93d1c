import Calculator.Proofs.Evaluation.Blame
import Calculator.Proofs.Evaluation.Extension
import Calculator.Proofs.Session.Reply
import Calculator.Proofs.Text.Trimming
import Calculator.Session.Basic

/-!
# Blank space at the ends of a line

A session evaluates a line without its blank ends. It has the value of the whole line, or its error
with offsets that count from behind the blank space in front; only the end of the input is where
the line without its blank ends has it.
-/

namespace Calculator

open Text (utf8Size)

/-! ## Errors at other offsets -/

theorem TokenKind.eq_endOfInput {k : TokenKind}
    (h : k.description = TokenKind.endOfInput.description) : k = .endOfInput := by
  cases k with
  | endOfInput => rfl
  | _ => exact absurd h (by decide)

theorem Token.description_ne_endOfInput {t : Token} (h : t.kind ≠ .endOfInput) :
    t.description ≠ TokenKind.endOfInput.description := by
  intro heq
  rw [description] at heq
  split at heq
  · have hhead := congrArg (fun text => text.toList.head?) heq
    simp [TokenKind.description] at hhead
  · exact h (TokenKind.eq_endOfInput heq)

namespace EvalError

variable {e : EvalError}

/-- Where the error is, if it tells. -/
def offset? : EvalError → Option Nat
  | badCharacter _ offset => some offset
  | numberTooLarge _ => none
  | unexpectedToken _ _ offset => some offset
  | unclosedParen openOffset _ => some openOffset
  | trailingInput _ offset => some offset
  | divisionByZero => none

def mapOffset (f : Nat → Nat) : EvalError → EvalError
  | badCharacter ch offset => .badCharacter ch (f offset)
  | numberTooLarge literal => .numberTooLarge literal
  | unexpectedToken expected found offset => .unexpectedToken expected found (f offset)
  | unclosedParen openOffset found => .unclosedParen (f openOffset) found
  | trailingInput found offset => .trailingInput found (f offset)
  | divisionByZero => .divisionByZero

/-- The same error in an input that ends at byte `q`, if it is that an operand is missing at the
end. -/
def endingAt (q : Nat) : EvalError → EvalError
  | unexpectedToken expected found offset =>
    .unexpectedToken expected found (if found = TokenKind.endOfInput.description then q else offset)
  | e => e

theorem Moved.eq_mapOffset {f : Nat → Nat} {e' : EvalError} (h : e.Moved (fun p q => q = f p) e') :
    e' = e.mapOffset f := by
  cases h with
  | badCharacter h => rw [h, mapOffset]
  | numberTooLarge => rfl
  | unexpectedToken h => rw [h, mapOffset]
  | unclosedParen h => rw [h, mapOffset]
  | trailingInput h => rw [h, mapOffset]
  | divisionByZero => rfl

theorem endingAt_of_not_foundEnd (h : ¬ e.FoundEnd) (q : Nat) : e.endingAt q = e := by
  cases e with
  | unexpectedToken expected found offset =>
      have hfound : ¬ found = TokenKind.endOfInput.description := h
      rw [endingAt, if_neg hfound]
  | _ => rfl

/-- From an offset behind `n` bytes the way back. -/
theorem endingAt_mapOffset_sub (e : EvalError) (n p q : Nat) :
    (((e.mapOffset (n + ·)).endingAt p).mapOffset (· - n)).endingAt q = e.endingAt q := by
  cases e with
  | unexpectedToken expected found offset =>
      by_cases h : found = TokenKind.endOfInput.description
      · simp [mapOffset, endingAt, h]
      · simp [mapOffset, endingAt, h]
  | _ => simp [mapOffset, endingAt]

theorem le_offset_of_mem {n p : Nat} (hp : n ≤ p) :
    ∀ o ∈ ((e.mapOffset (n + ·)).endingAt p).offset?, n ≤ o := by
  intro o ho
  cases e with
  | unexpectedToken expected found offset =>
      simp only [mapOffset, endingAt, offset?, Option.mem_some_iff] at ho
      split at ho <;> omega
  | _ => cases ho <;> exact Nat.le_add_right _ _

theorem Blames.not_foundEnd {t : Token} (h : e.Blames t) (ht : t.kind ≠ .endOfInput) :
    ¬ e.FoundEnd := by
  cases h with
  | zeroDivisor => exact id
  | tooLarge => exact id
  | noOperand => exact Token.description_ne_endOfInput ht
  | unclosed _ => exact Token.description_ne_endOfInput ht
  | trailing => exact Token.description_ne_endOfInput ht

end EvalError

/-! ## Evaluation of a text with blank ends -/

theorem SameOutcome.eq_mapError {f : Nat → Nat} {x y : Except EvalError Binary64}
    (h : SameOutcome (fun p q => q = f p) x y) : y = x.mapError (.mapOffset f) := by
  cases h with
  | ok h => rw [h, Except.mapError]
  | error h => rw [h.eq_mapOffset, Except.mapError]

theorem TokenStream.moved_blanks_append {front : String} (h : AllBlank front.toList) (s : String) :
    (ofString s).Moved (fun p q => q = front.utf8ByteSize + p) (ofString (front ++ s)) := by
  have hlay := (layout_ofString s).shifted front.utf8ByteSize
  have hsize : front.utf8ByteSize + 0 = 0 + utf8Size front.toList := by
    rw [Text.utf8Size_toList, Nat.add_comm]
  have hwhole := hlay.blanks_append h hsize
  rw [← String.toList_append] at hwhole
  rw [ofString_eq_of_layout hwhole]
  constructor
  · rw [List.forall₂_map_right_iff, List.forall₂_same]
    intro t _
    exact ⟨rfl, rfl, rfl⟩
  · cases (ofString s).ending with
    | endOfInput offset => exact .endOfInput rfl
    | badCharacter ch offset => exact .badCharacter rfl

theorem evaluate_blanks_append {front : String} (h : AllBlank front.toList) (s : String) :
    evaluate (front ++ s) = (evaluate s).mapError (.mapOffset (front.utf8ByteSize + ·)) :=
  (sameOutcome_of_moved (TokenStream.moved_blanks_append h s)).eq_mapError

/-- Where the input ends matters only for an operand that is missing there. -/
theorem EvalState.finish_eq_mapError (st : EvalState) (p q : Nat) :
    st.finish q = (st.finish p).mapError (.endingAt q) := by
  cases st with
  | operand ctx =>
      have hfound : (Token.endOfInput p).description = TokenKind.endOfInput.description := rfl
      rw [finish, finish, Except.mapError, EvalError.endingAt, if_pos hfound]
      rfl
  | operator ctx y =>
      rw [finish, finish]
      cases hx : ctx.waiting.product? y with
      | error e =>
          rw [Waiting.eq_divisionByZero hx]
          rfl
      | ok x =>
          rw [ok_bind, ok_bind]
          obtain ⟨waiting, levels⟩ := ctx
          cases levels <;> rfl

theorem evaluate_append_blanks {behind : String} (h : AllBlank behind.toList) (s : String) :
    evaluate (s ++ behind) = (evaluate s).mapError (.endingAt (s ++ behind).utf8ByteSize) := by
  have hlay := TokenStream.layout_ofString s
  have hwhole := hlay.append_blanks h
  rw [← String.toList_append] at hwhole
  rw [evaluate_eq, evaluate_eq s, TokenStream.ofString_eq_of_layout hwhole]
  cases hrun : (TokenStream.ofString s).tokens.foldlM EvalState.step .initial with
  | error e =>
      obtain ⟨t, ht, hblames⟩ := EvalState.blames_of_foldlM hrun
      have hfound := hblames.not_foundEnd (TokenStream.kind_ne_endOfInput s t ht)
      exact congrArg Except.error (EvalError.endingAt_of_not_foundEnd hfound _).symm
  | ok st =>
      rw [ok_bind, ok_bind]
      cases hending : (TokenStream.ofString s).ending with
      | badCharacter ch offset => rfl
      | endOfInput offset =>
          rw [hending] at hwhole
          have hoffset := hwhole.endOfInput_eq
          rw [Nat.zero_add, Text.utf8Size_toList (s ++ behind)] at hoffset
          rw [← hoffset]
          exact st.finish_eq_mapError _ _

theorem evaluate_eq_mapError (s : String) :
    evaluate s = (evaluate s).mapError (.endingAt s.utf8ByteSize) := by
  have hblank : AllBlank "".toList := AllBlank.nil
  have h := evaluate_append_blanks hblank s
  rwa [String.append_empty] at h

theorem evaluate_blank_ends {front behind : String} (hfront : AllBlank front.toList)
    (hbehind : AllBlank behind.toList) (s : String) : evaluate (front ++ s ++ behind) =
      (evaluate s).mapError fun e =>
        (e.mapOffset (front.utf8ByteSize + ·)).endingAt (front ++ s ++ behind).utf8ByteSize := by
  rw [evaluate_append_blanks hbehind, evaluate_blanks_append hfront]
  cases evaluate s <;> rfl

/-! ## Lines and what is between their blank ends -/

/-- The bytes of the blank space in front. -/
def indentation (line : String) : Nat := utf8Size (line.toList.takeWhile Text.isBlank)

def trimmed (line : String) : String := String.ofList (Text.trim line.toList)

theorem exists_eq_append_trimmed (line : String) : ∃ front behind : String,
    AllBlank front.toList ∧ AllBlank behind.toList ∧ line = front ++ trimmed line ++ behind ∧
      front.utf8ByteSize = indentation line := by
  obtain ⟨behind, hbehind, hline⟩ := Text.exists_eq_append_trim line.toList
  refine ⟨String.ofList (line.toList.takeWhile Text.isBlank), String.ofList behind, ?_, ?_, ?_, ?_⟩
  · rw [String.toList_ofList]
    exact fun c hc => List.mem_takeWhile_imp hc
  · rwa [String.toList_ofList]
  · rw [trimmed, ← String.ofList_append, ← String.ofList_append, List.append_assoc, ← hline,
      String.ofList_toList]
  · rw [← Text.utf8Size_toList, String.toList_ofList, indentation]

theorem indentation_le (line : String) : indentation line ≤ line.utf8ByteSize := by
  obtain ⟨front, behind, -, -, hline, hsize⟩ := exists_eq_append_trimmed line
  have hbytes := congrArg String.utf8ByteSize hline
  rw [String.utf8ByteSize_append, String.utf8ByteSize_append] at hbytes
  omega

theorem evaluate_trimmed (line : String) : evaluate line =
    (evaluate (trimmed line)).mapError fun e =>
      (e.mapOffset (indentation line + ·)).endingAt line.utf8ByteSize := by
  obtain ⟨front, behind, hfront, hbehind, hline, hsize⟩ := exists_eq_append_trimmed line
  have heval := evaluate_blank_ends hfront hbehind (trimmed line)
  rwa [← hline, hsize] at heval

namespace Outcome

variable {r : Except EvalError Binary64}

theorem ofValue_eq_value_iff {v : Binary64} : ofValue r = .value v ↔ r = .ok v := by
  cases r <;> simp [ofValue]

theorem ofValue_eq_failure_iff {e : EvalError} : ofValue r = .failure e ↔ r = .error e := by
  cases r <;> simp [ofValue]

end Outcome

namespace Session

variable (s : Session)

/-- A line that is to be evaluated has the value of the whole line, or its error as it is behind the
blank space in front and, at the end of the input, without the blank space there. Blank space more
or less at the ends of any line makes no difference. -/
theorem handleLine_of_blank_ends (line : String) :
    (s.config.tokens = false → ¬ s.config.AsksNothing line →
      (∀ v, (s.handleLine line).1.outcome = .value v ↔ evaluate line = .ok v) ∧
      ∀ e, (s.handleLine line).1.outcome = .failure e ↔
        ∃ e', evaluate line = .error e' ∧ (∀ offset ∈ e'.offset?, indentation line ≤ offset) ∧
          e = (e'.mapOffset (· - indentation line)).endingAt (trimmed line).utf8ByteSize) ∧
    ∀ front behind : String, AllBlank front.toList → AllBlank behind.toList →
      s.handleLine (front ++ line ++ behind) = s.handleLine line := by
  refine ⟨fun htokens hasks => ?_, fun front behind hfront hbehind => ?_⟩
  · have houtcome : (s.handleLine line).1.outcome = .ofValue (evaluate (trimmed line)) := by
      rw [handleLine, Config.outcome_of_not_asksNothing hasks, if_neg (by simp [htokens]), trimmed]
    have hend := evaluate_eq_mapError (trimmed line)
    rw [houtcome, evaluate_trimmed line]
    simp only [Outcome.ofValue_eq_value_iff, Outcome.ofValue_eq_failure_iff]
    cases hvalue : evaluate (trimmed line) with
    | ok x => simp [Except.mapError]
    | error e =>
        rw [hvalue] at hend
        have hsame : e = e.endingAt (trimmed line).utf8ByteSize := Except.error.inj hend
        refine ⟨fun v => iff_of_false nofun nofun, fun e₁ => ⟨?_, ?_⟩⟩
        · rintro ⟨⟩
          refine ⟨_, rfl, EvalError.le_offset_of_mem (indentation_le line), ?_⟩
          rwa [EvalError.endingAt_mapOffset_sub]
        · rintro ⟨e', ⟨⟩, -, rfl⟩
          rw [EvalError.endingAt_mapOffset_sub, ← hsame]
  · have htrim : Text.trim (front ++ line ++ behind).toList = Text.trim line.toList := by
      rw [String.toList_append, String.toList_append, Text.trim_append_blanks hbehind,
        Text.trim_blanks_append hfront]
    rw [handleLine, handleLine, Config.reply_of_trim_eq htrim]

theorem handleLine_of_blank_ends_unfinished :
    let s := Session.new .default
    s.config.tokens = false ∧ ¬ s.config.AsksNothing "\u3000 (2+ " ∧
      evaluate "\u3000 (2+ " = .error (.unexpectedToken [.number, .leftParen] "end of input" 8) ∧
      (s.handleLine "\u3000 (2+ ").1.outcome =
        .failure (.unexpectedToken [.number, .leftParen] "end of input" 3) ∧
      s.handleLine ("\t" ++ "\u3000 (2+ " ++ "\u00a0") = s.handleLine "\u3000 (2+ " := by
  intro s
  have hasks : ¬ s.config.AsksNothing "\u3000 (2+ " := by decide
  have heval : evaluate "\u3000 (2+ " =
      .error (.unexpectedToken [.number, .leftParen] "end of input" 8) := by decide +kernel
  obtain ⟨hevaluated, hblank⟩ := s.handleLine_of_blank_ends "\u3000 (2+ "
  refine ⟨rfl, hasks, heval, ?_, ?_⟩
  · exact ((hevaluated rfl hasks).2 _).mpr ⟨_, heval, by decide, by decide⟩
  · exact hblank "\t" "\u00a0" (by simp [AllBlank, Text.isBlank]) (by simp [AllBlank, Text.isBlank])

end Session

end Calculator
