import Calculator.Proofs.Evaluation.Blame
import Calculator.Proofs.Session.Reply
import Calculator.Proofs.Text.Shown

/-!
# Answers of one line

No answer of a session has a line break in it. A value is written with digits and a few signs, and
a message quotes tokens of the line, which have no control character in them. The one character
that a message quotes as it is has no place in an expression, so it is not blank, as all characters
are that break a line.
-/

namespace Calculator

/-- Neither a line feed nor a carriage return is in the text. -/
def OneLine (s : String) : Prop := ∀ c ∈ s.toList, c ≠ '\n' ∧ c ≠ '\r'

instance (s : String) : Decidable (OneLine s) :=
  List.decidableBAll (fun c => c ≠ '\n' ∧ c ≠ '\r') s.toList

namespace OneLine

variable {s t : String}

theorem append (hs : OneLine s) (ht : OneLine t) : OneLine (s ++ t) := by
  intro c hc
  rw [String.toList_append, List.mem_append] at hc
  exact hc.elim (hs c) (ht c)

theorem of_not_isBlank {ch : Char} (h : Text.isBlank ch = false) : OneLine ch.toString := by
  intro c hc
  rw [Char.toString_eq_singleton, String.toList_singleton, List.mem_singleton] at hc
  subst hc
  constructor
  · rintro rfl
    exact absurd h (by decide)
  · rintro rfl
    exact absurd h (by decide)

theorem lineFeed_not_mem (h : OneLine s) : '\n' ∉ s.toList := fun hmem => (h _ hmem).1 rfl

end OneLine

theorem AllShown.oneLine {s : String} (h : AllShown s) : OneLine s := by
  intro c hc
  have hshown := h c hc
  constructor
  · rintro rfl
    exact absurd hshown (by decide)
  · rintro rfl
    exact absurd hshown (by decide)

/-! ## Values -/

theorem Decimal.allShown_text (d : Decimal) : AllShown d.text := by
  have hdigits : ∀ c ∈ Nat.toDigits 10 d.coefficient, IsShown c := by
    intro c hc
    exact .of_mem_toDigits (by decide) (by decide) hc
  have hzeros : ∀ n, ∀ c ∈ List.replicate n '0', IsShown c := by
    intro n c hc
    rw [List.eq_of_mem_replicate hc]
    decide
  rw [text]
  split
  · decide
  · dsimp only
    split
    · rw [AllShown.ofList_iff, List.forall_mem_append]
      exact ⟨hdigits, hzeros _⟩
    · split
      · rw [AllShown.ofList_iff, List.forall_mem_append, List.forall_mem_cons]
        refine ⟨fun c hc => hdigits c (List.mem_of_mem_take hc), by decide, fun c hc => ?_⟩
        exact hdigits c (List.mem_of_mem_drop hc)
      · rw [AllShown.ofList_iff, List.cons_append, List.forall_mem_cons, List.cons_append,
          List.forall_mem_cons, List.forall_mem_append]
        exact ⟨by decide, by decide, hzeros _, hdigits⟩

namespace Binary64

theorem allShown_signText (s : Bool) : AllShown (signText s) := by
  cases s <;> decide

theorem allShown_answerText (x : Binary64) : AllShown x.answerText := by
  cases x with
  | finite s m =>
      rw [answerText]
      split
      · exact (allShown_signText _).append (.natText _)
      · exact (allShown_signText s).append m.shortest.allShown_text
  | infinite s => exact (allShown_signText s).append (by decide)
  | nan => decide

theorem allShown_plainText (x : Binary64) : AllShown x.plainText := by
  cases x with
  | finite s m => exact (allShown_signText s).append m.shortest.allShown_text
  | infinite s => exact (allShown_signText s).append (by decide)
  | nan => decide

end Binary64

/-! ## Tokens -/

theorem Munch.isShown {k : TokenKind} {text rest : List Char} (h : Munch k text rest) :
    ∀ c ∈ text, IsShown c := by
  cases h with
  | number _ hds _ => exact fun c hc => .of_isDigit (hds c hc)
  | symbol hc =>
      rw [List.forall_mem_singleton]
      cases k <;> cases hc <;> decide

theorem TokenStream.allShown_text (s : String) : ∀ t ∈ (ofString s).tokens, AllShown t.text := by
  intro t ht
  obtain ⟨before, after, -, hm, -⟩ := exists_spans s t ht
  exact hm.isShown

namespace TokenKind

theorem allShown_name (k : TokenKind) : AllShown k.name := by
  cases k <;> decide

theorem allShown_description (k : TokenKind) : AllShown k.description := by
  cases k <;> decide

end TokenKind

namespace Token

variable {t : Token}

theorem allShown_listed (h : AllShown t.text) : AllShown t.listed :=
  ((t.kind.allShown_name.append (by decide)).append h).append (by decide)

theorem allShown_description (h : AllShown t.text) : AllShown t.description := by
  rw [description]
  split
  · exact AllShown.append (by decide) h
  · exact t.kind.allShown_description

end Token

theorem allShown_listing {ts : List Token} (h : ∀ t ∈ ts, AllShown t.text) :
    AllShown (listing ts) := by
  apply AllShown.intercalate (by decide)
  intro text htext
  obtain ⟨t, ht, rfl⟩ := List.mem_map.mp htext
  exact Token.allShown_listed (h t ht)

/-! ## Errors -/

namespace EvalError

theorem allShown_alternatives (ks : List TokenKind) : AllShown (alternatives ks) := by
  unfold alternatives
  split
  · decide
  · exact TokenKind.allShown_description _
  · refine .append (.append (.intercalate (by decide) fun text htext => ?_) (by decide)) ?_
    · obtain ⟨k, -, rfl⟩ := List.mem_map.mp htext
      exact k.allShown_description
    · exact TokenKind.allShown_description _

theorem Blames.allShown_message {t : Token} {e : EvalError} (h : e.Blames t)
    (ht : AllShown t.text) : AllShown e.message := by
  have hdescription := Token.allShown_description ht
  have halternatives := allShown_alternatives EvalState.operandStart
  cases h with
  | zeroDivisor => decide
  | tooLarge => exact .append (by decide) ht
  | noOperand =>
      exact .append (.append (.append (.append (.append (by decide) halternatives) (by decide))
        hdescription) (by decide)) (.natText _)
  | unclosed openOffset =>
      exact .append (.append (.append (by decide) (.natText openOffset)) (by decide)) hdescription
  | trailing =>
      exact .append (.append (.append (by decide) hdescription) (by decide)) (.natText _)

/-- The message shows, or else it is about a character without a place, which is not blank. -/
inductive Quotes : EvalError → Prop where
  | shown {e : EvalError} (h : AllShown e.message) : Quotes e
  | character {ch : Char} (offset : Nat) (h : Text.isBlank ch = false) :
      Quotes (.badCharacter ch offset)

theorem Quotes.oneLine_message {e : EvalError} (h : e.Quotes) : OneLine e.message := by
  cases h with
  | shown h => exact h.oneLine
  | character offset h =>
      exact .append (.append (.append (by decide) (.of_not_isBlank h)) (by decide))
        (AllShown.natText offset).oneLine

end EvalError

theorem TokenStream.isBlank_of_ending {s : String} {ch : Char} {offset : Nat}
    (h : (ofString s).ending = .badCharacter ch offset) : Text.isBlank ch = false := by
  have haccounts := ending_accounts s
  rw [h] at haccounts
  obtain ⟨-, -, -, -, hch, -⟩ := haccounts
  simpa using fun hblank => hch (.inl hblank)

theorem TokenStream.Fails.quotes {s : String} {e : EvalError} (h : (ofString s).Fails e) :
    e.Quotes := by
  cases h with
  | token ht _ hblames => exact .shown (hblames.allShown_message (allShown_text s _ ht))
  | finish _ hblames => exact .shown (hblames.allShown_message .empty)
  | bad hend he =>
      subst he
      exact .character _ (isBlank_of_ending hend)

end Calculator
