import Calculator.Proofs.Scanner.Joining
import Mathlib.Data.List.Basic

/-!
# Splitting a concatenation

The tokens of two texts one behind the other are those of the first text and, moved behind it,
those of the second. Only where the first text ends with a digit and the second one begins with
one, the last token of the one and the first of the other are one number.
-/

namespace Calculator

open Text (utf8Size)

/-- The first text ends with a digit and the second one begins with one. -/
def DigitsMeet (cs ds : List Char) : Prop :=
  (∃ c ∈ cs.getLast?, c.isDigit = true) ∧ ∃ d ∈ ds.head?, d.isDigit = true

theorem digitsEnd_iff {cs ds : List Char} : DigitsEnd cs ds ↔ ¬ DigitsMeet cs ds := by
  rw [DigitsEnd, DigitsMeet, not_and_or]
  simp only [not_exists, not_and, Bool.not_eq_true]

theorem DigitsMeet.of_append {front cs ds : List Char} (h : DigitsMeet (front ++ cs) ds)
    (hcs : cs ≠ []) : DigitsMeet cs ds := by
  obtain ⟨⟨c, hc, hdigit⟩, hds⟩ := h
  rw [List.getLast?_append_of_ne_nil _ hcs] at hc
  exact ⟨⟨c, hc, hdigit⟩, hds⟩

/-- Blank space in front of which there is a digit is none. -/
theorem AllBlank.eq_nil {blanks cs : List Char} (hb : AllBlank blanks)
    (hdigit : ∃ d ∈ (blanks ++ cs).head?, d.isDigit = true) : blanks = [] := by
  cases blanks with
  | nil => rfl
  | cons b blanks =>
      obtain ⟨d, hd, hdigit⟩ := hdigit
      cases hd
      rw [Text.isDigit_of_isBlank (hb b List.mem_cons_self)] at hdigit
      cases hdigit

section Munch

variable {k : TokenKind} {text rest : List Char}

theorem Munch.eq_number {c : Char} (h : Munch k text rest) (hc : c ∈ text)
    (hdigit : c.isDigit = true) : k = .number := by
  cases h with
  | number => rfl
  | symbol hk =>
      obtain rfl := List.mem_singleton.mp hc
      cases k <;> cases hk <;> cases hdigit

/-- The digits of a number, and those of the number behind it. -/
theorem Munch.digits_append {ds tail : List Char} (h : Munch .number ds tail)
    (hm : Munch .number text rest) : Munch .number (ds ++ text) rest := by
  cases h with
  | symbol hk => cases hk
  | number hne hds _ =>
      cases hm with
      | symbol hk => cases hk
      | number _ htext hrest =>
          refine .number (List.append_ne_nil_of_left_ne_nil hne text) ?_ hrest
          exact List.forall_mem_append.mpr ⟨hds, htext⟩

end Munch

namespace Layout

variable {p q : Nat} {cs ds : List Char} {ts us : List Token} {e : StreamEnd}

theorem of_nil (h : Layout p [] ts e) : ts = [] ∧ e = .endOfInput p := by
  generalize hcs : ([] : List Char) = cs at h
  cases h with
  | finish _ =>
      subst hcs
      exact ⟨rfl, rfl⟩
  | bad _ _ => exact absurd hcs.symm (by simp)
  | token _ hm _ => exact absurd hcs.symm (by simp [hm.ne_nil])

/-- A text that begins with a digit begins with a number. -/
theorem exists_number (h : Layout p ds us e) (hdigit : ∃ d ∈ ds.head?, d.isDigit = true) :
    ∃ text rest vs, ds = text ++ rest ∧ us = ⟨.number, String.ofList text, p⟩ :: vs ∧
      Munch .number text rest ∧ Layout (p + utf8Size text) rest vs e := by
  cases h with
  | finish hb =>
      rw [← List.append_nil ds] at hdigit
      obtain rfl := hb.eq_nil hdigit
      exact absurd hdigit (by simp)
  | bad hb hch =>
      obtain rfl := hb.eq_nil hdigit
      obtain ⟨d, ⟨⟩, hdigit⟩ := hdigit
      exact absurd (.inr (.inl hdigit)) hch
  | token hb hm h =>
      obtain rfl := hb.eq_nil hdigit
      obtain ⟨c, text, rfl⟩ := List.exists_cons_of_ne_nil hm.ne_nil
      obtain ⟨d, ⟨⟩, hdigit⟩ := hdigit
      obtain rfl := hm.eq_number List.mem_cons_self hdigit
      exact ⟨c :: text, _, _, rfl, rfl, hm, h⟩

/-- Where digits meet, the last token of the text in front and the first one of the text behind it
are one number. -/
theorem exists_append_of_digitsMeet (h : Layout p cs ts (.endOfInput q)) (hmeet : DigitsMeet cs ds)
    (hds : Layout q ds us e) : ∃ init x y rest, ts = init ++ [x] ∧ us = y :: rest ∧
      x.kind = .number ∧ y.kind = .number ∧
      Layout p (cs ++ ds) (init ++ { x with text := x.text ++ y.text } :: rest) e := by
  generalize hq : StreamEnd.endOfInput q = ending at h
  induction h with
  | @finish p blanks hb =>
      obtain ⟨⟨c, hc, hdigit⟩, -⟩ := hmeet
      rw [Text.isDigit_of_isBlank (hb c (List.mem_of_mem_getLast? hc))] at hdigit
      cases hdigit
  | bad _ _ => cases hq
  | @token p blanks text rest k ts ending hb hm h ih =>
      by_cases hrest : rest = []
      · subst hrest
        obtain ⟨rfl, rfl⟩ := h.of_nil
        cases hq
        rw [List.append_nil] at hmeet ⊢
        obtain ⟨⟨c, hc, hdigit⟩, hhead⟩ := hmeet.of_append hm.ne_nil
        obtain rfl := hm.eq_number (List.mem_of_mem_getLast? hc) hdigit
        obtain ⟨text', rest, vs, rfl, rfl, hm', hlay⟩ := hds.exists_number hhead
        refine ⟨[], _, _, vs, rfl, rfl, rfl, rfl, ?_⟩
        rw [Nat.add_assoc, ← Text.utf8Size_append] at hlay
        have hwhole := Layout.token hb (hm.digits_append hm') hlay
        rwa [String.ofList_append, List.append_assoc, ← List.append_assoc blanks] at hwhole
      · have hne : text ++ rest ≠ [] := List.append_ne_nil_of_right_ne_nil text hrest
        obtain ⟨init, x, y, us', rfl, rfl, hx, hy, hlay⟩ :=
          ih ((hmeet.of_append hne).of_append hrest) hq
        refine ⟨_ :: init, x, y, us', rfl, rfl, hx, hy, ?_⟩
        have hwhole := Layout.token hb (hm.append fun hnil => absurd hnil hrest) hlay
        rwa [← List.append_assoc text, ← List.append_assoc blanks] at hwhole

/-- Behind a text without a bad character the end of the next text is the end of both. -/
theorem exists_append_of_endOfInput (h : Layout p cs ts (.endOfInput q)) (hds : Layout q ds us e) :
    ∃ vs, Layout p (cs ++ ds) vs e := by
  by_cases hmeet : DigitsMeet cs ds
  · obtain ⟨init, x, y, rest, -, -, -, -, hlay⟩ := h.exists_append_of_digitsMeet hmeet hds
    exact ⟨_, hlay⟩
  · exact ⟨_, h.append (digitsEnd_iff.mpr hmeet) hds⟩

end Layout

/-- A concatenation is split as its parts are: what is wrong with the first text, and then what is
wrong with the second, is wrong with the whole; and otherwise the tokens of the second text, moved
behind the first, follow those of the first, where digits that meet make one number. -/
theorem tokenize_append (s t : String) :
    (∀ e, tokenize s = .error e → tokenize (s ++ t) = .error e) ∧
    (∀ a e, tokenize s = .ok a → tokenize t = .error e →
      ∃ ch offset, e = .badCharacter ch offset ∧
        tokenize (s ++ t) = .error (.badCharacter ch (s.utf8ByteSize + offset))) ∧
    ∀ a b, tokenize s = .ok a → tokenize t = .ok b →
      (¬ DigitsMeet s.toList t.toList →
        tokenize (s ++ t) = .ok (a ++ b.map (Token.shifted s.utf8ByteSize))) ∧
      (DigitsMeet s.toList t.toList →
        ∃ init x y rest, a = init ++ [x] ∧ b = y :: rest ∧ x.kind = .number ∧ y.kind = .number ∧
          tokenize (s ++ t) = .ok (init ++ { x with text := x.text ++ y.text } ::
            rest.map (Token.shifted s.utf8ByteSize))) := by
  refine ⟨?_, ?_, ?_⟩
  · intro e he
    obtain ⟨us, ch, q, rfl, hs⟩ := exists_layout_of_tokenize he
    have hwhole := hs.append_of_bad t.toList
    rw [← String.toList_append] at hwhole
    exact tokenize_of_layout_bad hwhole
  · intro a e ha he
    obtain ⟨us, ch, q, rfl, ht⟩ := exists_layout_of_tokenize he
    obtain ⟨vs, hwhole⟩ :=
      (layout_of_tokenize ha).exists_append_of_endOfInput (ht.shifted s.utf8ByteSize)
    rw [← String.toList_append] at hwhole
    exact ⟨ch, q, rfl, tokenize_of_layout_bad hwhole⟩
  · intro a b ha hb
    have hs := layout_of_tokenize ha
    have ht := (layout_of_tokenize hb).shifted s.utf8ByteSize
    constructor
    · intro hmeet
      have hwhole := hs.append (digitsEnd_iff.mpr hmeet) ht
      rw [← String.toList_append] at hwhole
      exact tokenize_of_layout hwhole
    · intro hmeet
      obtain ⟨init, x, y, rest, rfl, hb', hx, hy, hwhole⟩ := hs.exists_append_of_digitsMeet hmeet ht
      obtain ⟨y, rest, rfl, rfl, rfl⟩ := List.map_eq_cons_iff.mp hb'
      rw [← String.toList_append] at hwhole
      exact ⟨init, x, y, rest, rfl, rfl, hx, hy, tokenize_of_layout hwhole⟩

end Calculator
