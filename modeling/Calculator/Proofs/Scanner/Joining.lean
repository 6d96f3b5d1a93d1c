import Calculator.Proofs.Scanner.Tiling
import Calculator.Proofs.Scanner.Trimming

/-!
# Joined texts

When a text is followed by another one, its tokens stay what they are, unless it ends with a digit
and the other begins with one. Behind the tokens of a text without a bad character come those of
the other; behind a bad character nothing more is read.
-/

namespace Calculator

open Text (utf8Size)

variable {k : TokenKind} {text rest more : List Char}

theorem Munch.append (h : Munch k text rest)
    (hmore : rest = [] → k = .number → ∀ c ∈ more.head?, c.isDigit = false) :
    Munch k text (rest ++ more) := by
  cases h with
  | symbol hk => exact .symbol hk
  | number hne hds hrest =>
      refine .number hne hds ?_
      intro c hc
      cases rest with
      | nil => exact hmore rfl rfl c hc
      | cons d rest => exact hrest c hc

theorem Munch.of_append (h : Munch k text (rest ++ more)) : Munch k text rest := by
  cases h with
  | symbol hk => exact .symbol hk
  | number hne hds hrest =>
      refine .number hne hds ?_
      intro c hc
      cases rest with
      | nil => cases hc
      | cons d rest => exact hrest c hc

theorem DigitsEnd.of_append {front cs ds : List Char} (h : DigitsEnd (front ++ cs) ds) :
    DigitsEnd cs ds := by
  rcases h with hfront | hds
  · left
    intro c hc
    apply hfront
    rw [List.getLast?_append, Option.mem_def.mp hc, Option.some_or]
    rfl
  · exact .inr hds

theorem DigitsEnd.isDigit_head {text ds : List Char} (h : DigitsEnd text ds)
    (hm : Munch .number text []) : ∀ c ∈ ds.head?, c.isDigit = false := by
  rcases h with htext | hds
  · cases hm with
    | symbol hk => cases hk
    | number hne hdigits _ =>
        have hlast := htext _ (List.getLast?_eq_some_getLast hne)
        rw [hdigits _ (List.getLast_mem hne)] at hlast
        cases hlast
  · exact hds

namespace Layout

variable {p q : Nat} {cs ds : List Char} {ts us : List Token} {e : StreamEnd} {ch : Char}

theorem munch (hm : Munch k text rest) (h : Layout (p + utf8Size text) rest ts e) :
    Layout p (text ++ rest) (⟨k, String.ofList text, p⟩ :: ts) e := by
  exact Layout.token AllBlank.nil hm h

theorem symbol {c : Char} (hc : k.symbol? = some c) (h : Layout (p + c.utf8Size) cs ts e) :
    Layout p (c :: cs) (⟨k, String.ofList [c], p⟩ :: ts) e := by
  have hsize : utf8Size [c] = c.utf8Size := by simp
  rw [← hsize] at h
  exact Layout.munch (.symbol hc) h

/-- Behind a text that is read to its end the tokens go on with those of the next text. -/
theorem append (h : Layout p cs ts (.endOfInput q)) (hend : DigitsEnd cs ds)
    (hds : Layout q ds us e) : Layout p (cs ++ ds) (ts ++ us) e := by
  generalize hq : StreamEnd.endOfInput q = ending at h
  induction h with
  | finish hb =>
      cases hq
      exact hds.blanks_append hb rfl
  | bad _ _ => cases hq
  | @token p blanks text rest k ts ending hb hm h ih =>
      have hmore : rest = [] → k = .number → ∀ c ∈ ds.head?, c.isDigit = false := by
        rintro rfl rfl
        rw [List.append_nil] at hend
        exact hend.of_append.isDigit_head hm
      have hrest := ih hend.of_append.of_append hq
      have hlay := Layout.token hb (hm.append hmore) hrest
      rwa [← List.append_assoc text, ← List.append_assoc blanks] at hlay

/-- Behind a bad character it does not matter how the text goes on. -/
theorem append_of_bad (h : Layout p cs ts (.badCharacter ch q)) (ds : List Char) :
    Layout p (cs ++ ds) ts (.badCharacter ch q) := by
  generalize hq : StreamEnd.badCharacter ch q = ending at h ⊢
  induction h with
  | finish _ => cases hq
  | @bad p blanks rest ch' hb hch =>
      have hlay := @Layout.bad p blanks (rest ++ ds) ch' hb hch
      rwa [← List.cons_append, ← List.append_assoc] at hlay
  | @token p blanks text rest k ts ending hb hm h ih =>
      have hmore : rest = [] → k = .number → ∀ c ∈ ds.head?, c.isDigit = false := by
        rintro rfl
        obtain ⟨before, after, hnil, -⟩ := (hq ▸ h.ending_accounts :
          StreamEnd.Accounts _ _ (.badCharacter ch q))
        exact (List.append_ne_nil_of_right_ne_nil before (List.cons_ne_nil ch after) hnil.symm).elim
      have hlay := Layout.token hb (hm.append hmore) (ih hq)
      rwa [← List.append_assoc text, ← List.append_assoc blanks] at hlay

/-! ## Where tokens and ending stand -/

theorem offset_le (h : Layout p cs ts e) : ∀ t ∈ ts, t.offset ≤ p + utf8Size cs := by
  induction h with
  | finish _ => exact fun t ht => absurd ht List.not_mem_nil
  | bad _ _ => exact fun t ht => absurd ht List.not_mem_nil
  | token _ _ _ ih =>
      intro t ht
      simp only [Text.utf8Size_append]
      rcases List.mem_cons.mp ht with rfl | ht
      · simp only
        omega
      · have := ih t ht
        omega

theorem endOfInput_eq (h : Layout p cs ts (.endOfInput q)) : q = p + utf8Size cs :=
  h.ending_accounts.2

theorem badCharacter_le (h : Layout p cs ts (.badCharacter ch q)) : q ≤ p + utf8Size cs := by
  obtain ⟨before, after, rfl, -, -, rfl⟩ := h.ending_accounts
  rw [Text.utf8Size_append]
  omega

end Layout

end Calculator
