import Calculator.Scanner
import Mathlib.Data.List.TakeWhile

/-!
# The layout of an input

An input is blank space and tokens in turn, up to its end or up to the first character that has
no place in an expression. The layout of a text is this division with its byte offsets, told
without a cursor, and a cursor that is read to its end reads exactly the layout.
-/

namespace Calculator

/-- The characters that have a place in an expression. -/
def IsExpressionChar (c : Char) : Prop :=
  Text.isBlank c = true ∨ c.isDigit = true ∨ c ∈ ['+', '-', '*', '/', '(', ')']

def AllBlank (cs : List Char) : Prop := ∀ c ∈ cs, Text.isBlank c = true

theorem AllBlank.nil : AllBlank [] := List.forall_mem_nil _

/-- Before `rest`, the characters of `text` are one token: a symbol, or a run of digits that
`rest` does not go on with. -/
inductive Munch : TokenKind → List Char → List Char → Prop where
  | number {ds rest : List Char} (hne : ds ≠ []) (hds : ∀ c ∈ ds, c.isDigit = true)
      (hrest : ∀ c ∈ rest.head?, c.isDigit = false) : Munch .number ds rest
  | symbol {k : TokenKind} {c : Char} {rest : List Char} (hc : k.symbol? = some c) :
      Munch k [c] rest

/-- The tokens of a text that begins at byte `p` of the input, and how they end. -/
inductive Layout : Nat → List Char → List Token → StreamEnd → Prop where
  | finish {p : Nat} {blanks : List Char} (hb : AllBlank blanks) :
      Layout p blanks [] (.endOfInput (p + Text.utf8Size blanks))
  | bad {p : Nat} {blanks rest : List Char} {ch : Char} (hb : AllBlank blanks)
      (hch : ¬ IsExpressionChar ch) :
      Layout p (blanks ++ ch :: rest) [] (.badCharacter ch (p + Text.utf8Size blanks))
  | token {p : Nat} {blanks text rest : List Char} {k : TokenKind} {ts : List Token}
      {e : StreamEnd} (hb : AllBlank blanks) (hm : Munch k text rest)
      (h : Layout (p + Text.utf8Size blanks + Text.utf8Size text) rest ts e) :
      Layout p (blanks ++ (text ++ rest))
        (⟨k, String.ofList text, p + Text.utf8Size blanks⟩ :: ts) e

theorem Text.isDigit_of_isBlank {c : Char} (h : isBlank c = true) : c.isDigit = false := by
  by_contra hd
  simp only [Bool.not_eq_false, Char.isDigit, Bool.and_eq_true, decide_eq_true_eq,
    ge_iff_le, UInt32.le_iff_toNat_le] at hd
  have hlo : 48 ≤ c.toNat := hd.1
  have hhi : c.toNat ≤ 57 := hd.2
  simp only [isBlank, Bool.or_eq_true, Bool.and_eq_true, decide_eq_true_eq, beq_iff_eq] at h
  omega

theorem TokenKind.mem_symbols_iff {c : Char} :
    c ∈ ['+', '-', '*', '/', '(', ')'] ↔ ∃ k, TokenKind.ofSymbol? c = some k := by
  constructor
  · intro h
    simp only [List.mem_cons, List.not_mem_nil, or_false] at h
    rcases h with rfl | rfl | rfl | rfl | rfl | rfl <;> exact ⟨_, rfl⟩
  · rintro ⟨k, hk⟩
    rw [TokenKind.ofSymbol?_eq_some_iff] at hk
    cases k <;> cases hk <;> decide

namespace Munch

variable {k : TokenKind} {text rest : List Char}

theorem ne_nil (h : Munch k text rest) : text ≠ [] := by
  cases h with
  | number hne _ _ => exact hne
  | symbol _ => exact List.cons_ne_nil _ _

theorem kind_ne_endOfInput (h : Munch k text rest) : k ≠ .endOfInput := by
  cases h with
  | number => decide
  | symbol hc =>
      rintro rfl
      cases hc

theorem isExpressionChar (h : Munch k text rest) {c : Char} (hc : c ∈ text) :
    IsExpressionChar c := by
  cases h with
  | number _ hds _ => exact .inr (.inl (hds c hc))
  | symbol hk =>
      rw [List.mem_singleton.mp hc]
      exact .inr (.inr (TokenKind.mem_symbols_iff.mpr
        ⟨k, TokenKind.ofSymbol?_eq_some_iff.mpr hk⟩))

theorem isBlank_of_mem (h : Munch k text rest) : ∀ c ∈ text, Text.isBlank c = false := by
  cases h with
  | number _ hds _ =>
      intro c hc
      by_contra hb
      have hblank := Text.isDigit_of_isBlank (Bool.not_eq_false _ ▸ hb)
      rw [hds c hc] at hblank
      cases hblank
  | symbol hk =>
      intro c hc
      rw [List.mem_singleton.mp hc]
      cases k <;> cases hk <;> decide

theorem isBlank_head (h : Munch k text rest) :
    ∀ c ∈ (text ++ rest).head?, Text.isBlank c = false := by
  obtain ⟨d, ds, rfl⟩ := List.exists_cons_of_ne_nil h.ne_nil
  rintro _ ⟨⟩
  exact h.isBlank_of_mem d List.mem_cons_self

end Munch

namespace Cursor

/-- What stands at a cursor after blank space, and where the cursor is then. -/
inductive Meets (c : Cursor) : Reading → Cursor → Prop where
  | token {k : TokenKind} {blanks text rest : List Char} (hb : AllBlank blanks)
      (hm : Munch k text rest) (hc : c.rest = blanks ++ (text ++ rest)) :
      Meets c (.token ⟨k, String.ofList text, c.position + Text.utf8Size blanks⟩)
        ⟨rest, c.position + Text.utf8Size blanks + Text.utf8Size text⟩
  | finish (hb : AllBlank c.rest) :
      Meets c (.ending (.endOfInput (c.position + Text.utf8Size c.rest)))
        ⟨[], c.position + Text.utf8Size c.rest⟩
  | bad {blanks rest : List Char} {ch : Char} (hb : AllBlank blanks)
      (hch : ¬ IsExpressionChar ch) (hc : c.rest = blanks ++ ch :: rest) :
      Meets c (.ending (.badCharacter ch (c.position + Text.utf8Size blanks)))
        ⟨ch :: rest, c.position + Text.utf8Size blanks⟩

theorem munch_digits {ch : Char} {rest : List Char} (hd : ch.isDigit = true) :
    Munch .number ((ch :: rest).takeWhile Char.isDigit) ((ch :: rest).dropWhile Char.isDigit) := by
  refine .number ?_ (fun c hc => List.mem_takeWhile_imp hc) ?_
  · simp [hd]
  · intro c hc
    have h := List.head?_dropWhile_not Char.isDigit (ch :: rest)
    rw [Option.mem_def.mp hc] at h
    simpa using h

theorem next_meets (c : Cursor) : c.Meets c.next.1 c.next.2 := by
  have hb : AllBlank (c.rest.takeWhile Text.isBlank) := fun d hd => List.mem_takeWhile_imp hd
  have hsplit : c.rest = c.rest.takeWhile Text.isBlank ++ c.rest.dropWhile Text.isBlank :=
    List.takeWhile_append_dropWhile.symm
  have hhead := List.head?_dropWhile_not Text.isBlank c.rest
  simp only [next, read, skipBlanks, skipWhile]
  cases hrest : c.rest.dropWhile Text.isBlank with
  | nil =>
      rw [hrest, List.append_nil] at hsplit
      rw [← hsplit] at hb ⊢
      exact .finish hb
  | cons ch rest =>
      rw [hrest] at hsplit hhead
      by_cases hd : ch.isDigit = true
      · simp only [hd, ↓reduceIte]
        refine .token hb (munch_digits hd) ?_
        rw [List.takeWhile_append_dropWhile]
        exact hsplit
      · simp only [hd]
        cases hk : TokenKind.ofSymbol? ch with
        | some k =>
            have hm : Munch k [ch] rest := .symbol (TokenKind.ofSymbol?_eq_some_iff.mp hk)
            have h := Meets.token hb hm hsplit
            rw [Text.utf8Size_cons, Text.utf8Size_nil, Nat.add_zero,
              ← String.singleton_eq_ofList] at h
            exact h
        | none =>
            refine .bad hb ?_ hsplit
            rintro (hblank | hdigit | hsym)
            · simp [hblank] at hhead
            · exact hd hdigit
            · obtain ⟨k, hk'⟩ := TokenKind.mem_symbols_iff.mp hsym
              rw [hk] at hk'
              cases hk'

theorem meets_of_next {c c' : Cursor} {r : Reading} (h : c.next = (r, c')) : c.Meets r c' := by
  have hm := c.next_meets
  rwa [h] at hm

theorem takeWhile_append_eq {p : Char → Bool} {front rest : List Char}
    (hfront : ∀ c ∈ front, p c = true) (hrest : ∀ c ∈ rest.head?, p c = false) :
    (front ++ rest).takeWhile p = front := by
  rw [List.takeWhile_append_of_pos hfront]
  cases rest with
  | nil => simp
  | cons c rest => simp [hrest c rfl]

theorem skipWhile_append {p : Char → Bool} {front rest : List Char} {n : Nat}
    (hfront : ∀ c ∈ front, p c = true) (hrest : ∀ c ∈ rest.head?, p c = false) :
    (Cursor.mk (front ++ rest) n).skipWhile p = ⟨rest, n + Text.utf8Size front⟩ := by
  have hdrop : (front ++ rest).dropWhile p = rest := by
    rw [List.dropWhile_append_of_pos hfront]
    cases rest with
    | nil => rfl
    | cons c rest => simp [hrest c rfl]
  rw [skipWhile, takeWhile_append_eq hfront hrest, hdrop]

theorem read_of_munch {n : Nat} {k : TokenKind} {text rest : List Char} (h : Munch k text rest) :
    (Cursor.mk (text ++ rest) n).read =
      (.token ⟨k, String.ofList text, n⟩, ⟨rest, n + Text.utf8Size text⟩) := by
  cases h with
  | number hne hds hrest =>
      obtain ⟨d, ds, rfl⟩ := List.exists_cons_of_ne_nil hne
      simp only [read, List.cons_append, hds d List.mem_cons_self, if_pos]
      rw [← List.cons_append, takeWhile_append_eq hds hrest, skipWhile_append hds hrest]
  | @symbol k c rest hk =>
      have hdigit : c.isDigit = false := by cases k <;> cases hk <;> decide
      have hsymbol := TokenKind.ofSymbol?_eq_some_iff.mpr hk
      simp only [read, List.singleton_append, hdigit, hsymbol]
      simp [Text.utf8Size_cons]

theorem read_of_not_isExpressionChar {n : Nat} {ch : Char} {rest : List Char}
    (hch : ¬ IsExpressionChar ch) :
    (Cursor.mk (ch :: rest) n).read = (.ending (.badCharacter ch n), ⟨ch :: rest, n⟩) := by
  have hdigit : ch.isDigit = false := by simpa using fun h => hch (.inr (.inl h))
  have hsymbol : TokenKind.ofSymbol? ch = none :=
    Option.eq_none_iff_forall_ne_some.mpr fun k hk =>
      hch (.inr (.inr (TokenKind.mem_symbols_iff.mpr ⟨k, hk⟩)))
  simp [read, hdigit, hsymbol]

/-- What stands at a cursor leaves no choice of what is read there. -/
theorem next_of_meets {c c' : Cursor} {r : Reading} (h : c.Meets r c') : c.next = (r, c') := by
  obtain ⟨cs, n⟩ := c
  cases h with
  | @token k blanks text rest hb hm hc =>
      dsimp only at hc ⊢
      rw [hc, next, skipBlanks, skipWhile_append hb hm.isBlank_head, read_of_munch hm]
  | finish hb =>
      have hskip := @skipWhile_append _ _ [] n hb nofun
      rw [List.append_nil] at hskip
      rw [next, skipBlanks, hskip]
      rfl
  | @bad blanks rest ch hb hch hc =>
      have hhead : ∀ c ∈ (ch :: rest).head?, Text.isBlank c = false := by
        rintro _ ⟨⟩
        simpa using fun h => hch (.inl h)
      dsimp only at hc ⊢
      rw [hc, next, skipBlanks, skipWhile_append hb hhead, read_of_not_isExpressionChar hch]

/-- The tokens collected after those of `before` are the layout of the text at the cursor. -/
theorem layout_collect (before : List Token) (c : Cursor) :
    ∃ ts, (c.collect before).1.tokens = before.reverse ++ ts ∧
      Layout c.position c.rest ts (c.collect before).1.ending := by
  fun_induction collect before c with
  | case1 before c t c' h ih =>
      obtain ⟨ts, hts, hlay⟩ := ih
      obtain ⟨p, text⟩ := c
      refine ⟨t :: ts, by simpa using hts, ?_⟩
      cases meets_of_next h with
      | token hb hm hc =>
          dsimp only at hc hlay ⊢
          rw [hc]
          exact .token hb hm hlay
  | case2 before c e c' h =>
      refine ⟨[], by simp, ?_⟩
      obtain ⟨text, p⟩ := c
      cases meets_of_next h with
      | finish hb => exact .finish hb
      | bad hb hch hc =>
          dsimp only at hc ⊢
          rw [hc]
          exact .bad hb hch

/-- A text has no other layout than the one that is collected. -/
theorem collect_of_layout {n : Nat} {cs : List Char} {ts : List Token} {e : StreamEnd}
    (h : Layout n cs ts e) (before : List Token) :
    ((Cursor.mk cs n).collect before).1 = ⟨before.reverse ++ ts, e⟩ := by
  induction h generalizing before with
  | finish hb =>
      rw [collect_of_ending (next_of_meets (.finish hb)), List.append_nil]
  | bad hb hch =>
      rw [collect_of_ending (next_of_meets (.bad hb hch rfl)), List.append_nil]
  | token hb hm h ih =>
      rw [collect_of_token (next_of_meets (.token hb hm rfl)), ih, List.reverse_cons,
        List.append_assoc]
      rfl

end Cursor

theorem TokenStream.layout_ofString (s : String) :
    Layout 0 s.toList (TokenStream.ofString s).tokens (TokenStream.ofString s).ending := by
  obtain ⟨ts, hts, hlay⟩ := Cursor.layout_collect [] (Cursor.ofString s)
  rw [List.reverse_nil, List.nil_append] at hts
  rw [← hts] at hlay
  exact hlay

theorem TokenStream.ofString_eq_of_layout {s : String} {ts : List Token} {e : StreamEnd}
    (h : Layout 0 s.toList ts e) : ofString s = ⟨ts, e⟩ :=
  Cursor.collect_of_layout h []

end Calculator
