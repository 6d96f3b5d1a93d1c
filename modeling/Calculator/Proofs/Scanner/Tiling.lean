import Calculator.Proofs.Scanner.Layout

/-!
# Tokens tile the input

An input is split into tokens exactly when each of its characters has a place in an expression;
otherwise the first that has none is reported at its byte offset. The tokens stand in the input
where their offsets say, one behind the other, each as long as it can be, and leave out nothing
but blank space.
-/

namespace Calculator

open Text (utf8Size)

theorem Text.utf8Size_toList (s : String) : utf8Size s.toList = s.utf8ByteSize := by
  obtain ⟨cs, rfl⟩ := s.exists_eq_ofList
  rw [String.toList_ofList]
  induction cs with
  | nil => rfl
  | cons c cs ih =>
      rw [utf8Size_cons, ih, ← List.singleton_append, String.ofList_append,
        String.utf8ByteSize_append, ← String.singleton_eq_ofList, String.utf8ByteSize_singleton]

theorem Text.exists_char_of_lt {cs : List Char} {i : Nat} (h : i < utf8Size cs) :
    ∃ before c after, cs = before ++ c :: after ∧ utf8Size before ≤ i ∧
      i < utf8Size before + c.utf8Size := by
  induction cs generalizing i with
  | nil => simp at h
  | cons d cs ih =>
      by_cases hd : i < d.utf8Size
      · exact ⟨[], d, cs, rfl, Nat.zero_le _, by simpa using hd⟩
      · have hi : i - d.utf8Size < utf8Size cs := by
          rw [utf8Size_cons] at h
          omega
        obtain ⟨before, c, after, rfl, hle, hlt⟩ := ih hi
        refine ⟨d :: before, c, after, rfl, ?_, ?_⟩ <;>
          rw [utf8Size_cons] <;> omega

/-- The first character with a property is at one place only. -/
theorem firstChar_unique {P : Char → Prop} {as bs as' bs' : List Char} {c c' : Char}
    (h : as ++ c :: bs = as' ++ c' :: bs') (has : ∀ d ∈ as, ¬ P d) (hc : P c)
    (has' : ∀ d ∈ as', ¬ P d) (hc' : P c') : as = as' ∧ c = c' := by
  induction as generalizing as' with
  | nil =>
      cases as' with
      | nil => exact ⟨rfl, (List.cons.inj h).1⟩
      | cons d as' =>
          have hcd : c = d := (List.cons.inj h).1
          exact (has' d List.mem_cons_self (hcd ▸ hc)).elim
  | cons d as ih =>
      cases as' with
      | nil =>
          have hdc : d = c' := (List.cons.inj h).1
          exact (has d List.mem_cons_self (hdc ▸ hc')).elim
      | cons d' as' =>
          obtain ⟨hd, htail⟩ := List.cons.inj h
          obtain ⟨h₁, h₂⟩ := ih htail (fun x hx => has x (List.mem_cons_of_mem _ hx))
            (fun x hx => has' x (List.mem_cons_of_mem _ hx))
          exact ⟨by rw [hd, h₁], h₂⟩

/-- A character of a joined text lies in one of the two parts. -/
theorem append_eq_append_cons {xs ys before after : List Char} {c : Char}
    (h : xs ++ ys = before ++ c :: after) :
    (∃ mid, xs = before ++ c :: mid ∧ after = mid ++ ys) ∨
      ∃ front, before = xs ++ front ∧ ys = front ++ c :: after := by
  rcases List.append_eq_append_iff.mp h with ⟨front, hbefore, hys⟩ | ⟨mid, hxs, hafter⟩
  · exact .inr ⟨front, hbefore, hys⟩
  · cases mid with
    | nil => exact .inr ⟨[], by simpa using hxs.symm, hafter.symm⟩
    | cons d mid =>
        obtain ⟨rfl, rfl⟩ := List.cons.inj hafter
        exact .inl ⟨mid, hxs, rfl⟩

/-! ## How the tokens end -/

/-- What the end of the tokens of `cs` says about `cs`, the text from byte `p` on. -/
def StreamEnd.Accounts (p : Nat) (cs : List Char) : StreamEnd → Prop
  | .endOfInput offset => (∀ c ∈ cs, IsExpressionChar c) ∧ offset = p + utf8Size cs
  | .badCharacter ch offset => ∃ before after, cs = before ++ ch :: after ∧
      (∀ c ∈ before, IsExpressionChar c) ∧ ¬ IsExpressionChar ch ∧ offset = p + utf8Size before

theorem AllBlank.isExpressionChar {blanks : List Char} (h : AllBlank blanks) :
    ∀ c ∈ blanks, IsExpressionChar c := fun c hc => .inl (h c hc)

theorem StreamEnd.Accounts.append {p : Nat} {front cs : List Char} {e : StreamEnd}
    (hfront : ∀ c ∈ front, IsExpressionChar c) (h : e.Accounts (p + utf8Size front) cs) :
    e.Accounts p (front ++ cs) := by
  cases e with
  | endOfInput offset =>
      obtain ⟨hcs, hoffset⟩ := h
      refine ⟨fun c hc => (List.mem_append.mp hc).elim (hfront c) (hcs c), ?_⟩
      rw [Text.utf8Size_append, hoffset, Nat.add_assoc]
  | badCharacter ch offset =>
      obtain ⟨before, after, rfl, hbefore, hch, hoffset⟩ := h
      refine ⟨front ++ before, after, by simp, ?_, hch, ?_⟩
      · exact fun c hc => (List.mem_append.mp hc).elim (hfront c) (hbefore c)
      · rw [Text.utf8Size_append, hoffset, Nat.add_assoc]

theorem Layout.ending_accounts {p : Nat} {cs : List Char} {ts : List Token} {e : StreamEnd}
    (h : Layout p cs ts e) : e.Accounts p cs := by
  induction h with
  | finish hb => exact ⟨hb.isExpressionChar, rfl⟩
  | bad hb hch => exact ⟨_, _, rfl, hb.isExpressionChar, hch, rfl⟩
  | token hb hm _ ih =>
      exact .append hb.isExpressionChar (.append (fun c hc => hm.isExpressionChar hc) ih)

theorem TokenStream.ending_accounts (s : String) :
    (TokenStream.ofString s).ending.Accounts 0 s.toList :=
  (TokenStream.layout_ofString s).ending_accounts

section Tokenize

variable {s : String} {ts : List Token} {ch : Char} {q : Nat}

theorem tokenize_eq_ok_iff :
    tokenize s = .ok ts ↔ ∃ offset, TokenStream.ofString s = ⟨ts, .endOfInput offset⟩ := by
  rw [tokenize]
  obtain ⟨tokens, ending⟩ := TokenStream.ofString s
  cases ending <;> simp [TokenStream.toExcept, StreamEnd.error?]

theorem tokens_of_tokenize (h : tokenize s = .ok ts) : (TokenStream.ofString s).tokens = ts := by
  obtain ⟨offset, hstream⟩ := tokenize_eq_ok_iff.mp h
  rw [hstream]

theorem ending_of_tokenize {e : EvalError} (h : tokenize s = .error e) :
    ∃ ch offset, (TokenStream.ofString s).ending = .badCharacter ch offset ∧
      e = .badCharacter ch offset := by
  rw [tokenize, TokenStream.toExcept] at h
  cases hend : (TokenStream.ofString s).ending with
  | endOfInput offset =>
      rw [hend] at h
      cases h
  | badCharacter ch offset =>
      rw [hend] at h
      cases h
      exact ⟨ch, offset, rfl, rfl⟩

theorem tokenize_of_layout (h : Layout 0 s.toList ts (.endOfInput q)) : tokenize s = .ok ts :=
  tokenize_eq_ok_iff.mpr ⟨q, TokenStream.ofString_eq_of_layout h⟩

theorem tokenize_of_layout_bad (h : Layout 0 s.toList ts (.badCharacter ch q)) :
    tokenize s = .error (.badCharacter ch q) := by
  rw [tokenize, TokenStream.ofString_eq_of_layout h]
  rfl

theorem layout_of_tokenize (h : tokenize s = .ok ts) :
    Layout 0 s.toList ts (.endOfInput s.utf8ByteSize) := by
  obtain ⟨q, hstream⟩ := tokenize_eq_ok_iff.mp h
  have hlay := TokenStream.layout_ofString s
  rw [hstream] at hlay
  have hq : q = 0 + utf8Size s.toList := hlay.ending_accounts.2
  rw [Nat.zero_add, Text.utf8Size_toList] at hq
  rwa [hq] at hlay

theorem exists_layout_of_tokenize {e : EvalError} (h : tokenize s = .error e) :
    ∃ us ch q, e = .badCharacter ch q ∧ Layout 0 s.toList us (.badCharacter ch q) := by
  obtain ⟨ch, q, hending, he⟩ := ending_of_tokenize h
  have hlay := TokenStream.layout_ofString s
  rw [hending] at hlay
  exact ⟨_, ch, q, he, hlay⟩

theorem isExpressionChar_of_tokenize (h : tokenize s = .ok ts) :
    ∀ c ∈ s.toList, IsExpressionChar c :=
  (layout_of_tokenize h).ending_accounts.1

end Tokenize

/-! ## Where the tokens stand -/

namespace Token

/-- The byte offset at which the token's text ends. -/
def stop (t : Token) : Nat := t.offset + t.text.utf8ByteSize

/-- The token's text stands in `s` between the texts `before` and `after`, at the token's offset. -/
structure Spans (t : Token) (s before after : String) : Prop where
  text : s = before ++ t.text ++ after
  offset : before.utf8ByteSize = t.offset

end Token

/-- After `before`, a text goes on with something other than a digit, unless `before` does not
end with a digit. -/
def DigitsEnd (before cs : List Char) : Prop :=
  (∀ c ∈ before.getLast?, c.isDigit = false) ∨ ∀ c ∈ cs.head?, c.isDigit = false

theorem Munch.digitsEnd {k : TokenKind} {text rest : List Char} (h : Munch k text rest)
    (front : List Char) : DigitsEnd (front ++ text) rest := by
  cases h with
  | number _ _ hrest => exact .inr hrest
  | @symbol _ c _ hc =>
      refine .inl fun d hd => ?_
      have hcd : c = d := by simpa using hd
      subst hcd
      cases k <;> cases hc <;> rfl

theorem Munch.isDigit_before {text rest before blanks : List Char} (h : Munch .number text rest)
    (hb : AllBlank blanks) (hend : DigitsEnd before (blanks ++ (text ++ rest))) :
    ∀ c ∈ (before ++ blanks).getLast?, c.isDigit = false := by
  intro c hc
  rcases List.eq_nil_or_concat blanks with rfl | ⟨init, b, rfl⟩
  · rw [List.append_nil] at hc
    rcases hend with hbefore | hhead
    · exact hbefore c hc
    · cases h with
      | number hne hds _ =>
          obtain ⟨d, ds, rfl⟩ := List.exists_cons_of_ne_nil hne
          have hd : d.isDigit = true := hds d List.mem_cons_self
          rw [hhead d rfl] at hd
          cases hd
      | symbol hk => cases hk
  · have hcb : b = c := by simpa [← List.append_assoc] using hc
    exact Text.isDigit_of_isBlank (hb c (by simp [hcb]))

namespace Layout

variable {p : Nat} {cs : List Char} {ts : List Token} {e : StreamEnd}

theorem le_offset (h : Layout p cs ts e) : ∀ t ∈ ts, p ≤ t.offset := by
  induction h with
  | finish _ => exact fun t ht => absurd ht List.not_mem_nil
  | bad _ _ => exact fun t ht => absurd ht List.not_mem_nil
  | token _ _ _ ih =>
      intro t ht
      rcases List.mem_cons.mp ht with rfl | ht
      · exact Nat.le_add_right _ _
      · have := ih t ht
        omega

theorem pairwise_stop (h : Layout p cs ts e) :
    ts.Pairwise fun t u => t.stop ≤ u.offset := by
  induction h with
  | finish _ => exact .nil
  | bad _ _ => exact .nil
  | token _ _ h ih =>
      refine .cons (fun u hu => ?_) ih
      have hle := h.le_offset u hu
      rw [Token.stop, ← Text.utf8Size_toList, String.toList_ofList]
      exact hle

/-- Each token stands where its offset says, and can be neither continued nor begun earlier. -/
theorem exists_spans (h : Layout p cs ts e) {front : List Char} (hp : utf8Size front = p)
    (hend : DigitsEnd front cs) : ∀ t ∈ ts, ∃ before after : List Char,
      t.Spans (String.ofList (front ++ cs)) (String.ofList before) (String.ofList after) ∧
      Munch t.kind t.text.toList after ∧
      (t.kind = .number → ∀ c ∈ before.getLast?, c.isDigit = false) := by
  induction h generalizing front with
  | finish _ => exact fun t ht => absurd ht List.not_mem_nil
  | bad _ _ => exact fun t ht => absurd ht List.not_mem_nil
  | @token p blanks text rest k ts e hb hm h ih =>
      intro t ht
      rcases List.mem_cons.mp ht with rfl | ht
      · refine ⟨front ++ blanks, rest, ⟨?_, ?_⟩, ?_, ?_⟩
        · simp [← String.ofList_append]
        · rw [← Text.utf8Size_toList, String.toList_ofList, Text.utf8Size_append, hp]
        · simpa using hm
        · rintro rfl
          exact hm.isDigit_before hb hend
      · have hsize : utf8Size (front ++ blanks ++ text) = p + utf8Size blanks + utf8Size text := by
          rw [Text.utf8Size_append, Text.utf8Size_append, hp]
        have := ih hsize (hm.digitsEnd _) t ht
        simpa only [List.append_assoc] using this

theorem exists_mem_of_not_isBlank (h : Layout p cs ts e)
    (hexpr : ∀ d ∈ cs, IsExpressionChar d) {before after : List Char} {c : Char}
    (hcs : cs = before ++ c :: after) (hc : Text.isBlank c = false) :
    ∃ t ∈ ts, t.offset ≤ p + utf8Size before ∧
      p + utf8Size before + c.utf8Size ≤ t.stop := by
  induction h generalizing before with
  | finish hb =>
      have hblank := hb c (by simp [hcs])
      rw [hc] at hblank
      cases hblank
  | bad _ hch => exact (hch (hexpr _ (by simp))).elim
  | @token p blanks text rest k ts e hb hm h ih =>
      rcases append_eq_append_cons hcs with ⟨mid, hblanks, -⟩ | ⟨front, rfl, htext⟩
      · have hblank := hb c (by simp [hblanks])
        rw [hc] at hblank
        cases hblank
      · rcases append_eq_append_cons htext with ⟨mid, rfl, -⟩ | ⟨front, rfl, hrest⟩
        · refine ⟨_, List.mem_cons_self, ?_, ?_⟩
          · rw [Text.utf8Size_append, ← Nat.add_assoc]
            exact Nat.le_add_right _ _
          · rw [Token.stop, ← Text.utf8Size_toList, String.toList_ofList]
            simp only [Text.utf8Size_append, Text.utf8Size_cons]
            omega
        · have hexpr' : ∀ d ∈ rest, IsExpressionChar d := fun d hd => hexpr d (by simp [hd])
          obtain ⟨t, ht, hle, hstop⟩ := ih hexpr' hrest
          refine ⟨t, List.mem_cons_of_mem _ ht, ?_, ?_⟩ <;>
            simp only [Text.utf8Size_append] <;> omega

end Layout

/-! ## The tokens of an input -/

/-- The tokens of `ts` tile the input: they stand in it one behind the other, each the symbol of
its kind or a run of digits as long as it can be, and outside them there is blank space only. -/
structure Tiles (s : String) (ts : List Token) : Prop where
  spans : ∀ t ∈ ts, t.text ≠ "" ∧ ∃ before after, t.Spans s before after ∧
    Munch t.kind t.text.toList after.toList ∧
    (t.kind = .number → ∀ c ∈ before.toList.getLast?, c.isDigit = false)
  ordered : ts.Pairwise fun t u => t.offset < t.stop ∧ t.stop ≤ u.offset
  blank : ∀ i < s.utf8ByteSize, (∀ t ∈ ts, i < t.offset ∨ t.stop ≤ i) →
    ∃ before c after, s.toList = before ++ c :: after ∧ utf8Size before ≤ i ∧
      i < utf8Size before + c.utf8Size ∧ Text.isBlank c = true

namespace TokenStream

variable (s : String)

theorem exists_spans : ∀ t ∈ (ofString s).tokens, ∃ before after, t.Spans s before after ∧
    Munch t.kind t.text.toList after.toList ∧
    (t.kind = .number → ∀ c ∈ before.toList.getLast?, c.isDigit = false) := by
  intro t ht
  have hfront : utf8Size [] = 0 := rfl
  have hend : DigitsEnd [] s.toList := .inl fun c hc => by cases hc
  obtain ⟨before, after, hspan, hm, hnum⟩ :=
    (layout_ofString s).exists_spans hfront hend t ht
  refine ⟨String.ofList before, String.ofList after, ?_, ?_, ?_⟩
  · simpa using hspan
  · rwa [String.toList_ofList]
  · rwa [String.toList_ofList]

theorem text_ne_empty : ∀ t ∈ (ofString s).tokens, t.text ≠ "" := by
  intro t ht h
  obtain ⟨before, after, -, hm, -⟩ := exists_spans s t ht
  exact hm.ne_nil (by rw [h]; rfl)

theorem tiles (hexpr : ∀ c ∈ s.toList, IsExpressionChar c) : Tiles s (ofString s).tokens where
  spans := fun t ht => ⟨text_ne_empty s t ht, exists_spans s t ht⟩
  ordered := by
    refine (layout_ofString s).pairwise_stop.imp_of_mem fun {t u} ht _ hle => ⟨?_, hle⟩
    have hpos : t.text.utf8ByteSize ≠ 0 := fun h =>
      text_ne_empty s t ht (String.utf8ByteSize_eq_zero_iff.mp h)
    rw [Token.stop]
    omega
  blank := by
    intro i hi hout
    rw [← Text.utf8Size_toList] at hi
    obtain ⟨before, c, after, hcs, hle, hlt⟩ := Text.exists_char_of_lt hi
    refine ⟨before, c, after, hcs, hle, hlt, ?_⟩
    by_contra hc
    obtain ⟨t, ht, hstart, hstop⟩ := (layout_ofString s).exists_mem_of_not_isBlank hexpr hcs
      (by simpa using hc)
    have := hout t ht
    omega

end TokenStream

/-- An input is split exactly when all its characters have a place in an expression, and into
tokens that tile it. Otherwise its first character without a place is reported where it stands. -/
theorem tokenize_exact (s : String) :
    ((∃ ts, tokenize s = .ok ts) ↔ ∀ c ∈ s.toList, IsExpressionChar c) ∧
    (∀ before ch after, s.toList = before ++ ch :: after →
      (∀ c ∈ before, IsExpressionChar c) → ¬ IsExpressionChar ch →
      tokenize s = .error (.badCharacter ch (String.ofList before).utf8ByteSize)) ∧
    ∀ ts, tokenize s = .ok ts → Tiles s ts := by
  have hacc := TokenStream.ending_accounts s
  have htiles := TokenStream.tiles s
  rw [tokenize, TokenStream.toExcept]
  cases hend : (TokenStream.ofString s).ending with
  | endOfInput offset =>
      rw [hend] at hacc
      refine ⟨⟨fun _ => hacc.1, fun _ => ⟨_, rfl⟩⟩, ?_, ?_⟩
      · intro before ch after hs _ hch
        exact (hch (hacc.1 ch (by simp [hs]))).elim
      · intro ts hts
        cases hts
        exact htiles hacc.1
  | badCharacter ch offset =>
      rw [hend] at hacc
      obtain ⟨before, after, hs, hbefore, hch, hoffset⟩ := hacc
      refine ⟨⟨?_, ?_⟩, ?_, ?_⟩
      · rintro ⟨ts, hts⟩
        cases hts
      · intro hall
        exact (hch (hall ch (by simp [hs]))).elim
      · intro before' ch' after' hs' hbefore' hch'
        have huniq := firstChar_unique (P := fun c => ¬ IsExpressionChar c) (hs.symm.trans hs')
          (fun c hc h => h (hbefore c hc)) hch (fun c hc h => h (hbefore' c hc)) hch'
        rw [hoffset, huniq.1, huniq.2, Nat.zero_add, ← Text.utf8Size_toList,
          String.toList_ofList]
        rfl
      · intro ts hts
        cases hts

end Calculator
