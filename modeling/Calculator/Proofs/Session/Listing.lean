import Calculator.Proofs.Scanner.Joining
import Calculator.Session.Reply
import Mathlib.Data.List.Forall2

/-!
# Reading a listing

A listing can be read back. No token has a space in it, so the spaces are between the parts, and
the first parenthesis of a part is not the token's own, even where the token is a parenthesis. The
texts read back, with spaces between them, have the same tokens as the input that was listed.
-/

namespace Calculator

/-! ## One part -/

namespace TokenKind

theorem not_mem_name {c : Char} (hc : c = '(' ∨ c = ' ') (k : TokenKind) : c ∉ k.name.toList := by
  rcases hc with rfl | rfl <;> cases k <;> decide

theorem name_injective : Function.Injective name := by
  intro k l h
  cases k <;> cases l <;> first | rfl | exact absurd h (by decide)

end TokenKind

/-- The text in a part `Kind(text)` of a listing. -/
def unwrapped (part : List Char) : List Char := ((part.dropWhile (· != '(')).drop 1).dropLast

namespace Token

theorem toList_listed (t : Token) :
    t.listed.toList = t.kind.name.toList ++ '(' :: (t.text.toList ++ [')']) := by
  have hopen : "(".toList = ['('] := by decide
  have hclose : ")".toList = [')'] := by decide
  simp [listed, String.toList_append, hopen, hclose]

theorem name_ne_paren (t : Token) : ∀ c ∈ t.kind.name.toList, (c != '(') = true := by
  intro c hc
  rw [bne_iff_ne]
  rintro rfl
  exact t.kind.not_mem_name (.inl rfl) hc

theorem unwrapped_listed (t : Token) : unwrapped t.listed.toList = t.text.toList := by
  rw [unwrapped, toList_listed, List.dropWhile_append_of_pos t.name_ne_paren,
    List.dropWhile_cons_of_neg (by decide), List.drop_one, List.tail_cons, List.dropLast_concat]

theorem lexeme_eq_of_listed_eq {t u : Token} (h : t.listed = u.listed) : t.lexeme = u.lexeme := by
  have htake : ∀ v : Token, v.listed.toList.takeWhile (· != '(') = v.kind.name.toList := by
    intro v
    rw [toList_listed, List.takeWhile_append_of_pos v.name_ne_paren]
    simp
  have hname : t.kind.name.toList = u.kind.name.toList := by
    rw [← htake t, ← htake u, h]
  have htext : t.text.toList = u.text.toList := by
    rw [← unwrapped_listed t, ← unwrapped_listed u, h]
  have hkind : t.kind = u.kind := TokenKind.name_injective (String.toList_inj.mp hname)
  rw [lexeme, lexeme, hkind, String.toList_inj.mp htext]

theorem space_not_mem_listed {t : Token} (h : ' ' ∉ t.text.toList) : ' ' ∉ t.listed.toList := by
  have hname : ' ' ∉ t.kind.name.toList := t.kind.not_mem_name (.inr rfl)
  simp [toList_listed, hname, h]

end Token

/-! ## All parts -/

/-- The texts of a listing, one from each of its parts. -/
def listedTexts (l : String) : List String :=
  (l.toList.splitOn ' ').map fun part => String.ofList (unwrapped part)

section Parts

variable {ts us : List Token}

theorem splitOn_listing (hne : ts ≠ []) (h : ∀ t ∈ ts, ' ' ∉ t.text.toList) :
    (listing ts).toList.splitOn ' ' = ts.map fun t => t.listed.toList := by
  have hspace : " ".toList = [' '] := by decide
  have hparts : ∀ part ∈ ts.map fun t => t.listed.toList, ' ' ∉ part := by
    intro part hpart
    obtain ⟨t, ht, rfl⟩ := List.mem_map.mp hpart
    exact Token.space_not_mem_listed (h t ht)
  rw [listing, String.toList_intercalate, hspace, List.map_map]
  exact List.splitOn_intercalate ' ' hparts (by simpa using hne)

theorem intercalate_listedTexts (h : ∀ t ∈ ts, ' ' ∉ t.text.toList) :
    " ".intercalate (listedTexts (listing ts)) = " ".intercalate (ts.map Token.text) := by
  by_cases hne : ts = []
  · subst hne
    decide
  · rw [listedTexts, splitOn_listing hne h, List.map_map]
    congr 1
    apply List.map_congr_left
    intro t _
    rw [Function.comp_apply, Token.unwrapped_listed, String.ofList_toList]

theorem listing_ne_empty (h : ts ≠ []) : listing ts ≠ "" := by
  have hlisted : ∀ t : Token, t.listed ≠ "" := by
    intro t
    simp [Token.listed, String.append_eq_empty_iff]
  cases ts with
  | nil => exact absurd rfl h
  | cons t ts =>
      cases ts with
      | nil => simpa [listing] using hlisted t
      | cons u us =>
          rw [listing, List.map_cons, List.map_cons, String.intercalate_cons_cons]
          simp [String.append_eq_empty_iff]

theorem lexemes_eq_of_listing_eq (hts : ∀ t ∈ ts, ' ' ∉ t.text.toList)
    (hus : ∀ u ∈ us, ' ' ∉ u.text.toList) (h : listing ts = listing us) :
    ts.map Token.lexeme = us.map Token.lexeme := by
  by_cases hts' : ts = []
  · have hus' : us = [] := by
      by_contra hne
      rw [hts'] at h
      exact listing_ne_empty hne h.symm
    rw [hts', hus']
  · have hus' : us ≠ [] := by
      rintro rfl
      exact listing_ne_empty hts' h
    have hparts : ts.map (fun t => t.listed.toList) = us.map fun u => u.listed.toList := by
      rw [← splitOn_listing hts' hts, ← splitOn_listing hus' hus, h]
    rw [← List.forall₂_eq_eq_eq, List.forall₂_map_left_iff, List.forall₂_map_right_iff] at hparts ⊢
    exact hparts.imp fun t u htu => Token.lexeme_eq_of_listed_eq (String.toList_inj.mp htu)

end Parts

/-! ## The tokens of the texts -/

/-- With spaces between them the texts of tokens are read as these tokens. -/
theorem Layout.exists_of_texts {ts : List Token} (h : ∀ t ∈ ts, Munch t.kind t.text.toList [])
    (p : Nat) : ∃ us q, us.map Token.lexeme = ts.map Token.lexeme ∧
      Layout p ([' '].intercalate (ts.map fun t => t.text.toList)) us (.endOfInput q) := by
  have hspace : AllBlank [' '] := by simp [AllBlank, Text.isBlank]
  induction ts generalizing p with
  | nil => exact ⟨[], _, rfl, .finish .nil⟩
  | cons t ts ih =>
      have ht := h t List.mem_cons_self
      have hlexeme : ∀ q, Token.lexeme ⟨t.kind, String.ofList t.text.toList, q⟩ = t.lexeme := by
        intro q
        rw [Token.lexeme, String.ofList_toList, Token.lexeme]
      cases ts with
      | nil =>
          have htexts : [' '].intercalate ([t].map fun t => t.text.toList) =
              t.text.toList ++ [] := by simp
          rw [htexts]
          refine ⟨_, _, ?_, Layout.munch ht (.finish .nil)⟩
          rw [List.map_singleton, List.map_singleton, hlexeme]
      | cons u us =>
          obtain ⟨vs, q, hvs, hlay⟩ := ih (fun u hu => h u (List.mem_cons_of_mem t hu))
            (p + Text.utf8Size t.text.toList + Text.utf8Size [' '])
          have hrest := hlay.blanks_append hspace rfl
          have hmore : ([] : List Char) = [] → t.kind = .number →
              ∀ c ∈ (' ' :: [' '].intercalate ((u :: us).map fun t => t.text.toList)).head?,
                c.isDigit = false := by
            rintro - - _ ⟨⟩
            decide
          have hlay := Layout.munch (ht.append hmore) hrest
          refine ⟨_, q, ?_, hlay⟩
          rw [List.map_cons, List.map_cons, hlexeme, hvs]

namespace TokenStream

theorem munch_alone (s : String) : ∀ t ∈ (ofString s).tokens, Munch t.kind t.text.toList [] := by
  intro t ht
  obtain ⟨before, after, -, hm, -⟩ := exists_spans s t ht
  exact @Munch.of_append _ _ [] _ hm

theorem space_not_mem_text (s : String) : ∀ t ∈ (ofString s).tokens, ' ' ∉ t.text.toList := by
  intro t ht hmem
  have hblank := (munch_alone s t ht).isBlank_of_mem ' ' hmem
  exact absurd hblank (by decide)

theorem exists_of_texts (s : String) : ∃ us q, us.map Token.lexeme =
      (ofString s).tokens.map Token.lexeme ∧
    ofString (" ".intercalate ((ofString s).tokens.map Token.text)) = ⟨us, .endOfInput q⟩ := by
  have hspace : " ".toList = [' '] := by decide
  obtain ⟨us, q, hus, hlay⟩ := Layout.exists_of_texts (munch_alone s) 0
  refine ⟨us, q, hus, ofString_eq_of_layout ?_⟩
  rw [String.toList_intercalate, hspace, List.map_map]
  exact hlay

end TokenStream

end Calculator
