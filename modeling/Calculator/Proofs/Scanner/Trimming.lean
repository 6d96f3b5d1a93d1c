import Calculator.Grammar
import Calculator.Proofs.Scanner.Layout

/-!
# Blank ends of an input

Without its blank ends an input has the same tokens, each as much further to the front as there
are bytes in the blank space before the first one.
-/

namespace Calculator

open Text (utf8Size)

theorem AllBlank.append {as bs : List Char} (ha : AllBlank as) (hb : AllBlank bs) :
    AllBlank (as ++ bs) := fun c hc => (List.mem_append.mp hc).elim (ha c) (hb c)

theorem Munch.append_blanks {k : TokenKind} {text rest blanks : List Char}
    (h : Munch k text rest) (hb : AllBlank blanks) : Munch k text (rest ++ blanks) := by
  cases h with
  | number hne hds hrest =>
      refine .number hne hds fun c hc => ?_
      cases rest with
      | nil => exact Text.isDigit_of_isBlank (hb c (List.mem_of_mem_head? hc))
      | cons d rest => exact hrest c hc
  | symbol hk => exact .symbol hk

/-- The token `n` bytes further on. -/
def Token.shifted (n : Nat) (t : Token) : Token := { t with offset := n + t.offset }

theorem Token.lexeme_comp_shifted (n : Nat) : Token.lexeme ∘ Token.shifted n = Token.lexeme := rfl

namespace StreamEnd

def shifted (n : Nat) : StreamEnd → StreamEnd
  | endOfInput offset => .endOfInput (n + offset)
  | badCharacter ch offset => .badCharacter ch (n + offset)

/-- The end with `n` bytes of blank space behind the text. -/
def beforeBlanks (n : Nat) : StreamEnd → StreamEnd
  | endOfInput offset => .endOfInput (offset + n)
  | badCharacter ch offset => .badCharacter ch offset

end StreamEnd

namespace Layout

variable {p : Nat} {cs blanks : List Char} {ts : List Token} {e : StreamEnd}

theorem shifted (h : Layout p cs ts e) (n : Nat) :
    Layout (n + p) cs (ts.map (Token.shifted n)) (e.shifted n) := by
  induction h with
  | @finish p blanks hb =>
      have hlay := @Layout.finish (n + p) blanks hb
      rwa [Nat.add_assoc] at hlay
  | @bad p blanks rest ch hb hch =>
      have hlay := @Layout.bad (n + p) blanks rest ch hb hch
      rwa [Nat.add_assoc] at hlay
  | @token p blanks text rest k ts e hb hm h ih =>
      rw [← Nat.add_assoc, ← Nat.add_assoc] at ih
      have hlay := Layout.token hb hm ih
      rwa [Nat.add_assoc n p] at hlay

theorem blanks_append {q : Nat} (h : Layout q cs ts e) (hb : AllBlank blanks)
    (hq : q = p + utf8Size blanks) : Layout p (blanks ++ cs) ts e := by
  subst hq
  cases h with
  | @finish _ more hmore =>
      have hlay := @Layout.finish p _ (hb.append hmore)
      rwa [Text.utf8Size_append, ← Nat.add_assoc] at hlay
  | @bad _ more rest ch hmore hch =>
      have hlay := @Layout.bad p _ rest ch (hb.append hmore) hch
      rwa [Text.utf8Size_append, ← Nat.add_assoc, List.append_assoc] at hlay
  | @token _ more text rest k ts e hmore hm h =>
      rw [Nat.add_assoc p, ← Text.utf8Size_append] at h
      have hlay := Layout.token (hb.append hmore) hm h
      rwa [Text.utf8Size_append, ← Nat.add_assoc, List.append_assoc] at hlay

theorem append_blanks (h : Layout p cs ts e) (hb : AllBlank blanks) :
    Layout p (cs ++ blanks) ts (e.beforeBlanks (utf8Size blanks)) := by
  induction h with
  | @finish p more hmore =>
      have hlay := @Layout.finish p _ (hmore.append hb)
      rwa [Text.utf8Size_append, ← Nat.add_assoc] at hlay
  | @bad p more rest ch hmore hch =>
      have hlay := @Layout.bad p more (rest ++ blanks) ch hmore hch
      rwa [← List.cons_append, ← List.append_assoc] at hlay
  | @token p more text rest k ts e hmore hm h ih =>
      have hlay := Layout.token hmore (hm.append_blanks hb) ih
      rwa [← List.append_assoc text, ← List.append_assoc more] at hlay

end Layout

/-! ## Trimming -/

theorem Text.trim_concat_of_isBlank {c : Char} (h : isBlank c = true) (cs : List Char) :
    trim (cs ++ [c]) = trim cs := by
  by_cases hcs : cs.dropWhile isBlank = []
  · have hnil : (cs ++ [c]).dropWhile isBlank = [] := by
      rw [List.dropWhile_append, if_pos (by simpa using hcs), List.dropWhile_cons_of_pos h,
        List.dropWhile_nil]
    rw [trim, trim, hcs, hnil]
  · rw [trim, List.dropWhile_append, if_neg (by simpa using hcs), List.reverse_append,
      List.reverse_singleton, List.singleton_append, List.dropWhile_cons_of_pos h, trim]

theorem Text.exists_eq_append_trim (cs : List Char) :
    ∃ behind, AllBlank behind ∧ cs = cs.takeWhile isBlank ++ (trim cs ++ behind) := by
  refine ⟨((cs.dropWhile isBlank).reverse.takeWhile isBlank).reverse, fun c hc => ?_, ?_⟩
  · exact @List.mem_takeWhile_imp _ _ _ c (List.mem_reverse.mp hc)
  · rw [trim, ← List.reverse_append, List.takeWhile_append_dropWhile, List.reverse_reverse,
      List.takeWhile_append_dropWhile]

namespace TokenStream

/-- The stream of an input is that of the trimmed input, moved behind the blank space in front. -/
theorem ofString_eq_trim (s : String) :
    ∃ behind, ofString s =
      ⟨(ofString (String.ofList (Text.trim s.toList))).tokens.map
          (Token.shifted (utf8Size (s.toList.takeWhile Text.isBlank))),
        ((ofString (String.ofList (Text.trim s.toList))).ending.shifted
          (utf8Size (s.toList.takeWhile Text.isBlank))).beforeBlanks behind⟩ := by
  obtain ⟨behind, hbehind, hs⟩ := Text.exists_eq_append_trim s.toList
  have hfront : AllBlank (s.toList.takeWhile Text.isBlank) := fun c hc => List.mem_takeWhile_imp hc
  have hlay := layout_ofString (String.ofList (Text.trim s.toList))
  rw [String.toList_ofList] at hlay
  have hmoved := hlay.shifted (utf8Size (s.toList.takeWhile Text.isBlank))
  have hwhole := @Layout.blanks_append 0 _ _ _ _ _ (hmoved.append_blanks hbehind) hfront (by omega)
  rw [← hs] at hwhole
  exact ⟨_, ofString_eq_of_layout hwhole⟩

end TokenStream

theorem exists_tokenize_trim {s : String} {ts : List Token} (h : tokenize s = .ok ts) :
    ∃ ts', tokenize (String.ofList (Text.trim s.toList)) = .ok ts' ∧
      ts'.map Token.lexeme = ts.map Token.lexeme := by
  obtain ⟨behind, hs⟩ := TokenStream.ofString_eq_trim s
  rw [tokenize, hs] at h
  rw [tokenize]
  generalize TokenStream.ofString (String.ofList (Text.trim s.toList)) = stream at h ⊢
  obtain ⟨tokens, ending⟩ := stream
  cases ending with
  | endOfInput offset =>
      obtain rfl := Except.ok.inj h
      exact ⟨tokens, rfl, by rw [List.map_map, Token.lexeme_comp_shifted]⟩
  | badCharacter ch offset => cases h

end Calculator
