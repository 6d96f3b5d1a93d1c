import Calculator.Proofs.Scanner.Spacing

/-!
# Blank space does not count

What an input evaluates to is decided by its lexemes, up to its end or its first bad character:
by the value when there is one, and otherwise by the cause and contents of the error. Only the
offsets in the error depend on the blank space, and they are those of the corresponding tokens.
-/

namespace Calculator

open Text (utf8Size)

def StreamEnd.offset : StreamEnd → Nat
  | endOfInput offset => offset
  | badCharacter _ offset => offset

namespace TokenStream

/-- The lexemes of a stream, and the bad character behind them if there is one. -/
def lexemes (S : TokenStream) : List Lexeme × Option Char :=
  (S.tokens.map Token.lexeme,
    match S.ending with
    | .endOfInput _ => none
    | .badCharacter ch _ => some ch)

/-- Where the tokens stand and where they end. -/
def places (S : TokenStream) : List Nat := S.tokens.map Token.offset ++ [S.ending.offset]

/-- At the same number of tokens, the one offset stands in `S` and the other in `T`. -/
def SamePlace (S T : TokenStream) (o o' : Nat) : Prop := (o, o') ∈ S.places.zip T.places

theorem forall₂_of_lexemes {ts us : List Token}
    (h : ts.map Token.lexeme = us.map Token.lexeme) :
    List.Forall₂ (Token.Moved fun o o' =>
      (o, o') ∈ (ts.map Token.offset).zip (us.map Token.offset)) ts us := by
  induction ts generalizing us with
  | nil =>
      obtain rfl := List.map_eq_nil_iff.mp h.symm
      exact .nil
  | cons t ts ih =>
      obtain ⟨u, us, rfl, ht, hts⟩ := List.map_eq_cons_iff.mp h.symm
      obtain ⟨hkind, htext⟩ := Prod.mk.inj ht
      refine .cons ⟨hkind.symm, htext.symm, List.mem_cons_self⟩ ((ih hts.symm).imp ?_)
      intro a b hab
      exact ⟨hab.kind, hab.text, List.mem_cons_of_mem _ hab.offset⟩

theorem moved_of_lexemes {S T : TokenStream} (h : S.lexemes = T.lexemes) :
    S.Moved (SamePlace S T) T := by
  obtain ⟨tokens, ending⟩ := S
  obtain ⟨tokens', ending'⟩ := T
  obtain ⟨htokens, hending⟩ := Prod.mk.inj h
  have hlength : (tokens.map Token.offset).length = (tokens'.map Token.offset).length := by
    have hlexemes := congrArg List.length htokens
    rwa [List.length_map, List.length_map] at hlexemes ⊢
  have hplaces : ∀ o o', SamePlace ⟨tokens, ending⟩ ⟨tokens', ending'⟩ o o' ↔
      (o, o') ∈ (tokens.map Token.offset).zip (tokens'.map Token.offset) ∨
        o = ending.offset ∧ o' = ending'.offset := by
    intro o o'
    rw [SamePlace, places, places, List.zip_append hlength]
    simp
  refine ⟨(forall₂_of_lexemes htokens).imp ?_, ?_⟩
  · intro t u htu
    exact ⟨htu.kind, htu.text, (hplaces _ _).mpr (.inl htu.offset)⟩
  · have hend := (hplaces _ _).mpr (.inr ⟨rfl, rfl⟩)
    cases ending <;> cases ending' <;> cases hending
    · exact .endOfInput hend
    · exact .badCharacter hend

theorem moved_trim (s : String) :
    (ofString s).Moved (fun _ _ => True) (ofString (String.ofList (Text.trim s.toList))) := by
  obtain ⟨behind, hs⟩ := ofString_eq_trim s
  generalize ofString (String.ofList (Text.trim s.toList)) = stream at hs
  obtain ⟨tokens, ending⟩ := stream
  rw [hs]
  constructor
  · rw [List.forall₂_map_left_iff, List.forall₂_same]
    intro t _
    exact ⟨rfl, rfl, trivial⟩
  · cases ending with
    | endOfInput offset => exact .endOfInput trivial
    | badCharacter ch offset => exact .badCharacter trivial

end TokenStream

namespace Spacing

variable (w : Spacing)

/-- How many bytes of blank space are put in before the character at byte `n` of the text, or at
its end. -/
def inserted (n : Nat) : Nat := insertedBefore w.behind w.gaps n

theorem utf8Size_spaced : utf8Size w.spaced = utf8Size w.plain + w.inserted (utf8Size w.plain) := by
  have hsize := utf8Size_spread w.behind w.gaps []
  rw [List.append_nil] at hsize
  rw [spaced, Text.utf8Size_append]
  exact hsize

theorem moved_spaced : (TokenStream.ofString (String.ofList w.plain)).Moved
    (fun o o' => o' = o + w.inserted o) (TokenStream.ofString (String.ofList w.spaced)) := by
  have hlay := TokenStream.layout_ofString (String.ofList w.plain)
  rw [String.toList_ofList] at hlay
  have hplaces : ∀ front back, w.gaps = front ++ back →
      0 + (utf8Size (spread front) + utf8Size (nextGap back w.behind)) =
        0 + utf8Size (front.map Prod.snd) + w.inserted (0 + utf8Size (front.map Prod.snd)) := by
    intro front back h
    rw [inserted, h, Nat.zero_add, Nat.zero_add]
    exact utf8Size_spread w.behind front back
  obtain ⟨us, e, hspaced, htokens, hending⟩ :=
    hlay.exists_spaced (R := fun o o' => o' = o + w.inserted o) w rfl (q := 0) hplaces
  rw [← String.toList_ofList (l := w.spaced)] at hspaced
  rw [TokenStream.ofString_eq_of_layout hspaced]
  exact ⟨htokens, hending⟩

end Spacing

/-- Blank space put in anywhere but between two digits changes no value, and no error but for the
offsets in it, each by as many bytes as have been put in before it. In general, inputs with the
same lexemes up to their ends or first bad characters differ in nothing but the offsets of the
tokens. -/
theorem sameOutcome_of_blank_space :
    (∀ w : Spacing,
      SameOutcome (fun o o' => o' = o + w.inserted o) (evaluate (String.ofList w.plain))
        (evaluate (String.ofList w.spaced)) ∧
      (String.ofList w.spaced).utf8ByteSize = (String.ofList w.plain).utf8ByteSize +
        w.inserted (String.ofList w.plain).utf8ByteSize) ∧
    ∀ s s', (TokenStream.ofString s).lexemes = (TokenStream.ofString s').lexemes →
      SameOutcome ((TokenStream.ofString s).SamePlace (TokenStream.ofString s')) (evaluate s)
        (evaluate s') := by
  refine ⟨fun w => ⟨sameOutcome_of_moved w.moved_spaced, ?_⟩, fun s s' h => ?_⟩
  · have hsize := w.utf8Size_spaced
    rwa [← String.toList_ofList (l := w.spaced), ← String.toList_ofList (l := w.plain),
      Text.utf8Size_toList, Text.utf8Size_toList] at hsize
  · exact sameOutcome_of_moved (TokenStream.moved_of_lexemes h)

theorem sameOutcome_of_blank_space_wide :
    (∃ w : Spacing, String.ofList w.plain = "(12$" ∧ String.ofList w.spaced = "(\u3000 12 $ " ∧
      SameOutcome (fun o o' => o' = o + w.inserted o) (evaluate "(12$") (evaluate "(\u3000 12 $ ") ∧
      w.inserted 3 = 5) ∧
    (TokenStream.ofString "(12 $").lexemes = (TokenStream.ofString "( 12$ 3").lexemes ∧
    SameOutcome ((TokenStream.ofString "(12 $").SamePlace (TokenStream.ofString "( 12$ 3"))
      (evaluate "(12 $") (evaluate "( 12$ 3") := by
  have hlexemes : (TokenStream.ofString "(12 $").lexemes =
      (TokenStream.ofString "( 12$ 3").lexemes := by decide +kernel
  let w : Spacing :=
    { gaps := [([], '('), (['\u3000', ' '], '1'), ([], '2'), ([' '], '$')]
      behind := [' ']
      blank := by simp [AllBlank, Text.isBlank]
      blank_behind := by simp [AllBlank, Text.isBlank]
      digits := by decide }
  refine ⟨⟨w, by decide, by decide, (sameOutcome_of_blank_space.1 w).1, by decide⟩, hlexemes, ?_⟩
  exact sameOutcome_of_blank_space.2 _ _ hlexemes

end Calculator
