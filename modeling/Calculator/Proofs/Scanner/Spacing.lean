import Calculator.Proofs.Evaluation.Places
import Calculator.Proofs.Scanner.Trimming
import Mathlib.Data.List.Chain

/-!
# Blank space put into a text

Blank space can be put into a text before any of its characters and behind the last one, only not
between two digits. The tokens are the same ones then, each further on by the blank space that has
been put in before it.
-/

namespace Calculator

open Text (utf8Size)

/-- The characters of a text, each with the blank space to be put in before it, and the blank space
to be put in at the end. -/
structure Spacing where
  gaps : List (List Char × Char)
  behind : List Char
  blank : ∀ g ∈ gaps, AllBlank g.1
  blank_behind : AllBlank behind
  digits : gaps.IsChain fun g h => g.2.isDigit = true → h.2.isDigit = true → h.1 = []

namespace Spacing

def plain (w : Spacing) : List Char := w.gaps.map Prod.snd

def spread (gaps : List (List Char × Char)) : List Char := gaps.flatMap fun g => g.1 ++ [g.2]

/-- The text with the blank space put in. -/
def spaced (w : Spacing) : List Char := spread w.gaps ++ w.behind

/-- The blank space put in before the first character or, if there is none, at the end. -/
def nextGap (gaps : List (List Char × Char)) (behind : List Char) : List Char :=
  match gaps with
  | [] => behind
  | g :: _ => g.1

/-- How many bytes are put in before the character at byte `n`; at the end it is all of them. -/
def insertedBefore (behind : List Char) : List (List Char × Char) → Nat → Nat
  | [], _ => utf8Size behind
  | g :: gaps, n =>
    utf8Size g.1 + if n < g.2.utf8Size then 0 else insertedBefore behind gaps (n - g.2.utf8Size)

@[simp] theorem spread_cons (g : List Char × Char) (gaps : List (List Char × Char)) :
    spread (g :: gaps) = g.1 ++ g.2 :: spread gaps := by simp [spread]

@[simp] theorem spread_append (front back : List (List Char × Char)) :
    spread (front ++ back) = spread front ++ spread back := by simp [spread]

/-- What is put in before a character is all that is put in in front of it. -/
theorem utf8Size_spread (behind : List Char) (front back : List (List Char × Char)) :
    utf8Size (spread front) + utf8Size (nextGap back behind) =
      utf8Size (front.map Prod.snd) +
        insertedBefore behind (front ++ back) (utf8Size (front.map Prod.snd)) := by
  induction front with
  | nil =>
      cases back with
      | nil => simp [spread, nextGap, insertedBefore]
      | cons g back =>
          have hpos := g.2.utf8Size_pos
          simp [spread, nextGap, insertedBefore, hpos]
  | cons g front ih =>
      have hle : ¬ g.2.utf8Size + utf8Size (front.map Prod.snd) < g.2.utf8Size := by omega
      simp only [List.cons_append, spread_cons, List.map_cons, Text.utf8Size_append,
        Text.utf8Size_cons, insertedBefore, if_neg hle, Nat.add_sub_cancel_left]
      omega

variable (w : Spacing) {front back : List (List Char × Char)}

/-- The spacing of what comes behind some of the characters. -/
def rest (h : w.gaps = front ++ back) : Spacing where
  gaps := back
  behind := w.behind
  blank := fun g hg => w.blank g (h ▸ List.mem_append_right front hg)
  blank_behind := w.blank_behind
  digits := by
    have hdigits := w.digits
    rw [h] at hdigits
    exact hdigits.right_of_append

theorem allBlank_spread (h : w.gaps = front ++ back) (hfront : AllBlank (front.map Prod.snd)) :
    AllBlank (spread front) := by
  intro c hc
  obtain ⟨g, hg, hc⟩ := List.mem_flatMap.mp hc
  rcases List.mem_append.mp hc with hc | hc
  · exact w.blank g (h ▸ List.mem_append_left back hg) c hc
  · rw [List.mem_singleton.mp hc]
    exact hfront g.2 (List.mem_map_of_mem hg)

theorem allBlank_nextGap (h : w.gaps = front ++ back) : AllBlank (nextGap back w.behind) := by
  cases back with
  | nil => exact w.blank_behind
  | cons g back => exact w.blank g (h ▸ List.mem_append_right front List.mem_cons_self)

theorem spread_of_digits {g : List Char × Char} {gaps : List (List Char × Char)}
    (hdigits : (g :: gaps).IsChain fun g h => g.2.isDigit = true → h.2.isDigit = true → h.1 = [])
    (h : ∀ c ∈ (g :: gaps).map Prod.snd, c.isDigit = true) :
    spread (g :: gaps) = g.1 ++ (g :: gaps).map Prod.snd := by
  induction gaps generalizing g with
  | nil => simp [spread]
  | cons g' gaps ih =>
      obtain ⟨hgap, htail⟩ := List.isChain_cons_cons.mp hdigits
      have hg' : g'.1 = [] := hgap (h g.2 (by simp)) (h g'.2 (by simp))
      have hrest := ih htail fun c hc => h c (List.mem_cons_of_mem _ hc)
      rw [hg', List.nil_append] at hrest
      rw [spread_cons, hrest]
      rfl

/-- Within a token nothing is put in. -/
theorem spread_of_munch {k : TokenKind} {cs : List Char} (h : w.gaps = front ++ back)
    (hm : Munch k (front.map Prod.snd) cs) :
    spread front = nextGap front w.behind ++ front.map Prod.snd := by
  have hdigits := w.digits
  rw [h] at hdigits
  cases front with
  | nil => exact (hm.ne_nil rfl).elim
  | cons g front =>
      generalize htext : (g :: front).map Prod.snd = text at hm ⊢
      cases hm with
      | number _ hds _ =>
          subst htext
          exact spread_of_digits hdigits.left_of_append hds
      | symbol _ =>
          rw [List.map_cons, List.cons.injEq, List.map_eq_nil_iff] at htext
          obtain ⟨rfl, rfl⟩ := htext
          simp [spread, nextGap]

/-- Behind a token no digit appears that goes on with it. -/
theorem munch_spread {k : TokenKind} {text : List Char} (h : w.gaps = front ++ back)
    (hm : Munch k text (back.map Prod.snd)) : Munch k text (spread back ++ w.behind) := by
  have hgap : AllBlank (nextGap back w.behind) := w.allBlank_nextGap h
  cases hm with
  | symbol hk => exact .symbol hk
  | number hne hds hrest =>
      refine .number hne hds ?_
      intro c hc
      cases back with
      | nil => exact Text.isDigit_of_isBlank (hgap c (List.mem_of_mem_head? hc))
      | cons g back =>
          obtain ⟨blanks, d⟩ := g
          cases blanks with
          | nil => exact hrest c hc
          | cons b blanks =>
              obtain rfl : b = c := Option.some.inj hc
              exact Text.isDigit_of_isBlank (hgap b List.mem_cons_self)

end Spacing

open Spacing

variable {R : Nat → Nat → Prop}

/-- The layout of the text with the blank space put in, when `R` holds of the two places of each
character and of the two ends. -/
theorem Layout.exists_spaced {p : Nat} {cs : List Char} {ts : List Token} {e : StreamEnd}
    (h : Layout p cs ts e) (w : Spacing) (hw : w.plain = cs) {q : Nat}
    (hR : ∀ front back, w.gaps = front ++ back → R (p + utf8Size (front.map Prod.snd))
      (q + (utf8Size (spread front) + utf8Size (nextGap back w.behind)))) :
    ∃ us e', Layout q w.spaced us e' ∧ List.Forall₂ (Token.Moved R) ts us ∧ e.Moved R e' := by
  induction h generalizing w q with
  | @finish p blanks hb =>
      have hgaps : w.gaps = w.gaps ++ [] := (List.append_nil _).symm
      subst hw
      have hblank : AllBlank w.spaced := (w.allBlank_spread hgaps hb).append w.blank_behind
      refine ⟨[], _, .finish hblank, .nil, .endOfInput ?_⟩
      rw [spaced, Text.utf8Size_append]
      exact hR _ _ hgaps
  | @bad p blanks rest ch hb hch =>
      obtain ⟨front, back, hgaps, hfront, hback⟩ := List.map_eq_append_iff.mp hw
      obtain ⟨g, back, rfl, rfl, -⟩ := List.map_eq_cons_iff.mp hback
      have hgap : AllBlank g.1 := w.allBlank_nextGap hgaps
      have hblank : AllBlank (spread front ++ g.1) :=
        (w.allBlank_spread hgaps (hfront ▸ hb)).append hgap
      have hspaced : w.spaced = (spread front ++ g.1) ++ g.2 :: (spread back ++ w.behind) := by
        rw [spaced, hgaps]
        simp
      rw [hspaced]
      refine ⟨[], _, .bad hblank hch, .nil, .badCharacter ?_⟩
      rw [← hfront, Text.utf8Size_append]
      exact hR _ _ hgaps
  | @token p blanks text rest k ts e hb hm h ih =>
      obtain ⟨front, back, hgaps, hfront, hback⟩ := List.map_eq_append_iff.mp hw
      obtain ⟨mid, back, rfl, rfl, rfl⟩ := List.map_eq_append_iff.mp hback
      have hgaps' : w.gaps = (front ++ mid) ++ back := by rw [hgaps, List.append_assoc]
      have hmid : spread mid = nextGap mid w.behind ++ mid.map Prod.snd :=
        (w.rest hgaps).spread_of_munch rfl hm
      have hnext : nextGap (mid ++ back) w.behind = nextGap mid w.behind := by
        cases mid with
        | nil => exact (hm.ne_nil rfl).elim
        | cons g mid => rfl
      have hblank : AllBlank (spread front ++ nextGap mid w.behind) := by
        have hgap := w.allBlank_nextGap hgaps
        rw [hnext] at hgap
        exact (w.allBlank_spread hgaps (hfront ▸ hb)).append hgap
      have hspaced : w.spaced = (spread front ++ nextGap mid w.behind) ++
          (mid.map Prod.snd ++ (spread back ++ w.behind)) := by
        rw [spaced, hgaps, spread_append, spread_append, hmid]
        simp
      have hR' : ∀ front' back', back = front' ++ back' →
          R (p + utf8Size blanks + utf8Size (mid.map Prod.snd) + utf8Size (front'.map Prod.snd))
            (q + utf8Size (spread front ++ nextGap mid w.behind) + utf8Size (mid.map Prod.snd) +
              (utf8Size (spread front') + utf8Size (nextGap back' w.behind))) := by
        rintro front' back' rfl
        have h := hR (front ++ mid ++ front') back' (by rw [hgaps']; simp)
        simp only [spread_append, hmid, List.map_append, hfront, Text.utf8Size_append] at h ⊢
        simpa only [Nat.add_assoc] using h
      obtain ⟨us, e', hlay, hus, he'⟩ := ih (w.rest hgaps') rfl hR'
      rw [hspaced]
      refine ⟨_, e', .token hblank (w.munch_spread hgaps' hm) hlay, .cons ⟨rfl, rfl, ?_⟩ hus, he'⟩
      have hplace := hR front (mid ++ back) hgaps
      rwa [hfront, hnext, ← Text.utf8Size_append] at hplace

end Calculator
