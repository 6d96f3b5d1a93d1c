import Calculator.Proofs.Scanner.Trimming

/-!
# Blank ends and lower case

What is between the blank ends of a text does not depend on them, and has no blank ends itself. It
is the same place in lower case, because neither a capital letter nor a small one is blank.
-/

namespace Calculator.Text

variable {blanks cs : List Char}

/-! ## Blank ends -/

theorem trim_append_blanks (h : AllBlank blanks) (cs : List Char) :
    trim (cs ++ blanks) = trim cs := by
  induction blanks generalizing cs with
  | nil => rw [List.append_nil]
  | cons c blanks ih =>
      obtain ⟨hc, hblanks⟩ := List.forall_mem_cons.mp h
      rw [← List.singleton_append, ← List.append_assoc, ih hblanks, trim_concat_of_isBlank hc]

theorem trim_blanks_append (h : AllBlank blanks) (cs : List Char) :
    trim (blanks ++ cs) = trim cs := by
  rw [trim, trim, List.dropWhile_append_of_pos h]

theorem exists_trim_between (cs : List Char) : ∃ front behind,
    AllBlank front ∧ AllBlank behind ∧ cs = front ++ (trim cs ++ behind) := by
  obtain ⟨behind, hbehind, hcs⟩ := exists_eq_append_trim cs
  exact ⟨_, behind, fun c hc => List.mem_takeWhile_imp hc, hbehind, hcs⟩

theorem trim_trim (cs : List Char) : trim (trim cs) = trim cs := by
  obtain ⟨front, behind, hfront, hbehind, hcs⟩ := exists_trim_between cs
  have htrim := congrArg trim hcs
  rwa [trim_blanks_append hfront, trim_append_blanks hbehind, eq_comm] at htrim

theorem trim_eq_nil_iff : trim cs = [] ↔ AllBlank cs := by
  refine ⟨fun h => ?_, fun h => trim_append_blanks h []⟩
  obtain ⟨front, behind, hfront, hbehind, hcs⟩ := exists_trim_between cs
  rw [h, List.nil_append] at hcs
  rw [hcs]
  exact hfront.append hbehind

theorem trim_eq_self_of_length_le (h : cs.length ≤ (trim cs).length) : trim cs = cs := by
  obtain ⟨front, behind, -, -, hcs⟩ := exists_trim_between cs
  have hlength := congrArg List.length hcs
  rw [List.length_append, List.length_append] at hlength
  have hfront : front = [] := List.eq_nil_of_length_eq_zero (by omega)
  have hbehind : behind = [] := List.eq_nil_of_length_eq_zero (by omega)
  rwa [hfront, hbehind, List.append_nil, List.nil_append, eq_comm] at hcs

/-! ## Lower case -/

/-- Only a capital letter has another lower case, which is a small letter. -/
theorem toLower_eq_self_or (c : Char) : c.toLower = c ∨
    (65 ≤ c.toNat ∧ c.toNat ≤ 90) ∧ c.toLower.toNat = c.toNat + 32 := by
  unfold Char.toLower
  split
  · next h =>
    have hge : 65 ≤ c.toNat := h.1
    have hle : c.toNat ≤ 90 := h.2
    have hadd : (c.val + 32).toNat = c.toNat + 32 := by
      have hc : c.val.toNat = c.toNat := rfl
      have hshift : (32 : UInt32).toNat = 32 := rfl
      rw [UInt32.toNat_add]
      omega
    exact .inr ⟨⟨hge, hle⟩, hadd⟩
  · exact .inl rfl

/-- A character that is no small letter is the lower case of itself only. -/
theorem eq_of_toLower {c d : Char} (hd : ¬ (97 ≤ d.toNat ∧ d.toNat ≤ 122))
    (h : c.toLower = d) : c = d := by
  rcases toLower_eq_self_or c with hc | ⟨hc, hlower⟩
  · rwa [hc] at h
  · rw [h] at hlower
    omega

theorem isBlank_of_letter {c : Char} (hlow : 65 ≤ c.toNat) (hhigh : c.toNat ≤ 122) :
    isBlank c = false := by
  simp only [isBlank, Bool.or_eq_false_iff, Bool.and_eq_false_iff, decide_eq_false_iff_not,
    beq_eq_false_iff_ne]
  omega

theorem isBlank_toLower (c : Char) : isBlank c.toLower = isBlank c := by
  rcases toLower_eq_self_or c with h | ⟨hc, h⟩
  · rw [h]
  · rw [isBlank_of_letter hc.1 (by omega), isBlank_of_letter (by omega) (by omega)]

theorem trim_map_toLower (cs : List Char) :
    trim (cs.map Char.toLower) = (trim cs).map Char.toLower := by
  have hblank : isBlank ∘ Char.toLower = isBlank := funext isBlank_toLower
  rw [trim, List.dropWhile_map, hblank, ← List.map_reverse, List.dropWhile_map, hblank,
    ← List.map_reverse, trim]

end Calculator.Text
