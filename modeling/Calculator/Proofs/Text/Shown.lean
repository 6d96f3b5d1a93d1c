import Calculator.Text.Plain
import Calculator.Text.Quoted
import Mathlib.Data.List.Basic

/-!
# Text that shows

Text without control characters of ASCII. Numbers are such text, and so is quoted text, whatever it
quotes. Writing text without control sequences leaves such text alone.
-/

namespace Calculator

/-- Not a control character of ASCII. -/
def IsShown (c : Char) : Prop := 0x20 ≤ c.toNat ∧ c.toNat ≠ 0x7f

instance (c : Char) : Decidable (IsShown c) := inferInstanceAs (Decidable (_ ∧ _))

def AllShown (s : String) : Prop := ∀ c ∈ s.toList, IsShown c

-- the members of the list are tried, not all characters
instance (s : String) : Decidable (AllShown s) :=
  List.decidableBAll IsShown s.toList

theorem IsShown.isControl_eq_false {c : Char} (h : IsShown c) : Text.isControl c = false := by
  obtain ⟨hlow, hdel⟩ := h
  have hlt : ¬ c.toNat < 0x20 := by omega
  have hne : c ≠ '\x7f' := by
    rintro rfl
    exact hdel rfl
  simp [Text.isControl, hlt, hne]

theorem IsShown.of_isDigit {c : Char} (h : c.isDigit = true) : IsShown c := by
  simp only [Char.isDigit, Bool.and_eq_true, decide_eq_true_eq, ge_iff_le,
    UInt32.le_iff_toNat_le] at h
  have hlow : 48 ≤ c.toNat := h.1
  have hhigh : c.toNat ≤ 57 := h.2
  exact ⟨by omega, by omega⟩

/-- The digits of every base up to that of hexadecimal numbers. -/
theorem IsShown.of_mem_toDigits {b n : Nat} (hb : 1 < b) (hb' : b ≤ 16) {c : Char}
    (h : c ∈ Nat.toDigits b n) : IsShown c := by
  have hdigit : ∀ m, m < 16 → IsShown m.digitChar := by decide
  induction n using Nat.strongRecOn with
  | _ n ih =>
      rw [Nat.toDigits_eq_if hb] at h
      split at h
      · next hn =>
        rw [List.mem_singleton.mp h]
        exact hdigit n (by omega)
      · next hn =>
        rcases List.mem_append.mp h with h | h
        · exact ih (n / b) (Nat.div_lt_self (by omega) hb) h
        · have hlt : n % b < b := Nat.mod_lt n (by omega)
          rw [List.mem_singleton.mp h]
          exact hdigit (n % b) (by omega)

namespace AllShown

variable {s t : String} {cs : List Char}

theorem empty : AllShown "" := by decide

theorem append (hs : AllShown s) (ht : AllShown t) : AllShown (s ++ t) := by
  intro c hc
  rw [String.toList_append, List.mem_append] at hc
  exact hc.elim (hs c) (ht c)

theorem ofList_iff : AllShown (String.ofList cs) ↔ ∀ c ∈ cs, IsShown c := by
  rw [AllShown, String.toList_ofList]

theorem natText (n : Nat) : AllShown (toString n) := by
  rw [Nat.toString_eq_ofList_toDigits, ofList_iff]
  intro c hc
  exact .of_mem_toDigits (by decide) (by decide) hc

theorem intercalate (hs : AllShown s) {ts : List String} (h : ∀ t ∈ ts, AllShown t) :
    AllShown (s.intercalate ts) := by
  induction ts with
  | nil => exact .empty
  | cons t ts ih =>
      have ht := h t List.mem_cons_self
      have hts := ih fun u hu => h u (List.mem_cons_of_mem _ hu)
      cases ts with
      | nil => simpa using ht
      | cons u us =>
          rw [String.intercalate_cons_cons]
          exact (ht.append hs).append hts

end AllShown

/-! ## Quoted text -/

namespace Text

theorem isShown_of_isGraphic {c : Char} (h : isGraphic c = true) : IsShown c := by
  unfold isGraphic at h
  split at h
  · simp only [Bool.and_eq_true, decide_eq_true_eq] at h
    exact ⟨h.1, by omega⟩
  · next hlow => exact ⟨by omega, by omega⟩

theorem isShown_of_mem_escape {c d : Char} (h : d ∈ escape c) : IsShown d := by
  have hshort : ∀ {d e : Char}, d ∈ ['\\', e] → IsShown e → IsShown d := by
    intro d e hd he
    rcases List.mem_cons.mp hd with rfl | hd
    · decide
    · rwa [List.mem_singleton.mp hd]
  unfold escape at h
  split_ifs at h with _ _ _ _ _ _ hgraphic
  any_goals exact hshort h (by decide)
  · rw [List.mem_singleton.mp h]
    exact isShown_of_isGraphic hgraphic
  · rw [List.append_assoc, List.mem_append, List.mem_append] at h
    rcases h with h | h | h
    · have hopen : AllShown (String.ofList ['\\', 'u', '\x7b']) := by decide
      exact AllShown.ofList_iff.mp hopen d h
    · exact .of_mem_toDigits (by decide) (by decide) h
    · rw [List.mem_singleton.mp h]
      decide

theorem allShown_quote (s : String) : AllShown (quote s) := by
  rw [quote, AllShown.ofList_iff, List.cons_append, List.forall_mem_cons, List.forall_mem_append,
    List.forall_mem_singleton]
  refine ⟨by decide, ?_, by decide⟩
  intro d hd
  obtain ⟨c, -, hd⟩ := List.mem_flatMap.mp hd
  exact isShown_of_mem_escape hd

end Text

end Calculator
