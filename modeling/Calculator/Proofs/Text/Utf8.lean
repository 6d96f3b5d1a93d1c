import Calculator.Session.Source

/-!
# Decoding what has been encoded

Between two characters the decoder reads the bytes of a character as this character, and is between
two characters again. So it undoes encoding. The byte of a line feed occurs in no character but the
line feed.
-/

namespace Calculator.Text

namespace Decoder

variable {cs : List Char} {value least greatest : Nat} {b : UInt8}

theorem step_last (hlow : least ≤ b.toNat) (hhigh : b.toNat ≤ greatest) :
    step ⟨cs, some ⟨value, least, greatest, 0⟩⟩ b =
      ⟨Char.ofNat (value * 64 + (b.toNat - 0x80)) :: cs, none⟩ := by
  simp [step, hlow, hhigh]

theorem step_more {k : Nat} (hlow : least ≤ b.toNat) (hhigh : b.toNat ≤ greatest) :
    step ⟨cs, some ⟨value, least, greatest, k + 1⟩⟩ b =
      ⟨cs, some ⟨value * 64 + (b.toNat - 0x80), 0x80, 0xbf, k⟩⟩ := by
  simp [step, hlow, hhigh]

theorem step_lead (cs : List Char) (b : UInt8) : step ⟨cs, none⟩ b = begin cs b := rfl

theorem begin_one (h : b.toNat < 0x80) : begin cs b = ⟨Char.ofNat b.toNat :: cs, none⟩ := by
  simp [begin, lead, h]

theorem begin_two (hlow : 0xc2 ≤ b.toNat) (hhigh : b.toNat < 0xe0) :
    begin cs b = ⟨cs, some ⟨b.toNat - 0xc0, 0x80, 0xbf, 0⟩⟩ := by
  have h₁ : ¬ b.toNat < 0x80 := by omega
  have h₂ : ¬ b.toNat < 0xc2 := by omega
  simp only [begin, lead, h₁, h₂, hhigh, ↓reduceIte]

theorem begin_three (hlow : 0xe0 ≤ b.toNat) (hhigh : b.toNat < 0xf0) :
    begin cs b = ⟨cs, some ⟨b.toNat - 0xe0, if b.toNat = 0xe0 then 0xa0 else 0x80,
      if b.toNat = 0xed then 0x9f else 0xbf, 1⟩⟩ := by
  have h₁ : ¬ b.toNat < 0x80 := by omega
  have h₂ : ¬ b.toNat < 0xc2 := by omega
  have h₃ : ¬ b.toNat < 0xe0 := by omega
  simp only [begin, lead, h₁, h₂, h₃, hhigh, ↓reduceIte]

theorem begin_four (hlow : 0xf0 ≤ b.toNat) (hhigh : b.toNat < 0xf5) :
    begin cs b = ⟨cs, some ⟨b.toNat - 0xf0, if b.toNat = 0xf0 then 0x90 else 0x80,
      if b.toNat = 0xf4 then 0x8f else 0xbf, 2⟩⟩ := by
  have h₁ : ¬ b.toNat < 0x80 := by omega
  have h₂ : ¬ b.toNat < 0xc2 := by omega
  have h₃ : ¬ b.toNat < 0xe0 := by omega
  have h₄ : ¬ b.toNat < 0xf0 := by omega
  simp only [begin, lead, h₁, h₂, h₃, h₄, hhigh, ↓reduceIte]

theorem toNat_ofNat {n : Nat} (h : n < 256) : (UInt8.ofNat n).toNat = n := by
  rw [UInt8.toNat_ofNat']
  exact Nat.mod_eq_of_lt h

section Bytes

variable {n : Nat}

theorem foldl_one (h : n ≤ 127) (cs : List Char) :
    [UInt8.ofNat n].foldl step ⟨cs, none⟩ = ⟨Char.ofNat n :: cs, none⟩ := by
  have hb : (UInt8.ofNat n).toNat = n := toNat_ofNat (by omega)
  rw [List.foldl_cons, List.foldl_nil, step_lead, begin_one (by omega), hb]

theorem foldl_two (hlow : 127 < n) (hhigh : n ≤ 2047) (cs : List Char) :
    [UInt8.ofNat (n / 64 % 32 + 192), UInt8.ofNat (n % 64 + 128)].foldl step ⟨cs, none⟩ =
      ⟨Char.ofNat n :: cs, none⟩ := by
  have hb₁ : (UInt8.ofNat (n / 64 % 32 + 192)).toNat = n / 64 % 32 + 192 := toNat_ofNat (by omega)
  have hb₂ : (UInt8.ofNat (n % 64 + 128)).toNat = n % 64 + 128 := toNat_ofNat (by omega)
  have hn : (n / 64 % 32 + 192 - 0xc0) * 64 + (n % 64 + 128 - 0x80) = n := by omega
  rw [List.foldl_cons, List.foldl_cons, List.foldl_nil, step_lead, begin_two (by omega) (by omega),
    step_last (by omega) (by omega), hb₁, hb₂, hn]

theorem foldl_three (hlow : 2047 < n) (hhigh : n ≤ 65535) (hn : n < 0xd800 ∨ 0xdfff < n)
    (cs : List Char) :
    [UInt8.ofNat (n / 4096 % 16 + 224), UInt8.ofNat (n / 64 % 64 + 128),
      UInt8.ofNat (n % 64 + 128)].foldl step ⟨cs, none⟩ = ⟨Char.ofNat n :: cs, none⟩ := by
  have hb₁ : (UInt8.ofNat (n / 4096 % 16 + 224)).toNat = n / 4096 % 16 + 224 :=
    toNat_ofNat (by omega)
  have hb₂ : (UInt8.ofNat (n / 64 % 64 + 128)).toNat = n / 64 % 64 + 128 := toNat_ofNat (by omega)
  have hb₃ : (UInt8.ofNat (n % 64 + 128)).toNat = n % 64 + 128 := toNat_ofNat (by omega)
  have hn : ((n / 4096 % 16 + 224 - 0xe0) * 64 + (n / 64 % 64 + 128 - 0x80)) * 64 +
      (n % 64 + 128 - 0x80) = n := by omega
  rw [List.foldl_cons, List.foldl_cons, List.foldl_cons, List.foldl_nil, step_lead,
    begin_three (by omega) (by omega), step_more (by split <;> omega) (by split <;> omega),
    step_last (by omega) (by omega), hb₁, hb₂, hb₃, hn]

theorem foldl_four (hlow : 65535 < n) (hhigh : n < 0x110000) (cs : List Char) :
    [UInt8.ofNat (n / 262144 % 8 + 240), UInt8.ofNat (n / 4096 % 64 + 128),
      UInt8.ofNat (n / 64 % 64 + 128), UInt8.ofNat (n % 64 + 128)].foldl step ⟨cs, none⟩ =
        ⟨Char.ofNat n :: cs, none⟩ := by
  have hb₁ : (UInt8.ofNat (n / 262144 % 8 + 240)).toNat = n / 262144 % 8 + 240 :=
    toNat_ofNat (by omega)
  have hb₂ : (UInt8.ofNat (n / 4096 % 64 + 128)).toNat = n / 4096 % 64 + 128 :=
    toNat_ofNat (by omega)
  have hb₃ : (UInt8.ofNat (n / 64 % 64 + 128)).toNat = n / 64 % 64 + 128 := toNat_ofNat (by omega)
  have hb₄ : (UInt8.ofNat (n % 64 + 128)).toNat = n % 64 + 128 := toNat_ofNat (by omega)
  have hn : (((n / 262144 % 8 + 240 - 0xf0) * 64 + (n / 4096 % 64 + 128 - 0x80)) * 64 +
      (n / 64 % 64 + 128 - 0x80)) * 64 + (n % 64 + 128 - 0x80) = n := by omega
  rw [List.foldl_cons, List.foldl_cons, List.foldl_cons, List.foldl_cons, List.foldl_nil, step_lead,
    begin_four (by omega) (by omega), step_more (by split <;> omega) (by split <;> omega),
    step_more (by omega) (by omega), step_last (by omega) (by omega), hb₁, hb₂, hb₃, hb₄, hn]

end Bytes

theorem utf8EncodeChar_eq (c : Char) : String.utf8EncodeChar c =
    if c.toNat ≤ 127 then [UInt8.ofNat c.toNat]
    else if c.toNat ≤ 2047 then
      [UInt8.ofNat (c.toNat / 64 % 32 + 192), UInt8.ofNat (c.toNat % 64 + 128)]
    else if c.toNat ≤ 65535 then
      [UInt8.ofNat (c.toNat / 4096 % 16 + 224), UInt8.ofNat (c.toNat / 64 % 64 + 128),
        UInt8.ofNat (c.toNat % 64 + 128)]
    else
      [UInt8.ofNat (c.toNat / 262144 % 8 + 240), UInt8.ofNat (c.toNat / 4096 % 64 + 128),
        UInt8.ofNat (c.toNat / 64 % 64 + 128), UInt8.ofNat (c.toNat % 64 + 128)] := rfl

/-- The bytes of a character are read as this character. -/
theorem foldl_step_utf8EncodeChar (cs : List Char) (c : Char) :
    (String.utf8EncodeChar c).foldl step ⟨cs, none⟩ = ⟨c :: cs, none⟩ := by
  have hvalid : c.toNat < 0xd800 ∨ 0xdfff < c.toNat ∧ c.toNat < 0x110000 := c.valid
  have hc : Char.ofNat c.toNat = c := Char.ofNat_toNat c
  rw [utf8EncodeChar_eq]
  by_cases h₁ : c.toNat ≤ 127
  · rw [if_pos h₁, foldl_one h₁, hc]
  · by_cases h₂ : c.toNat ≤ 2047
    · rw [if_neg h₁, if_pos h₂, foldl_two (by omega) h₂, hc]
    · by_cases h₃ : c.toNat ≤ 65535
      · rw [if_neg h₁, if_neg h₂, if_pos h₃, foldl_three (by omega) h₃ (by omega), hc]
      · rw [if_neg h₁, if_neg h₂, if_neg h₃, foldl_four (by omega) (by omega), hc]

theorem foldl_step_encoded (cs ds : List Char) :
    (ds.flatMap String.utf8EncodeChar).foldl step ⟨cs, none⟩ = ⟨ds.reverse ++ cs, none⟩ := by
  induction ds generalizing cs with
  | nil => rfl
  | cons d ds ih =>
      rw [List.flatMap_cons, List.foldl_append, foldl_step_utf8EncodeChar, ih]
      simp

end Decoder

@[simp] theorem decode_encode (s : String) : decode (encode s) = s.toList := by
  rw [decode, encode, Decoder.empty, Decoder.foldl_step_encoded]
  simp [Decoder.text]

theorem encode_eq_nil_iff {s : String} : encode s = [] ↔ s = "" := by
  constructor
  · intro h
    have hs := decode_encode s
    rw [h, decode_nil] at hs
    exact String.toList_eq_nil_iff.mp hs.symm
  · rintro rfl
    rfl

/-! ## Line feeds -/

theorem eq_lineFeed_of_mem {c : Char} (h : lineFeed ∈ String.utf8EncodeChar c) : c = '\n' := by
  have hc : Char.ofNat c.toNat = c := Char.ofNat_toNat c
  have hvalid : c.toNat < 0xd800 ∨ 0xdfff < c.toNat ∧ c.toNat < 0x110000 := c.valid
  -- every byte but that of a one-byte character is 128 or more
  have hhigh : ∀ n, 128 ≤ n → n < 256 → lineFeed ≠ UInt8.ofNat n := by
    intro n hlow hlt heq
    have hn := congrArg UInt8.toNat heq
    rw [Decoder.toNat_ofNat hlt] at hn
    have hfeed : lineFeed.toNat = 10 := rfl
    omega
  rw [Decoder.utf8EncodeChar_eq] at h
  split at h
  · have hn := congrArg UInt8.toNat (List.mem_singleton.mp h)
    rw [Decoder.toNat_ofNat (by omega)] at hn
    rw [← hc, ← hn]
    rfl
  · exfalso
    split at h
    · rcases List.mem_cons.mp h with h | h
      · exact hhigh _ (by omega) (by omega) h
      · exact hhigh _ (by omega) (by omega) (List.mem_singleton.mp h)
    · split at h
      · simp only [List.mem_cons, List.not_mem_nil, or_false] at h
        rcases h with h | h | h
        all_goals exact hhigh _ (by omega) (by omega) h
      · simp only [List.mem_cons, List.not_mem_nil, or_false] at h
        rcases h with h | h | h | h
        all_goals exact hhigh _ (by omega) (by omega) h

theorem lineFeed_mem_encode_iff (s : String) : lineFeed ∈ encode s ↔ '\n' ∈ s.toList := by
  rw [encode, List.mem_flatMap]
  constructor
  · rintro ⟨c, hc, hfeed⟩
    rwa [← eq_lineFeed_of_mem hfeed]
  · intro h
    exact ⟨'\n', h, by decide⟩

end Calculator.Text
