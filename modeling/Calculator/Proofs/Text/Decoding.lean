import Calculator.Proofs.Text.Utf8

/-!
# Decoding any bytes

The decoder reads bytes in pieces, each the bytes of a character or else replaced. So bytes that
are no text leave a replacement character behind. No line feed is in a piece that is replaced, and
at a line feed the decoder is between two pieces: lines are decoded one by one.
-/

namespace Calculator.Text

/-- The bytes of some text. -/
def IsUtf8 (bs : List UInt8) : Prop := ∃ s : String, encode s = bs

/-- Bytes that can be divided into pieces which are read as these characters. -/
inductive Reads : List UInt8 → List Char → Prop where
  | nil : Reads [] []
  | char {bs : List UInt8} {cs : List Char} (h : Reads bs cs) (c : Char) :
      Reads (bs ++ String.utf8EncodeChar c) (cs ++ [c])
  | malformed {bs piece : List UInt8} {cs : List Char} (h : Reads bs cs) (hne : piece ≠ [])
      (hfeed : lineFeed ∉ piece) : Reads (bs ++ piece) (cs ++ [replacement])

namespace Reads

variable {bs : List UInt8} {cs : List Char}

theorem encode_eq (h : Reads bs cs) (hcs : replacement ∉ cs) : encode (String.ofList cs) = bs := by
  induction h with
  | nil => rfl
  | char h c ih =>
      rw [String.ofList_append, encode_append, ih fun hmem => hcs (List.mem_append_left _ hmem)]
      simp [encode]
  | malformed => exact absurd (by simp) hcs

theorem newline_mem_iff (h : Reads bs cs) : '\n' ∈ cs ↔ lineFeed ∈ bs := by
  induction h with
  | nil => exact iff_of_false List.not_mem_nil List.not_mem_nil
  | char h c ih =>
      have hc : c = '\n' ↔ lineFeed ∈ String.utf8EncodeChar c := by
        constructor
        · rintro rfl
          decide
        · exact eq_lineFeed_of_mem
      rw [List.mem_append, List.mem_append, ih, List.mem_singleton, eq_comm, hc]
  | malformed h hne hfeed ih =>
      have hreplacement : '\n' ∉ [replacement] := by decide
      rw [List.mem_append, List.mem_append, ih, or_iff_left hreplacement, or_iff_left hfeed]

theorem eq_nil_iff (h : Reads bs cs) : cs = [] ↔ bs = [] := by
  cases h with
  | nil => exact iff_of_true rfl rfl
  | char h c => exact iff_of_false (by simp) (by simp [String.utf8EncodeChar_ne_nil])
  | malformed h hne _ => exact iff_of_false (by simp) (by simp [hne])

end Reads

namespace Decoder

/-! ## A character under way -/

/-- The bytes that bring a character under way to its end, and its number. -/
inductive Completes : Partial → List UInt8 → Nat → Prop where
  | last {p : Partial} {b : UInt8} (hafter : p.after = 0) (hlow : p.least ≤ b.toNat)
      (hhigh : b.toNat ≤ p.greatest) : Completes p [b] (p.value * 64 + (b.toNat - 0x80))
  | more {p : Partial} {b : UInt8} {bs : List UInt8} {k n : Nat} (hafter : p.after = k + 1)
      (hlow : p.least ≤ b.toNat) (hhigh : b.toNat ≤ p.greatest)
      (h : Completes ⟨p.value * 64 + (b.toNat - 0x80), 0x80, 0xbf, k⟩ bs n) :
      Completes p (b :: bs) n

namespace Completes

variable {p : Partial} {bs : List UInt8} {n : Nat}

theorem exists_last (h : Completes p bs n) (hafter : p.after = 0) :
    ∃ b : UInt8, p.least ≤ b.toNat ∧ b.toNat ≤ p.greatest ∧ bs = [b] ∧
      n = p.value * 64 + (b.toNat - 0x80) := by
  cases h with
  | last _ hlow hhigh => exact ⟨_, hlow, hhigh, rfl, rfl⟩
  | more hmore => exact absurd (hafter.symm.trans hmore) (Nat.succ_ne_zero _).symm

theorem exists_more {k : Nat} (h : Completes p bs n) (hafter : p.after = k + 1) :
    ∃ (b : UInt8) (tail : List UInt8), p.least ≤ b.toNat ∧ b.toNat ≤ p.greatest ∧ bs = b :: tail ∧
      Completes ⟨p.value * 64 + (b.toNat - 0x80), 0x80, 0xbf, k⟩ tail n := by
  cases h with
  | last hlast => exact absurd (hlast.symm.trans hafter) (Nat.succ_ne_zero _).symm
  | more hmore hlow hhigh h =>
      obtain rfl := Nat.succ.inj (hmore.symm.trans hafter)
      exact ⟨_, _, hlow, hhigh, rfl, h⟩

end Completes

/-- The bytes begin a character, and whatever completes it completes its encoding. -/
structure Begun (piece : List UInt8) (p : Partial) : Prop where
  ne_nil : piece ≠ []
  lineFeed_not_mem : lineFeed ∉ piece
  least : 0x80 ≤ p.least
  whole : ∀ {more n}, Completes p more n → String.utf8EncodeChar (Char.ofNat n) = piece ++ more

theorem toNat_ofNat_char {n : Nat} (h : n < 0xd800 ∨ 0xdfff < n ∧ n < 0x110000) :
    (Char.ofNat n).toNat = n := by
  rw [Char.ofNat, dif_pos h]
  rfl

section Bytes

variable {a b c d : UInt8}

theorem utf8EncodeChar_two (ha : 0xc2 ≤ a.toNat) (ha' : a.toNat < 0xe0) (hb : 0x80 ≤ b.toNat)
    (hb' : b.toNat ≤ 0xbf) :
    String.utf8EncodeChar (Char.ofNat ((a.toNat - 0xc0) * 64 + (b.toNat - 0x80))) = [a, b] := by
  generalize hn : (a.toNat - 0xc0) * 64 + (b.toNat - 0x80) = n
  have h₁ : n / 64 % 32 + 192 = a.toNat := by omega
  have h₂ : n % 64 + 128 = b.toNat := by omega
  rw [utf8EncodeChar_eq, toNat_ofNat_char (by omega), if_neg (by omega), if_pos (by omega), h₁, h₂,
    UInt8.ofNat_toNat, UInt8.ofNat_toNat]

/-- The bounds on the second byte keep out overlong forms and surrogates. -/
theorem utf8EncodeChar_three (ha : 0xe0 ≤ a.toNat) (ha' : a.toNat < 0xf0) (hb : 0x80 ≤ b.toNat)
    (hb' : b.toNat ≤ 0xbf) (hlow : a.toNat = 0xe0 → 0xa0 ≤ b.toNat)
    (hhigh : a.toNat = 0xed → b.toNat ≤ 0x9f) (hc : 0x80 ≤ c.toNat) (hc' : c.toNat ≤ 0xbf) :
    String.utf8EncodeChar (Char.ofNat (((a.toNat - 0xe0) * 64 + (b.toNat - 0x80)) * 64 +
      (c.toNat - 0x80))) = [a, b, c] := by
  generalize hn : ((a.toNat - 0xe0) * 64 + (b.toNat - 0x80)) * 64 + (c.toNat - 0x80) = n
  have h₁ : n / 4096 % 16 + 224 = a.toNat := by omega
  have h₂ : n / 64 % 64 + 128 = b.toNat := by omega
  have h₃ : n % 64 + 128 = c.toNat := by omega
  rw [utf8EncodeChar_eq, toNat_ofNat_char (by omega), if_neg (by omega), if_neg (by omega),
    if_pos (by omega), h₁, h₂, h₃, UInt8.ofNat_toNat, UInt8.ofNat_toNat, UInt8.ofNat_toNat]

/-- The bounds on the second byte keep out overlong forms and numbers of no character. -/
theorem utf8EncodeChar_four (ha : 0xf0 ≤ a.toNat) (ha' : a.toNat < 0xf5) (hb : 0x80 ≤ b.toNat)
    (hb' : b.toNat ≤ 0xbf) (hlow : a.toNat = 0xf0 → 0x90 ≤ b.toNat)
    (hhigh : a.toNat = 0xf4 → b.toNat ≤ 0x8f) (hc : 0x80 ≤ c.toNat) (hc' : c.toNat ≤ 0xbf)
    (hd : 0x80 ≤ d.toNat) (hd' : d.toNat ≤ 0xbf) :
    String.utf8EncodeChar (Char.ofNat ((((a.toNat - 0xf0) * 64 + (b.toNat - 0x80)) * 64 +
      (c.toNat - 0x80)) * 64 + (d.toNat - 0x80))) = [a, b, c, d] := by
  generalize hn : (((a.toNat - 0xf0) * 64 + (b.toNat - 0x80)) * 64 + (c.toNat - 0x80)) * 64 +
    (d.toNat - 0x80) = n
  have h₁ : n / 262144 % 8 + 240 = a.toNat := by omega
  have h₂ : n / 4096 % 64 + 128 = b.toNat := by omega
  have h₃ : n / 64 % 64 + 128 = c.toNat := by omega
  have h₄ : n % 64 + 128 = d.toNat := by omega
  rw [utf8EncodeChar_eq, toNat_ofNat_char (by omega), if_neg (by omega), if_neg (by omega),
    if_neg (by omega), h₁, h₂, h₃, h₄, UInt8.ofNat_toNat, UInt8.ofNat_toNat, UInt8.ofNat_toNat,
    UInt8.ofNat_toNat]

end Bytes

theorem ne_lineFeed {b : UInt8} (h : 0x80 ≤ b.toNat) : lineFeed ≠ b := by
  rintro rfl
  exact absurd h (by decide)

section Lead

variable {b : UInt8} {p : Partial} {more : List UInt8} {n : Nat}

theorem Begun.of_lead (hb : 0x80 ≤ b.toNat) (hp : 0x80 ≤ p.least)
    (hwhole : ∀ {more n}, Completes p more n →
      String.utf8EncodeChar (Char.ofNat n) = b :: more) : Begun [b] p where
  ne_nil := List.cons_ne_nil b []
  lineFeed_not_mem := fun h => ne_lineFeed hb (List.mem_singleton.mp h)
  least := hp
  whole := hwhole

theorem begun_two (hlow : 0xc2 ≤ b.toNat) (hhigh : b.toNat < 0xe0) :
    Begun [b] ⟨b.toNat - 0xc0, 0x80, 0xbf, 0⟩ := by
  refine .of_lead (by omega) (Nat.le_refl _) fun h => ?_
  obtain ⟨c, hc, hc', rfl, hn⟩ := h.exists_last rfl
  rw [hn]
  exact utf8EncodeChar_two hlow hhigh hc hc'

theorem begun_three (hlow : 0xe0 ≤ b.toNat) (hhigh : b.toNat < 0xf0) :
    Begun [b] ⟨b.toNat - 0xe0, if b.toNat = 0xe0 then 0xa0 else 0x80,
      if b.toNat = 0xed then 0x9f else 0xbf, 1⟩ := by
  refine .of_lead (by omega) (by dsimp only; split <;> omega) fun h => ?_
  obtain ⟨c, _, hc, hc', rfl, h₁⟩ := h.exists_more rfl
  obtain ⟨d, hd, hd', rfl, hn⟩ := h₁.exists_last rfl
  dsimp only at hc hc'
  rw [hn]
  exact utf8EncodeChar_three hlow hhigh (by split at hc <;> omega) (by split at hc' <;> omega)
    (fun h => by rwa [if_pos h] at hc) (fun h => by rwa [if_pos h] at hc') hd hd'

theorem begun_four (hlow : 0xf0 ≤ b.toNat) (hhigh : b.toNat < 0xf5) :
    Begun [b] ⟨b.toNat - 0xf0, if b.toNat = 0xf0 then 0x90 else 0x80,
      if b.toNat = 0xf4 then 0x8f else 0xbf, 2⟩ := by
  refine .of_lead (by omega) (by dsimp only; split <;> omega) fun h => ?_
  obtain ⟨c, _, hc, hc', rfl, h₁⟩ := h.exists_more rfl
  obtain ⟨d, _, hd, hd', rfl, h₂⟩ := h₁.exists_more rfl
  obtain ⟨e, he, he', rfl, hn⟩ := h₂.exists_last rfl
  dsimp only at hc hc'
  rw [hn]
  exact utf8EncodeChar_four hlow hhigh (by split at hc <;> omega) (by split at hc' <;> omega)
    (fun h => by rwa [if_pos h] at hc) (fun h => by rwa [if_pos h] at hc') hd hd' he he'

theorem begun_of_lead (h : lead b = .partly p) : Begun [b] p := by
  unfold lead at h
  dsimp only at h
  split at h
  · cases h
  split at h
  · cases h
  split at h
  · obtain rfl := Lead.partly.inj h
    exact begun_two (by omega) (by omega)
  split at h
  · obtain rfl := Lead.partly.inj h
    exact begun_three (by omega) (by omega)
  split at h
  · obtain rfl := Lead.partly.inj h
    exact begun_four (by omega) (by omega)
  · cases h

theorem utf8EncodeChar_of_lead {c : Char} (h : lead b = .whole c) :
    String.utf8EncodeChar c = [b] := by
  unfold lead at h
  dsimp only at h
  split at h
  · next hb =>
    obtain rfl := Lead.whole.inj h
    rw [utf8EncodeChar_eq, toNat_ofNat_char (by omega), if_pos (by omega), UInt8.ofNat_toNat]
  · repeat' split at h
    all_goals cases h

theorem lineFeed_not_mem_of_lead (h : lead b = .malformed) : lineFeed ∉ [b] := by
  intro hmem
  rw [← List.mem_singleton.mp hmem] at h
  exact absurd h (by decide)

end Lead

/-! ## What the decoder holds -/

/-- The characters of the pieces read so far, and of the piece under way what is needed to go on. -/
inductive Holds : Decoder → List UInt8 → Prop where
  | between {cs : List Char} {bs : List UInt8} (h : Reads bs cs.reverse) : Holds ⟨cs, none⟩ bs
  | within {cs : List Char} {bs piece : List UInt8} {p : Partial} (h : Reads bs cs.reverse)
      (hp : Begun piece p) : Holds ⟨cs, some p⟩ (bs ++ piece)

section Step

variable {cs : List Char} {bs : List UInt8} {d : Decoder} {p : Partial}

theorem reads_cons_malformed {piece : List UInt8} (h : Reads bs cs.reverse) (hne : piece ≠ [])
    (hfeed : lineFeed ∉ piece) : Reads (bs ++ piece) (replacement :: cs).reverse := by
  rw [List.reverse_cons]
  exact .malformed h hne hfeed

theorem reads_cons_char {piece : List UInt8} {c : Char} (h : Reads bs cs.reverse)
    (hc : String.utf8EncodeChar c = piece) : Reads (bs ++ piece) (c :: cs).reverse := by
  rw [List.reverse_cons, ← hc]
  exact .char h c

theorem holds_begin (h : Reads bs cs.reverse) (b : UInt8) : (begin cs b).Holds (bs ++ [b]) := by
  unfold begin
  split
  · next c hlead => exact .between (reads_cons_char h (utf8EncodeChar_of_lead hlead))
  · next p hlead => exact .within h (begun_of_lead hlead)
  · next hlead =>
    exact .between (reads_cons_malformed h (List.cons_ne_nil b []) (lineFeed_not_mem_of_lead hlead))

theorem step_of_not {b : UInt8} (hb : ¬ (p.least ≤ b.toNat ∧ b.toNat ≤ p.greatest)) :
    step ⟨cs, some p⟩ b = begin (replacement :: cs) b := by
  rw [step]
  exact if_neg hb

theorem Holds.step (h : d.Holds bs) (b : UInt8) : (d.step b).Holds (bs ++ [b]) := by
  cases h with
  | between h => exact holds_begin h b
  | @within cs bs piece p h hp =>
      by_cases hb : p.least ≤ b.toNat ∧ b.toNat ≤ p.greatest
      · obtain ⟨hlow, hhigh⟩ := hb
        obtain ⟨value, least, greatest, after⟩ := p
        rw [List.append_assoc]
        cases after with
        | zero =>
            rw [step_last hlow hhigh]
            exact .between (reads_cons_char h (hp.whole (.last rfl hlow hhigh)))
        | succ k =>
            rw [step_more hlow hhigh]
            have hb : lineFeed ≠ b := ne_lineFeed (Nat.le_trans hp.least hlow)
            have hne := List.append_ne_nil_of_left_ne_nil hp.ne_nil [b]
            refine .within h ⟨hne, ?_, Nat.le_refl _, ?_⟩
            · simp [hp.lineFeed_not_mem, hb]
            · intro more n hmore
              rw [List.append_assoc]
              exact hp.whole (.more rfl hlow hhigh hmore)
      · rw [step_of_not hb]
        exact holds_begin (reads_cons_malformed h hp.ne_nil hp.lineFeed_not_mem) b

theorem Holds.foldl_step (h : d.Holds bs) (more : List UInt8) :
    (more.foldl Decoder.step d).Holds (bs ++ more) := by
  induction more generalizing d bs with
  | nil => rwa [List.append_nil]
  | cons b more ih =>
      have hmore := ih (h.step b)
      rwa [List.append_assoc] at hmore

theorem Holds.reads_text (h : d.Holds bs) : Reads bs d.text := by
  cases h with
  | between h => exact h
  | within h hp => exact reads_cons_malformed h hp.ne_nil hp.lineFeed_not_mem

/-- A line feed ends what is under way and is read as itself. -/
theorem Holds.step_lineFeed (h : d.Holds bs) :
    d.step lineFeed = ⟨'\n' :: d.text.reverse, none⟩ := by
  have hbegin (cs : List Char) : begin cs lineFeed = ⟨'\n' :: cs, none⟩ := begin_one (by decide)
  cases h with
  | between h => rw [step_lead, hbegin, text, List.reverse_reverse]
  | @within cs bs piece p h hp =>
      have hb : ¬ (p.least ≤ lineFeed.toNat ∧ lineFeed.toNat ≤ p.greatest) := by
        have hleast := hp.least
        have hfeed : lineFeed.toNat = 10 := rfl
        omega
      rw [step_of_not hb, hbegin, text, List.reverse_reverse]

theorem holds_empty (bs : List UInt8) : (bs.foldl step empty).Holds bs := by
  have h : empty.Holds [] := .between .nil
  exact h.foldl_step bs

/-! ## Decoding after what has been decoded -/

/-- The decoder only adds to what it has decoded. -/
theorem step_append (d : Decoder) (ds : List Char) (b : UInt8) :
    step ⟨d.decoded ++ ds, d.pending⟩ b = ⟨(d.step b).decoded ++ ds, (d.step b).pending⟩ := by
  have hbegin : ∀ cs, begin (cs ++ ds) b = ⟨(begin cs b).decoded ++ ds, (begin cs b).pending⟩ := by
    intro cs
    unfold begin
    split <;> rfl
  obtain ⟨cs, pending⟩ := d
  cases pending with
  | none => exact hbegin cs
  | some p =>
      by_cases hb : p.least ≤ b.toNat ∧ b.toNat ≤ p.greatest
      · obtain ⟨hlow, hhigh⟩ := hb
        obtain ⟨value, least, greatest, after⟩ := p
        cases after with
        | zero => rw [step_last hlow hhigh, step_last hlow hhigh, List.cons_append]
        | succ k => rw [step_more hlow hhigh, step_more hlow hhigh]
      · rw [step_of_not hb, step_of_not hb, ← List.cons_append]
        exact hbegin _

theorem foldl_step_append (d : Decoder) (ds : List Char) (bs : List UInt8) :
    bs.foldl step ⟨d.decoded ++ ds, d.pending⟩ =
      ⟨(bs.foldl step d).decoded ++ ds, (bs.foldl step d).pending⟩ := by
  induction bs generalizing d with
  | nil => rfl
  | cons b bs ih => rw [List.foldl_cons, step_append, ih, List.foldl_cons]

theorem text_append (d : Decoder) (ds : List Char) :
    text ⟨d.decoded ++ ds, d.pending⟩ = ds.reverse ++ d.text := by
  obtain ⟨cs, pending⟩ := d
  cases pending <;> simp [text]

end Step

end Decoder

theorem reads_decode (bs : List UInt8) : Reads bs (decode bs) :=
  (Decoder.holds_empty bs).reads_text

/-- Decoding replaces something in bytes that are no text. -/
theorem replacement_mem_decode {bs : List UInt8} (h : ¬ IsUtf8 bs) : replacement ∈ decode bs := by
  apply Decidable.byContradiction
  intro hmem
  exact h ⟨_, (reads_decode bs).encode_eq hmem⟩

theorem isUtf8_iff {bs : List UInt8} : IsUtf8 bs ↔ encode (String.ofList (decode bs)) = bs := by
  constructor
  · rintro ⟨s, rfl⟩
    rw [decode_encode, String.ofList_toList]
  · exact fun h => ⟨_, h⟩

instance (bs : List UInt8) : Decidable (IsUtf8 bs) := decidable_of_iff' _ isUtf8_iff

theorem newline_mem_decode_iff (bs : List UInt8) : '\n' ∈ decode bs ↔ lineFeed ∈ bs :=
  (reads_decode bs).newline_mem_iff

theorem decode_eq_nil_iff {bs : List UInt8} : decode bs = [] ↔ bs = [] :=
  (reads_decode bs).eq_nil_iff

/-- What is in front of a line feed and what is behind it are decoded each on its own. -/
theorem decode_lineFeed (front rest : List UInt8) :
    decode (front ++ lineFeed :: rest) = decode front ++ '\n' :: decode rest := by
  rw [decode, List.foldl_append, List.foldl_cons, (Decoder.holds_empty front).step_lineFeed]
  have hrest := Decoder.foldl_step_append .empty ('\n' :: (decode front).reverse) rest
  rw [Decoder.empty, List.nil_append] at hrest
  rw [← decode, hrest, Decoder.text_append]
  simp [decode, Decoder.empty]

end Calculator.Text
