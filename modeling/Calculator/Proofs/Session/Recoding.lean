import Calculator.Proofs.Session.Transcript
import Calculator.Proofs.Text.Decoding

/-!
# Decoding as a whole

Bytes can be decoded line by line, or all at once and then divided into lines. The lines are the
same, so an interactive run on the bytes and on the text that they are decoded to does the same.
-/

namespace Calculator

namespace Text

/-- The bytes of the text that these bytes are decoded to. -/
def recode (bs : List UInt8) : List UInt8 := encode (String.ofList (decode bs))

theorem decode_recode (bs : List UInt8) : decode (recode bs) = decode bs := by
  rw [recode, decode_encode, String.toList_ofList]

theorem recode_eq_nil_iff {bs : List UInt8} : recode bs = [] ↔ bs = [] := by
  rw [recode, encode_eq_nil_iff, String.ofList_eq_empty_iff, decode_eq_nil_iff]

theorem lineFeed_mem_recode_iff (bs : List UInt8) : lineFeed ∈ recode bs ↔ lineFeed ∈ bs := by
  rw [recode, lineFeed_mem_encode_iff, String.toList_ofList, newline_mem_decode_iff]

theorem decode_line (body : List UInt8) : decode (body ++ [lineFeed]) = decode body ++ ['\n'] :=
  decode_lineFeed body []

theorem recode_line (body : List UInt8) :
    recode (body ++ [lineFeed]) = recode body ++ [lineFeed] := by
  rw [recode, decode_line, String.ofList_append, encode_append, recode]
  rfl

/-- The lines are recoded one by one if they are decoded one by one. -/
theorem recode_eq_flatten {bs rest : List UInt8} {complete : List (List UInt8)}
    (h : decode bs = complete.flatMap decode ++ decode rest) :
    recode bs = (complete.map recode).flatten ++ recode rest := by
  have hrecode (cs : List UInt8) : recode cs = (decode cs).flatMap String.utf8EncodeChar := by
    rw [recode, encode, String.toList_ofList]
  rw [hrecode bs, h, List.flatMap_append, ← hrecode rest, List.flatMap_assoc, ← List.flatMap_def]
  congr 1
  exact List.flatMap_congr fun l _ => (hrecode l).symm

end Text

open Text (recode)

namespace Divided

variable {bs rest : List UInt8} {complete : List (List UInt8)}

/-- The whole is decoded to the texts of its lines, one after the other. -/
theorem decode_eq (h : Divided bs complete rest) :
    Text.decode bs = complete.flatMap Text.decode ++ Text.decode rest := by
  obtain ⟨rfl, hcomplete, -⟩ := h
  induction complete with
  | nil => rfl
  | cons l ls ih =>
      obtain ⟨body, rfl, -⟩ := hcomplete l List.mem_cons_self
      have hls := ih fun m hm => hcomplete m (List.mem_cons_of_mem _ hm)
      rw [List.flatten_cons, List.append_assoc, List.append_assoc, List.singleton_append,
        Text.decode_lineFeed, hls, List.flatMap_cons, Text.decode_line]
      simp only [List.append_assoc, List.cons_append, List.nil_append]

theorem recoded (h : Divided bs complete rest) :
    Divided (recode bs) (complete.map recode) (recode rest) where
  bytes := Text.recode_eq_flatten h.decode_eq
  complete := by
    intro l hl
    obtain ⟨m, hm, rfl⟩ := List.mem_map.mp hl
    obtain ⟨body, rfl, hbody⟩ := h.complete m hm
    exact ⟨recode body, Text.recode_line body, mt (Text.lineFeed_mem_recode_iff body).mp hbody⟩
  rest := mt (Text.lineFeed_mem_recode_iff rest).mp h.rest

end Divided

theorem lineText_recode (l : List UInt8) : lineText (recode l) = lineText l := by
  rw [lineText, Text.decode_recode, lineText]

theorem Source.texts_recode (bs : List UInt8) (failure : Option String) :
    (Source.mk (recode bs) failure).texts = (Source.mk bs failure).texts := by
  obtain ⟨complete, rest, hdiv⟩ := exists_divided bs
  have hempty : (recode rest).isEmpty = rest.isEmpty := by
    rw [Bool.eq_iff_iff, List.isEmpty_iff, List.isEmpty_iff, Text.recode_eq_nil_iff]
  have hmap : (complete.map recode).map lineText = complete.map lineText := by
    rw [List.map_map]
    exact List.map_congr_left fun l _ => lineText_recode l
  rw [texts_eq, texts_eq, hdiv.recoded.lines_eq, hdiv.lines_eq, hempty, List.map_append,
    List.map_append, hmap]
  split
  · rfl
  · rw [List.map_singleton, List.map_singleton, lineText_recode]

namespace Session

/-- An interactive run makes of any bytes what it makes of the text that they are decoded to as a
whole, for the lines of this text are the lines of the bytes, each decoded. -/
theorem run_recode (s : Session) (bs : List UInt8) (failure : Option String) :
    (∀ complete rest, Divided bs complete rest →
      Text.decode bs = complete.flatMap Text.decode ++ Text.decode rest ∧
      Divided (recode bs) (complete.map recode) (recode rest)) ∧
    ∀ limit, s.run ⟨Text.encode (String.ofList (Text.decode bs)), failure⟩ limit =
      s.run ⟨bs, failure⟩ limit := by
  refine ⟨fun complete rest h => ⟨h.decode_eq, h.recoded⟩, fun limit => ?_⟩
  have htexts := Source.texts_recode bs failure
  rw [Text.recode] at htexts
  simp only [run, runScript, htexts]

end Session

end Calculator
