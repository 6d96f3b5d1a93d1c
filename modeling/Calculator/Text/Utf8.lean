/-!
# UTF-8

Lengths in bytes, encoding, and a decoder that never fails. The decoder reads one byte at a time
and puts one replacement character for each longest piece that could still have begun a
character, so that a malformed piece never swallows the byte after it.
-/

namespace Calculator.Text

-- The zero of a sum is the numeral, whatever else is in scope.
attribute [local instance (high)] Zero.ofOfNat0

def utf8Size (cs : List Char) : Nat := (cs.map Char.utf8Size).sum

@[simp] theorem utf8Size_nil : utf8Size [] = 0 := rfl

@[simp] theorem utf8Size_cons (c : Char) (cs : List Char) :
    utf8Size (c :: cs) = c.utf8Size + utf8Size cs := by
  simp [utf8Size]

@[simp] theorem utf8Size_append (cs ds : List Char) :
    utf8Size (cs ++ ds) = utf8Size cs + utf8Size ds := by
  simp [utf8Size]

def encode (s : String) : List UInt8 := s.toList.flatMap String.utf8EncodeChar

@[simp] theorem encode_append (s t : String) : encode (s ++ t) = encode s ++ encode t := by
  simp [encode]

/-- The character that stands for a malformed piece. -/
def replacement : Char := Char.ofNat 0xfffd

/-- A character of several bytes of which some are missing: the value of the bytes read, the
least and the greatest byte that may come next, and the number of bytes after that one. -/
structure Partial where
  value : Nat
  least : Nat
  greatest : Nat
  after : Nat
  deriving DecidableEq

inductive Lead where
  | whole (c : Char)
  | partly (p : Partial)
  | malformed
  deriving DecidableEq

/-- The bounds on the second byte leave out overlong forms, surrogates and values above
`0x10ffff`. -/
def lead (b : UInt8) : Lead :=
  let n := b.toNat
  if n < 0x80 then .whole (Char.ofNat n)
  else if n < 0xc2 then .malformed
  else if n < 0xe0 then .partly ⟨n - 0xc0, 0x80, 0xbf, 0⟩
  else if n < 0xf0 then
    .partly ⟨n - 0xe0, if n = 0xe0 then 0xa0 else 0x80, if n = 0xed then 0x9f else 0xbf, 1⟩
  else if n < 0xf5 then
    .partly ⟨n - 0xf0, if n = 0xf0 then 0x90 else 0x80, if n = 0xf4 then 0x8f else 0xbf, 2⟩
  else .malformed

/-- The characters decoded so far, the last one first, and the character under way. -/
structure Decoder where
  decoded : List Char
  pending : Option Partial
  deriving DecidableEq

namespace Decoder

def empty : Decoder := ⟨[], none⟩

def begin (cs : List Char) (b : UInt8) : Decoder :=
  match lead b with
  | .whole c => ⟨c :: cs, none⟩
  | .partly p => ⟨cs, some p⟩
  | .malformed => ⟨replacement :: cs, none⟩

def step (d : Decoder) (b : UInt8) : Decoder :=
  match d.pending with
  | none => begin d.decoded b
  | some p =>
    if p.least ≤ b.toNat ∧ b.toNat ≤ p.greatest then
      let value := p.value * 64 + (b.toNat - 0x80)
      match p.after with
      | 0 => ⟨Char.ofNat value :: d.decoded, none⟩
      | k + 1 => ⟨d.decoded, some ⟨value, 0x80, 0xbf, k⟩⟩
    else begin (replacement :: d.decoded) b

/-- The text at the end of the bytes; a character under way is malformed there. -/
def text (d : Decoder) : List Char :=
  match d.pending with
  | none => d.decoded.reverse
  | some _ => (replacement :: d.decoded).reverse

end Decoder

def decode (bs : List UInt8) : List Char := (bs.foldl Decoder.step .empty).text

@[simp] theorem decode_nil : decode [] = [] := rfl

end Calculator.Text
