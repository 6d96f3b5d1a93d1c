import Calculator.Text.Utf8

/-!
# Input of a session

Bytes that are read line by line, up to and with each line feed. After the last byte the input
ends, and what follows the last line feed is a line too, or reading fails, and that is lost.
-/

namespace Calculator

structure Source where
  bytes : List UInt8
  /-- The message of the failure that comes instead of the end, if any. -/
  failure : Option String
  deriving DecidableEq

def lineFeed : UInt8 := 0x0a

/-- The complete lines read so far, the last one first, and the bytes since, the last one
first. -/
structure LineSplitter where
  lines : List (List UInt8)
  current : List UInt8
  deriving DecidableEq

namespace LineSplitter

def step (s : LineSplitter) (b : UInt8) : LineSplitter :=
  if b = lineFeed then ⟨(b :: s.current).reverse :: s.lines, []⟩
  else ⟨s.lines, b :: s.current⟩

def ofBytes (bs : List UInt8) : LineSplitter := bs.foldl step ⟨[], []⟩

/-- The bytes read so far. -/
def bytes (s : LineSplitter) : List UInt8 := s.lines.reverse.flatten ++ s.current.reverse

theorem bytes_step (s : LineSplitter) (b : UInt8) : (s.step b).bytes = s.bytes ++ [b] := by
  unfold step
  split <;> simp [bytes]

theorem bytes_foldl_step (s : LineSplitter) (bs : List UInt8) :
    (bs.foldl step s).bytes = s.bytes ++ bs := by
  induction bs generalizing s with
  | nil => simp
  | cons b bs ih => rw [List.foldl_cons, ih, bytes_step, List.append_assoc, List.singleton_append]

/-- No byte is lost or moved. -/
@[simp] theorem bytes_ofBytes (bs : List UInt8) : (ofBytes bs).bytes = bs :=
  bytes_foldl_step ⟨[], []⟩ bs

end LineSplitter

namespace Source

/-- The lines that can be read, each with its line feed if it has one. -/
def lines (s : Source) : List (List UInt8) :=
  let split := LineSplitter.ofBytes s.bytes
  split.lines.reverse ++
    if s.failure.isSome || split.current.isEmpty then [] else [split.current.reverse]

/-- The lines as text. -/
def texts (s : Source) : List String := s.lines.map fun l => String.ofList (Text.decode l)

end Source

end Calculator
