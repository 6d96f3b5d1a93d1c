import Calculator.ProgramError
import Calculator.Session.Reply

/-!
# Scripts

What an operation of a session does is a list of events and, at their end, a result. A script
does not depend on where its text goes. Played against a sink with limited room, it stops at the
first text that does not fit, of which the sink keeps the bytes that do.
-/

namespace Calculator

inductive Event where
  | write (bytes : List UInt8)
  | log (r : Log.Record)
  /-- A line or an expression has been handled. -/
  | handled (o : Outcome)
  deriving DecidableEq

namespace Event

def text (s : String) : Event := .write (Text.encode s)

/-- A text with a line end. -/
def line (s : String) : Event := text (s ++ "\n")

/-- What happens when a reply is found. -/
def ofReply (r : Reply) : List Event := .handled r.outcome :: r.records.map .log

def bytes : Event → List UInt8
  | write bs => bs
  | _ => []

def record? : Event → Option Log.Record
  | log r => some r
  | _ => none

def outcome? : Event → Option Outcome
  | handled o => some o
  | _ => none

end Event

/-- A script and what it results in once all its events have happened. -/
structure Script (α : Type) where
  events : List Event
  result : Except ProgramError α

/-- The script with some events before it. -/
def Script.after {α : Type} (es : List Event) (s : Script α) : Script α :=
  ⟨es ++ s.events, s.result⟩

/-- The room of a sink in bytes, and its message when it runs out. -/
structure Limit where
  room : Nat
  message : String
  deriving DecidableEq

/-- The events that have happened, the last write cut short if the sink is full. -/
structure Sink where
  room : Option Nat
  happened : Array Event
  full : Bool

namespace Sink

def empty (room : Option Nat) : Sink := ⟨room, #[], false⟩

def accept (s : Sink) (e : Event) : Sink :=
  if s.full then s
  else
    match e, s.room with
    | .write bs, some n =>
      if bs.length ≤ n then ⟨some (n - bs.length), s.happened.push e, false⟩
      else ⟨some 0, s.happened.push (.write (bs.take n)), true⟩
    | e, room => ⟨room, s.happened.push e, false⟩

def acceptAll (s : Sink) (es : List Event) : Sink := es.foldl accept s

theorem acceptAll_append (s : Sink) (es fs : List Event) :
    s.acceptAll (es ++ fs) = (s.acceptAll es).acceptAll fs := by
  simp [acceptAll]

/-- A sink without limit takes all events. -/
theorem happened_acceptAll_unlimited (happened : Array Event) (es : List Event) :
    (Sink.acceptAll ⟨none, happened, false⟩ es) = ⟨none, happened ++ es, false⟩ := by
  induction es generalizing happened with
  | nil => simp [acceptAll]
  | cons e es ih =>
    have h : (Sink.mk none happened false).accept e = ⟨none, happened.push e, false⟩ := by
      cases e <;> rfl
    simp only [acceptAll, List.foldl_cons, h]
    rw [← acceptAll, ih]
    simp

/-- A full sink takes nothing. -/
theorem acceptAll_full (s : Sink) (h : s.full = true) (es : List Event) : s.acceptAll es = s := by
  induction es with
  | nil => rfl
  | cons e es ih => simpa [acceptAll, accept, h] using ih

def output (s : Sink) : List UInt8 := s.happened.toList.flatMap Event.bytes

def records (s : Sink) : List Log.Record := s.happened.toList.filterMap Event.record?

def outcomes (s : Sink) : List Outcome := s.happened.toList.filterMap Event.outcome?

end Sink

end Calculator
