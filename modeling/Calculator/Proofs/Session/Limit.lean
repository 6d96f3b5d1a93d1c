import Calculator.Session.Basic
import Mathlib.Data.List.Basic

/-!
# Sinks with limited room

A sink with limited room takes events as one without limit does, up to the first write that does
not fit. Of all that is written it keeps as many bytes as it has room for.
-/

namespace Calculator

/-- The bytes that are written, one write after the other. -/
def Event.allBytes (es : List Event) : List UInt8 := es.flatMap Event.bytes

@[simp] theorem Event.allBytes_nil : allBytes [] = [] := rfl

@[simp] theorem Event.allBytes_cons (e : Event) (es : List Event) :
    allBytes (e :: es) = e.bytes ++ allBytes es := rfl

@[simp] theorem Event.allBytes_append (es fs : List Event) :
    allBytes (es ++ fs) = allBytes es ++ allBytes fs := List.flatMap_append

theorem Event.allBytes_eq_nil {es : List Event} (h : ∀ e ∈ es, e.bytes = []) : allBytes es = [] :=
  List.flatMap_eq_nil_iff.mpr h

@[simp] theorem Event.allBytes_map_write (ws : List (List UInt8)) :
    allBytes (ws.map .write) = ws.flatten := by
  induction ws with
  | nil => rfl
  | cons w ws ih => rw [List.map_cons, allBytes_cons, ih]; rfl

namespace Sink

variable {n : Nat} {happened : Array Event} {es : List Event}

theorem accept_of_le {e : Event} (h : e.bytes.length ≤ n) :
    (Sink.mk (some n) happened false).accept e =
      ⟨some (n - e.bytes.length), happened.push e, false⟩ := by
  cases e with
  | write bs =>
      simp only [Event.bytes] at h
      simp [accept, Event.bytes, h]
  | log r => rfl
  | handled o => rfl

theorem accept_of_lt {e : Event} (h : n < e.bytes.length) :
    (Sink.mk (some n) happened false).accept e =
      ⟨some 0, happened.push (.write (e.bytes.take n)), true⟩ := by
  cases e with
  | write bs =>
      simp only [Event.bytes] at h
      simp [accept, Event.bytes, Nat.not_le.mpr h]
  | log r => exact absurd h (Nat.not_lt_zero n)
  | handled o => exact absurd h (Nat.not_lt_zero n)

theorem accept_unlimited (happened : Array Event) (e : Event) :
    (Sink.mk none happened false).accept e = ⟨none, happened.push e, false⟩ := by
  cases e <;> rfl

theorem accept_of_bytes_eq_nil {room : Option Nat} {happened : Array Event} {e : Event}
    (h : e.bytes = []) :
    (Sink.mk room happened false).accept e = ⟨room, happened.push e, false⟩ := by
  cases room with
  | none => exact accept_unlimited happened e
  | some n =>
      rw [accept_of_le (by simp [h]), h]
      rfl

/-- Events that fit are taken as they are. -/
theorem acceptAll_of_le (h : (Event.allBytes es).length ≤ n) :
    acceptAll ⟨some n, happened, false⟩ es =
      ⟨some (n - (Event.allBytes es).length), happened ++ es, false⟩ := by
  induction es generalizing n happened with
  | nil => simp [acceptAll]
  | cons e es ih =>
      rw [Event.allBytes_cons, List.length_append] at h
      have he : e.bytes.length ≤ n := by omega
      have hes : (Event.allBytes es).length ≤ n - e.bytes.length := by omega
      rw [acceptAll, List.foldl_cons, accept_of_le he, ← acceptAll, ih hes,
        Event.allBytes_cons, List.length_append, Nat.sub_sub]
      simp

theorem acceptAll_of_lt (h : n < (Event.allBytes es).length) :
    (acceptAll ⟨some n, happened, false⟩ es).full = true ∧
      (acceptAll ⟨some n, happened, false⟩ es).output =
        Event.allBytes happened.toList ++ (Event.allBytes es).take n := by
  induction es generalizing n happened with
  | nil => exact absurd h (Nat.not_lt_zero n)
  | cons e es ih =>
      rw [acceptAll, List.foldl_cons, ← acceptAll, Event.allBytes_cons, List.take_append]
      by_cases he : e.bytes.length ≤ n
      · have hes : n - e.bytes.length < (Event.allBytes es).length := by
          rw [Event.allBytes_cons, List.length_append] at h
          omega
        obtain ⟨hfull, houtput⟩ := @ih (n - e.bytes.length) (happened.push e) hes
        rw [accept_of_le he]
        refine ⟨hfull, ?_⟩
        rw [houtput, List.take_of_length_le he]
        simp
      · have he' : n < e.bytes.length := Nat.not_le.mp he
        rw [accept_of_lt he', acceptAll_full _ rfl]
        refine ⟨rfl, ?_⟩
        have hzero : n - e.bytes.length = 0 := by omega
        rw [hzero, List.take_zero, List.append_nil, output, ← Event.allBytes]
        simp [Event.bytes]

/-- Of writes that do not fit the sink takes some, and nothing else. -/
theorem acceptAll_writes_of_lt {ws : List (List UInt8)} (h : n < ws.flatten.length) :
    ∃ vs : List (List UInt8), acceptAll ⟨some n, happened, false⟩ (ws.map .write) =
      ⟨some 0, happened ++ vs.map Event.write, true⟩ := by
  induction ws generalizing n happened with
  | nil => exact absurd h (Nat.not_lt_zero n)
  | cons w ws ih =>
      rw [List.map_cons, acceptAll, List.foldl_cons, ← acceptAll]
      by_cases hw : w.length ≤ n
      · have hws : n - w.length < ws.flatten.length := by
          rw [List.flatten_cons, List.length_append] at h
          omega
        obtain ⟨vs, hvs⟩ := @ih (n - w.length) (happened.push (.write w)) hws
        rw [accept_of_le (e := .write w) hw, Event.bytes, hvs]
        exact ⟨w :: vs, by simp⟩
      · rw [accept_of_lt (e := .write w) (Nat.not_le.mp hw), acceptAll_full _ rfl]
        exact ⟨[w.take n], by simp [Event.bytes]⟩

end Sink

/-! ## Reports -/

/-- The report of a limited run is the report of the unlimited one up to the first write that does
not fit. -/
structure CleanCut {α : Type} (whole cut : Report α) (limit : Limit) : Prop where
  output : cut.output = whole.output.take limit.room
  fits : whole.output.length ≤ limit.room → cut = whole
  fails : limit.room < whole.output.length → cut.result = .error (.io limit.message)

namespace Session

variable {α : Type} (s : Session) (script : Script α)

theorem play_unlimited : s.play script none =
    ⟨script.result, Event.allBytes script.events, script.events.filterMap Event.record?,
      { s with counters := s.counters.afterAll (script.events.filterMap Event.outcome?) }⟩ := by
  simp [play, Sink.empty, Sink.happened_acceptAll_unlimited, Sink.output, Sink.records,
    Sink.outcomes, Event.allBytes]

theorem cleanCut_play (limit : Limit) :
    CleanCut (s.play script none) (s.play script (some limit)) limit := by
  rw [play_unlimited]
  by_cases h : (Event.allBytes script.events).length ≤ limit.room
  · have hplay : s.play script (some limit) = ⟨script.result, Event.allBytes script.events,
        script.events.filterMap Event.record?,
        { s with counters := s.counters.afterAll (script.events.filterMap Event.outcome?) }⟩ := by
      simp [play, Sink.empty, Sink.acceptAll_of_le h, Sink.output, Sink.records, Sink.outcomes,
        Event.allBytes]
    rw [hplay]
    exact ⟨(List.take_of_length_le h).symm, fun _ => rfl, fun h' => absurd h (Nat.not_le.mpr h')⟩
  · have h' : limit.room < (Event.allBytes script.events).length := Nat.not_le.mp h
    obtain ⟨hfull, houtput⟩ := @Sink.acceptAll_of_lt _ #[] _ h'
    refine ⟨houtput, fun hle => absurd hle h, fun _ => ?_⟩
    simp only [play, Sink.empty, Option.map_some, hfull]

end Session

end Calculator
