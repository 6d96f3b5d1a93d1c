import Calculator.Proofs.Session.Interruption

/-!
# The inputs that are reached

An operation that takes its inputs one after the other reaches a first part of them. It is told by
what has to hold of the inputs before one for that one to be reached too, and this leaves no choice
of it. An operation that takes turns reaches an input when all that is written before it fits.
-/

namespace Calculator

section Reached

variable {β : Type} {reach reach' : List β → Prop} {inputs done done' lines : List β}

/-- Of the inputs a first part is reached: each one exactly if `reach` holds of those before it. -/
structure Reached (reach : List β → Prop) (inputs done : List β) : Prop where
  initial : done <+: inputs
  next : ∀ before x, before ++ [x] <+: inputs → (before ++ [x] <+: done ↔ reach before)

namespace Reached

theorem isPrefix_of_reached (h : Reached reach inputs done) (h' : Reached reach inputs done') :
    done <+: done' := by
  rcases List.eq_nil_or_concat done with rfl | ⟨init, x, rfl⟩
  · exact List.nil_prefix
  · rw [List.concat_eq_append] at h ⊢
    have hinit : reach init := (h.next init x h.initial).mp List.prefix_rfl
    exact (h'.next init x h.initial).mpr hinit

theorem unique (h : Reached reach inputs done) (h' : Reached reach inputs done') : done = done' :=
  (h.isPrefix_of_reached h').eq_of_length_le (h'.isPrefix_of_reached h).length_le

/-- Where all inputs are reached that come into question. -/
theorem all (h : ∀ before x, before ++ [x] <+: inputs → reach before) :
    Reached reach inputs inputs :=
  ⟨List.prefix_rfl, fun before x hx => iff_of_true hx (h before x hx)⟩

/-- What is reached of the inputs that are reached for another reason. -/
theorem trans (h : Reached reach inputs done) (hinputs : Reached reach' lines inputs) :
    Reached (fun before => reach' before ∧ reach before) lines done := by
  refine ⟨h.initial.trans hinputs.initial, fun before x hx => ?_⟩
  constructor
  · intro hdone
    have hx' := hdone.trans h.initial
    exact ⟨(hinputs.next before x hx).mp hx', (h.next before x hx').mp hdone⟩
  · rintro ⟨hreach', hreach⟩
    exact (h.next before x ((hinputs.next before x hx).mpr hreach')).mpr hreach

theorem congr (h : Reached reach inputs done)
    (hreach : ∀ before x, before ++ [x] <+: inputs → (reach before ↔ reach' before)) :
    Reached reach' inputs done :=
  ⟨h.initial, fun before x hx => (h.next before x hx).trans (hreach before x hx)⟩

end Reached

end Reached

/-! ## Turns within a limit -/

/-- The bytes fit where there is a limit. -/
def Fits (limit : Option Limit) (bs : List UInt8) : Prop := ∀ l ∈ limit, bs.length ≤ l.room

theorem Fits.of_isPrefix {limit : Option Limit} {as bs : List UInt8} (h : Fits limit bs)
    (has : as <+: bs) : Fits limit as := by
  intro l hl
  exact Nat.le_trans has.length_le (h l hl)

/-- A run that stops after some inputs has reached the ones before which it fits. -/
theorem StopsAfter.reached {β : Type} {written : List β → List UInt8} {whole : List UInt8}
    {l : Limit} {done rest : List β} (h : StopsAfter written whole l.room done)
    (hmono : ∀ {xs ys}, xs <+: ys → written xs <+: written ys) :
    Reached (fun before => Fits (some l) (written before)) (done ++ rest) done := by
  refine ⟨List.prefix_append done rest, fun before x hx => ?_⟩
  constructor
  · intro hdone
    rcases List.eq_nil_or_concat done with rfl | ⟨init, y, rfl⟩
    · exact absurd (List.prefix_nil.mp hdone) (by simp)
    · rw [List.concat_eq_append] at hdone h
      have hle : before.length ≤ init.length := by simpa using hdone.length_le
      have hinit : before <+: init :=
        List.prefix_of_prefix_length_le ((List.prefix_append before [x]).trans hdone)
          (List.prefix_append init [y]) hle
      have hfits : Fits (some l) (written init) := by
        rintro _ ⟨⟩
        exact h.fits init y rfl
      exact hfits.of_isPrefix (hmono hinit)
  · intro hfits
    rcases List.prefix_or_prefix_of_prefix hx (List.prefix_append done rest) with hdone | hdone
    · exact hdone
    · rcases List.prefix_concat_iff.mp hdone with rfl | hdone
      · exact List.prefix_rfl
      · have hlt := h.exceeds
        have hle := (hfits.of_isPrefix (hmono hdone)) l rfl
        omega

namespace Session

variable (s : Session)

theorem play_of_fits {α : Type} {script : Script α} {limit : Option Limit}
    (h : Fits limit (Event.allBytes script.events)) : s.play script limit = s.play script none := by
  cases limit with
  | none => rfl
  | some l =>
      apply (s.cleanCut_play script l).fits
      rw [play_unlimited]
      exact h l rfl

/-- A script that takes a turn for each input handles those that are reached before the sink is
full. -/
theorem exists_reached {α β : Type} {script : Script α} {turn : β → Turn}
    {start : List (List UInt8)} {inputs : List β} {closing : List Log.Record}
    (hscript : script.events = Turn.sequence start (inputs.map turn) (closing.map .log))
    (limit : Option Limit) :
    ∃ done,
      Reached (fun before =>
        Fits limit (start.flatten ++ (before.map turn).flatMap Turn.bytes)) inputs done ∧
      (s.play script limit).session =
        ⟨s.config, s.counters.afterAll (done.map fun x => (turn x).outcome)⟩ := by
  have hmono : ∀ {xs ys : List β}, xs <+: ys →
      start.flatten ++ (xs.map turn).flatMap Turn.bytes <+:
        start.flatten ++ (ys.map turn).flatMap Turn.bytes := by
    rintro xs _ ⟨zs, rfl⟩
    rw [List.map_append, List.flatMap_append, ← List.append_assoc]
    exact List.prefix_append _ _
  by_cases h : Fits limit (start.flatten ++ (inputs.map turn).flatMap Turn.bytes)
  · refine ⟨inputs, .all fun before x hx => ?_, ?_⟩
    · exact h.of_isPrefix (hmono ((List.prefix_append before [x]).trans hx))
    · have hbytes : Event.allBytes script.events =
          start.flatten ++ (inputs.map turn).flatMap Turn.bytes := by
        rw [hscript, Turn.allBytes_sequence, Event.allBytes_map_log, List.append_nil]
      rw [s.play_of_fits (hbytes ▸ h), play_unlimited, hscript, Turn.outcomes_sequence,
        Event.filterMap_outcome?_map_log, List.append_nil, List.map_map]
      rfl
  · obtain ⟨l, rfl, hroom⟩ : ∃ l, limit = some l ∧
        l.room < (start.flatten ++ (inputs.map turn).flatMap Turn.bytes).length := by
      simpa [Fits] using h
    obtain ⟨done, rest, rfl, hstops, hsession, -⟩ :=
      s.exists_stopsAfter hscript (fun _ _ => rfl) hroom
    exact ⟨done, hstops.reached hmono, hsession⟩

end Session

end Calculator
