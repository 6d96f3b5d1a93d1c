import Calculator.Proofs.Session.Transcript

/-!
# Runs that meet the limit of their sink

A run that does not fit its sink stops in the turn of some line. The lines up to this one are the
fewest on which alone the run would write more than there is room for: they are handled, and no
line behind them is.
-/

namespace Calculator

/-- Of its inputs a run has handled `done` when it meets the limit: with the inputs before the last
of them it fits, with it no more. -/
structure StopsAfter {β : Type} (written : List β → List UInt8) (whole : List UInt8) (room : Nat)
    (done : List β) : Prop where
  initial : written done <+: whole
  fits : ∀ init x, done = init ++ [x] → (written init).length ≤ room
  exceeds : room < (written done).length
  nothing : done = [] ↔ room < (written []).length

namespace LastTurn

variable {β : Type} {n : Nat} {start : List UInt8} {turn : β → Turn} {done : List β}

theorem nil_iff {ts : List Turn} (h : LastTurn n start ts) : ts = [] ↔ n < start.length := by
  constructor
  · rintro rfl
    simpa using h.exceeds
  · intro hn
    rcases List.eq_nil_or_concat ts with hts | ⟨init, t, hts⟩
    · exact hts
    · have hle := h.fits init t (by rw [hts, List.concat_eq_append])
      rw [List.length_append] at hle
      omega

/-- Where inputs are written turn by turn, the run stops after the inputs of the turns taken. -/
theorem stopsAfter (h : LastTurn n start (done.map turn)) {written : List β → List UInt8}
    {rest : List β}
    (hwritten : ∀ ls, ls <+: done ++ rest → written ls = start ++ (ls.map turn).flatMap Turn.bytes) :
    StopsAfter written (written (done ++ rest)) n done := by
  have hdone := hwritten done (List.prefix_append done rest)
  have hnil := hwritten [] List.nil_prefix
  refine ⟨?_, fun init x hinit => ?_, ?_, ?_⟩
  · rw [hdone, hwritten _ List.prefix_rfl, List.map_append, List.flatMap_append,
      ← List.append_assoc]
    exact List.prefix_append _ _
  · have hpre : init <+: done ++ rest := ⟨[x] ++ rest, by rw [hinit, List.append_assoc]⟩
    rw [hwritten init hpre]
    exact h.fits _ (turn x) (by rw [hinit, List.map_append, List.map_singleton])
  · rw [hdone]
    exact h.exceeds
  · rw [hnil, List.map_nil, List.flatMap_nil, List.append_nil, ← h.nil_iff, List.map_eq_nil_iff]

end LastTurn

namespace Session

variable (s : Session)

/-- A script that takes a turn for each input stops, where it does not fit, after some of them. -/
theorem exists_stopsAfter {α β : Type} {script : Script α} {turn : β → Turn}
    {start : List (List UInt8)} {inputs : List β} {closing : List Event} {limit : Limit}
    {written : List β → List UInt8}
    (hscript : script.events = Turn.sequence start (inputs.map turn) closing)
    (hwritten : ∀ ls, ls <+: inputs →
      written ls = start.flatten ++ (ls.map turn).flatMap Turn.bytes)
    (h : limit.room < (written inputs).length) :
    ∃ done rest, inputs = done ++ rest ∧ StopsAfter written (written inputs) limit.room done ∧
      (s.play script (some limit)).session =
        ⟨s.config, s.counters.afterAll (done.map fun x => (turn x).outcome)⟩ ∧
      (s.play script (some limit)).records = done.flatMap fun x => (turn x).records := by
  rw [hwritten inputs List.prefix_rfl] at h
  obtain ⟨ts, us, hturns, hlast, houtcomes, hrecords⟩ :=
    @Sink.exists_lastTurn_sequence limit.room start (inputs.map turn) closing h
  obtain ⟨done, rest, rfl, rfl, rfl⟩ := List.map_eq_append_iff.mp hturns
  refine ⟨done, rest, rfl, hlast.stopsAfter hwritten, ?_, ?_⟩
  · simp only [play, Option.map_some, hscript, houtcomes, List.map_map, Function.comp_def]
  · simp only [play, Option.map_some, hscript, hrecords, List.flatMap_map]

theorem output_run {source : Source} {before after : List (List UInt8)}
    (hlines : source.lines = before ++ after) (hbefore : ∀ l ∈ before, ¬ s.config.IsExitLine l)
    (hafter : ∀ l ∈ after.head?, s.config.IsExitLine l) :
    (s.run source none).output = s.config.opening.flatten ++
      (before.map (s.config.turn ∘ lineText)).flatMap Turn.bytes := by
  rw [s.run_eq hlines hbefore hafter, ← List.map_map, flatten_opening, List.append_assoc,
    List.append_assoc, flatMap_bytes_turn]

/-- What an unlimited run writes on the first lines of a source alone. -/
theorem output_run_of_isPrefix {source : Source} {ls : List (List UInt8)}
    (hls : ls <+: source.lines) (hexit : ∀ l ∈ ls, ¬ s.config.IsExitLine l) :
    (s.run ⟨ls.flatten, none⟩ none).output = s.config.opening.flatten ++
      (ls.map (s.config.turn ∘ lineText)).flatMap Turn.bytes := by
  have hlines : (Source.mk ls.flatten none).lines = ls ++ [] := by
    rw [List.append_nil, Source.lines_flatten_of_isPrefix hls]
  exact s.output_run hlines hexit nofun

theorem output_runBatch (exprs : List String) :
    (s.runBatch exprs none).output = (exprs.map s.config.batchTurn).flatMap Turn.bytes := by
  rw [runBatch, play_unlimited, batchScript_events, Turn.allBytes_sequence]
  simp

theorem records_runBatch (exprs : List String) :
    (s.runBatch exprs none).records = exprs.flatMap fun e => (s.config.batchTurn e).records := by
  rw [runBatch, play_unlimited, batchScript_events, Turn.records_sequence, List.flatMap_map]
  simp

theorem outcome_batchTurn (c : Config) (expr : String) :
    (c.batchTurn expr).outcome = (c.reply expr).outcome := by
  rw [Config.batchTurn]
  cases (c.reply expr).outcome.render <;> rfl

theorem banner_eq_sequence (c : Config) :
    c.banner = Turn.sequence (if c.quiet then [] else [Text.encode c.bannerText]) [] [] := by
  rw [Config.banner]
  cases c.quiet <;> rfl

theorem session_writeBanner (limit : Limit) : (s.writeBanner (some limit)).session = s := by
  have hnone : (s.writeBanner none).session = s := by
    rw [writeBanner, play_unlimited, banner_eq_sequence, Turn.outcomes_sequence]
    rfl
  have hcut : CleanCut (s.writeBanner none) (s.writeBanner (some limit)) limit :=
    s.cleanCut_play _ limit
  by_cases h : (s.writeBanner none).output.length ≤ limit.room
  · rw [hcut.fits h, hnone]
  · rw [writeBanner, play_unlimited, banner_eq_sequence, Turn.allBytes_sequence,
      Event.allBytes_nil, List.append_nil, Nat.not_le] at h
    obtain ⟨done, rest, hdone, -, houtcomes, -⟩ := @Sink.exists_lastTurn_sequence _ _ _ [] h
    obtain ⟨rfl, -⟩ := List.append_eq_nil_iff.mp hdone.symm
    simp only [writeBanner, play, Option.map_some, banner_eq_sequence, houtcomes]
    rfl

/-- Every operation with a limited sink is cut cleanly, and where it is cut it has handled exactly
the inputs up to the one in whose turn the limit is met. -/
theorem cleanCut_operations (limit : Limit) :
    (CleanCut (s.writeBanner none) (s.writeBanner (some limit)) limit ∧
      (s.writeBanner (some limit)).session = s) ∧
    (∀ source, CleanCut (s.run source none) (s.run source (some limit)) limit ∧
      (limit.room < (s.run source none).output.length → ∃ done rest,
        source.lines = done ++ rest ∧ (∀ l ∈ done, ¬ s.config.IsExitLine l) ∧
        StopsAfter (fun ls => (s.run ⟨ls.flatten, none⟩ none).output) (s.run source none).output
          limit.room done ∧
        (s.run source (some limit)).session = s.handleLines (done.map lineText) ∧
        (s.run source (some limit)).records =
          done.flatMap fun l => (s.config.reply (lineText l)).records)) ∧
    ∀ exprs, CleanCut (s.runBatch exprs none) (s.runBatch exprs (some limit)) limit ∧
      (limit.room < (s.runBatch exprs none).output.length → ∃ done rest,
        exprs = done ++ rest ∧
        StopsAfter (fun es => (s.runBatch es none).output) (s.runBatch exprs none).output
          limit.room done ∧
        (s.runBatch exprs (some limit)).session = s.handleLines done ∧
        (s.runBatch exprs (some limit)).records = (s.runBatch done none).records) := by
  refine ⟨⟨s.cleanCut_play _ limit, s.session_writeBanner _⟩, fun source => ?_, fun exprs => ?_⟩
  · refine ⟨s.cleanCut_play _ limit, fun h => ?_⟩
    obtain ⟨before, after, hlines, hbefore, hafter⟩ := exists_exit_split s.config source.lines
    -- behind the exit command nothing is written, so the run is that on the lines before it
    have hwritten : ∀ ls, ls <+: before → (s.run ⟨ls.flatten, none⟩ none).output =
        s.config.opening.flatten ++ (ls.map (s.config.turn ∘ lineText)).flatMap Turn.bytes := by
      intro ls hls
      have hsource : ls <+: source.lines := hls.trans ⟨after, hlines.symm⟩
      exact s.output_run_of_isPrefix hsource fun l hl => hbefore l (hls.subset hl)
    have hwhole : (s.run source none).output = (s.run ⟨before.flatten, none⟩ none).output := by
      rw [hwritten before List.prefix_rfl, s.output_run hlines hbefore hafter]
    have hevents := congrArg Script.events (s.runScript_of_lines hlines hbefore hafter)
    rw [List.map_map] at hevents
    rw [hwhole] at h ⊢
    obtain ⟨done, rest, rfl, hstops, hsession, hrecords⟩ :=
      s.exists_stopsAfter hevents hwritten h
    refine ⟨done, rest ++ after, ?_, ?_, hstops, ?_, hrecords⟩
    · rw [hlines, List.append_assoc]
    · exact fun l hl => hbefore l (List.mem_append_left rest hl)
    · rw [run, hsession, handleLines_eq, List.map_map]
      rfl
  · refine ⟨s.cleanCut_play _ limit, fun h => ?_⟩
    have hwritten : ∀ es, es <+: exprs → (s.runBatch es none).output =
        ([] : List (List UInt8)).flatten ++ (es.map s.config.batchTurn).flatMap Turn.bytes :=
      fun es _ => s.output_runBatch es
    obtain ⟨done, rest, hexprs, hstops, hsession, hrecords⟩ :=
      s.exists_stopsAfter (s.batchScript_events exprs) hwritten h
    refine ⟨done, rest, hexprs, hstops, ?_, ?_⟩
    · rw [runBatch, hsession, handleLines_eq]
      simp only [outcome_batchTurn]
    · rw [runBatch, hrecords, records_runBatch]

end Session

end Calculator
