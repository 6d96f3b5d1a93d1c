import Calculator.Proofs.Session.History

/-!
# What a run on a list reports

A run on a list of expressions that is not cut short reports success when every expression has an
answer and the session has counted no failure. The count is not the run's own: once a line has
failed, whatever operation handled it, no later run on a list of this session reports success.
-/

namespace Calculator

/-- There is a value, or in token mode a listing. -/
def Outcome.isSuccess : Outcome → Bool
  | value _ => true
  | tokens _ => true
  | _ => false

theorem Outcome.isSuccess_iff {o : Outcome} :
    o.isSuccess = true ↔ o.isEvaluated = true ∧ o.isFailure = false := by
  cases o <;> simp [isSuccess, isEvaluated, isFailure]

namespace Session

variable {s : Session} {exprs : List String} {limit : Option Limit} {b : Bool}

/-- What a script results in does not depend on the sink, as long as this takes everything. -/
theorem result_of_play {α : Type} {script : Script α} {a : α}
    (h : (s.play script limit).result = .ok a) : script.result = .ok a := by
  unfold play at h
  dsimp only at h
  split at h
  · cases h
  · exact h

theorem result_batchScript (s : Session) (exprs : List String) :
    ∃ b, (s.batchScript exprs).result = .ok b ∧ (b = true ↔ s.counters.failed = 0 ∧
      ∀ e ∈ exprs, (s.handleLine e).1.outcome.isSuccess = true) := by
  refine ⟨_, by rw [batchScript, Batch.script_eq], ?_⟩
  rw [Batch.stepAll_eq, batch, Batch.succeeded, handleLines_eq, Counters.afterAll_eq]
  simp only [Bool.and_eq_true, beq_iff_eq, Nat.add_eq_zero_iff, true_and, List.countP_eq_zero,
    List.forall_mem_map, Bool.not_eq_true, Bool.not_eq_false', Outcome.isSuccess_iff, handleLine]
  constructor
  · rintro ⟨⟨hcounted, hfailure⟩, hevaluated⟩
    exact ⟨hcounted, fun e he => ⟨hevaluated e he, hfailure e he⟩⟩
  · rintro ⟨hcounted, hall⟩
    exact ⟨⟨hcounted, fun e he => (hall e he).2⟩, fun e he => (hall e he).1⟩

/-- The session has counted no failure when none of the lines that it has handled is one. -/
theorem failed_performAll_eq_zero_iff {c : Config} {ops : List Operation}
    {handled : List (List String)} (h : List.Forall₂ (Operation.Handles c) ops handled) :
    ((new c).performAll ops).counters.failed = 0 ↔
      ∀ l ∈ handled.flatten, (c.reply l).outcome.isFailure = false := by
  obtain ⟨handled', hhandled, hall⟩ := (new c).exists_handles_all ops
  obtain rfl : handled' = handled := (Operation.Handles.unique (c := c)).forall₂ hhandled h
  rw [hall, handleLines_eq, Counters.afterAll_eq]
  simp only [new, Counters.zero, Nat.zero_add, List.countP_eq_zero, List.forall_mem_map,
    Bool.not_eq_true]

/-- After any operations, a run on a list reports success exactly if no line handled before was a
failure and each expression of this list comes to a value or a listing. -/
theorem success_runBatch {c : Config} {ops : List Operation} {handled : List (List String)}
    (hops : List.Forall₂ (Operation.Handles c) ops handled)
    (h : (((new c).performAll ops).runBatch exprs limit).result = .ok b) :
    b = true ↔ (∀ l ∈ handled.flatten, (c.reply l).outcome.isFailure = false) ∧
      ∀ e ∈ exprs, (((new c).performAll ops).handleLine e).1.outcome.isSuccess = true := by
  obtain ⟨b', hb', hiff⟩ := ((new c).performAll ops).result_batchScript exprs
  obtain rfl : b' = b := Except.ok.inj (hb'.symm.trans (result_of_play h))
  rw [hiff, failed_performAll_eq_zero_iff hops]

theorem success_runBatch_after_blank :
    List.Forall₂ (Operation.Handles .default) [.line " ", .banner (some ⟨3, "full"⟩)] [[" "], []] ∧
      (((new .default).performAll [.line " ", .banner (some ⟨3, "full"⟩)]).runBatch ["1", "(2)"]
        (some ⟨4, "full"⟩)).result = .ok true ∧
      ((∀ l ∈ [[" "], []].flatten, ((Config.reply .default l).outcome.isFailure = false)) ∧
        ∀ e ∈ ["1", "(2)"], (((new .default).performAll
          [.line " ", .banner (some ⟨3, "full"⟩)]).handleLine e).1.outcome.isSuccess = true) := by
  have hops : List.Forall₂ (Operation.Handles .default)
      [.line " ", .banner (some ⟨3, "full"⟩)] [[" "], []] :=
    .cons (.line _) (.cons (.banner _) .nil)
  have hresult : (((new .default).performAll [.line " ", .banner (some ⟨3, "full"⟩)]).runBatch
      ["1", "(2)"] (some ⟨4, "full"⟩)).result = .ok true := by decide +kernel
  exact ⟨hops, hresult, (success_runBatch hops hresult).mp rfl⟩

/-- An old failure is reported again, on a list of which every expression succeeds. -/
theorem earlier_failure_reported :
    (((new .default).performAll [.line "1/0"]).runBatch ["1"] none).result = .ok false ∧
      ∀ e ∈ ["1"],
        (((new .default).performAll [.line "1/0"]).handleLine e).1.outcome.isSuccess = true := by
  decide +kernel

end Session

end Calculator
