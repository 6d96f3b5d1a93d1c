import Calculator.Proofs.Scanner.Tiling

/-!
# Calls on one scanner

A scanner is read token by token, as a sequence, or to its end at once, and these calls may follow
each other in any order. All of them walk with the same cursor, and only two of them know that the
sequence has failed. Whatever the order, the cursor stands between two characters of the input and
never moves back, each token is met once, and at the end of the input or at a bad character it
stays for good.
-/

namespace Calculator

open Text (utf8Size)

namespace Cursor

/-! ## A walk -/

/-- The cursor goes past these tokens, and maybe up to the end behind them. -/
inductive Walks : Cursor → List Token → Cursor → Prop where
  | refl (c : Cursor) : Walks c [] c
  | token {c c' c'' : Cursor} {t : Token} {ts : List Token} (h : c.next = (.token t, c'))
      (hw : Walks c' ts c'') : Walks c (t :: ts) c''
  | ending {c c' : Cursor} {e : StreamEnd} (h : c.next = (.ending e, c')) : Walks c [] c'

/-- What is left of the stream at the cursor. -/
def left (c : Cursor) : TokenStream := (c.collect []).1

theorem left_of_token {c c' : Cursor} {t : Token} (h : c.next = (.token t, c')) :
    c.left = ⟨t :: c'.left.tokens, c'.left.ending⟩ := by
  rw [left, collect_of_token h]
  exact congrArg Prod.fst (c'.collect_append [] [t])

theorem left_of_ending {c c' : Cursor} {e : StreamEnd} (h : c.next = (.ending e, c')) :
    c.left = ⟨[], e⟩ := by
  rw [left, collect_of_ending h]
  rfl

theorem eq_of_read_ending {c c' : Cursor} {e : StreamEnd} (h : c.read = (.ending e, c')) :
    c' = c := by
  unfold read at h
  split at h
  · exact (Prod.mk.inj h).2.symm
  · split at h
    · cases h
    · split at h
      · cases h
      · exact (Prod.mk.inj h).2.symm

theorem skipBlanks_skipBlanks (c : Cursor) : c.skipBlanks.skipBlanks = c.skipBlanks := by
  have htake : (c.rest.dropWhile Text.isBlank).takeWhile Text.isBlank = [] := by
    rw [List.takeWhile_eq_nil_iff]
    intro hlen
    simpa using List.dropWhile_get_zero_not Text.isBlank c.rest hlen
  have hdrop : (c.rest.dropWhile Text.isBlank).dropWhile Text.isBlank =
      c.rest.dropWhile Text.isBlank := by
    rw [List.dropWhile_eq_self_iff]
    intro hlen
    simpa using List.dropWhile_get_zero_not Text.isBlank c.rest hlen
  simp only [skipBlanks, skipWhile, hdrop, htake, Text.utf8Size_nil, Nat.add_zero]

/-- Where the stream ends the cursor stays. -/
theorem next_of_ending {c c' : Cursor} {e : StreamEnd} (h : c.next = (.ending e, c')) :
    c'.next = (.ending e, c') := by
  obtain rfl : c' = c.skipBlanks := eq_of_read_ending h
  rw [next, skipBlanks_skipBlanks]
  exact h

namespace Walks

variable {c c' c'' : Cursor} {ts us : List Token}

theorem trans (h : Walks c ts c') (h' : Walks c' us c'') : Walks c (ts ++ us) c'' := by
  induction h with
  | refl _ => exact h'
  | token hnext _ ih => exact .token hnext (ih h')
  | ending hnext =>
      have hstay := next_of_ending hnext
      cases h' with
      | refl _ => exact .ending hnext
      | token hnext' _ =>
          rw [hstay] at hnext'
          cases hnext'
      | ending hnext' =>
          rw [hstay] at hnext'
          cases hnext'
          exact .ending hnext

theorem left_eq (h : Walks c ts c') : c.left = ⟨ts ++ c'.left.tokens, c'.left.ending⟩ := by
  induction h with
  | refl _ => rfl
  | token hnext _ ih => rw [left_of_token hnext, ih, List.cons_append]
  | ending hnext => rw [left_of_ending hnext, left_of_ending (next_of_ending hnext)]; rfl

end Walks

theorem Meets.exists_moved {c c' : Cursor} {r : Reading} (h : c.Meets r c') :
    ∃ moved, c.rest = moved ++ c'.rest ∧ c'.position = c.position + utf8Size moved ∧
      ∀ t, r = .token t → moved ≠ [] := by
  cases h with
  | token hb hm hc =>
      refine ⟨_, by rw [hc, ← List.append_assoc], ?_, fun t _ hnil => hm.ne_nil ?_⟩
      · rw [Text.utf8Size_append, Nat.add_assoc]
      · exact (List.append_eq_nil_iff.mp hnil).2
  | finish hb => exact ⟨c.rest, (List.append_nil _).symm, rfl, nofun⟩
  | bad hb hch hc => exact ⟨_, hc, rfl, nofun⟩

theorem Walks.exists_moved {c c' : Cursor} {ts : List Token} (h : Walks c ts c') :
    ∃ moved, c.rest = moved ++ c'.rest ∧ c'.position = c.position + utf8Size moved ∧
      (ts ≠ [] → moved ≠ []) := by
  induction h with
  | refl c => exact ⟨[], rfl, rfl, fun h => (h rfl).elim⟩
  | token hnext _ ih =>
      obtain ⟨front, hrest, hpos, hne⟩ := (meets_of_next hnext).exists_moved
      obtain ⟨back, hrest', hpos', -⟩ := ih
      refine ⟨front ++ back, ?_, ?_, fun _ hnil => hne _ rfl (List.append_eq_nil_iff.mp hnil).1⟩
      · rw [hrest, hrest', List.append_assoc]
      · rw [hpos', hpos, Text.utf8Size_append, Nat.add_assoc]
  | ending hnext =>
      obtain ⟨moved, hrest, hpos, -⟩ := (meets_of_next hnext).exists_moved
      exact ⟨moved, hrest, hpos, fun h => (h rfl).elim⟩

/-- Collecting walks past all that is left, up to where the stream ends. -/
theorem walks_collect (before : List Token) (c : Cursor) :
    Walks c c.left.tokens (c.collect before).2 ∧
      (c.collect before).2.next = (.ending c.left.ending, (c.collect before).2) := by
  fun_induction collect before c with
  | case1 before c t c' h ih =>
      rw [left_of_token h]
      exact ⟨.token h ih.1, ih.2⟩
  | case2 before c e c' h =>
      rw [left_of_ending h]
      exact ⟨.ending h, next_of_ending h⟩

end Cursor

namespace Scanner

/-! ## Schedules of calls -/

inductive Call where
  | nextToken
  | next
  | collect
  deriving DecidableEq

inductive Answer where
  | token (r : Except EvalError Token)
  | element (r : Option (Except EvalError Token))
  | rest (r : Except EvalError (List Token))

def call (s : Scanner) : Call → Answer × Scanner
  | .nextToken => (.token s.nextToken.1, s.nextToken.2)
  | .next => (.element s.next?.1, s.next?.2)
  | .collect => (.rest s.collect.1, s.collect.2)

def after (s : Scanner) (calls : List Call) : Scanner := calls.foldl (fun s c => (s.call c).2) s

def answers (s : Scanner) : List Call → List Answer
  | [] => []
  | c :: cs => (s.call c).1 :: (s.call c).2.answers cs

/-- The sequence has these tokens next. -/
inductive Yields : Scanner → List Token → Scanner → Prop where
  | nil (s : Scanner) : Yields s [] s
  | cons {s s' s'' : Scanner} {t : Token} {ts : List Token} (h : s.next? = (some (.ok t), s'))
      (hts : Yields s' ts s'') : Yields s (t :: ts) s''

/-- The tokens that a call goes past: those it answers with, the end of the input left out, and
for a failing `collect` those in front of the error. -/
def taken (s : Scanner) (c : Call) : List Token :=
  match (s.call c).1 with
  | .token (.ok t) => if t.kind = .endOfInput then [] else [t]
  | .element (some (.ok t)) => [t]
  | .rest (.ok ts) => ts
  | .rest (.error _) => s.cursor.left.tokens
  | _ => []

def gathered (s : Scanner) : List Call → List Token
  | [] => []
  | c :: cs => s.taken c ++ (s.call c).2.gathered cs

namespace Answer

/-- The error that the sequence reports. -/
def report? : Answer → Option EvalError
  | .element (some (.error e)) => some e
  | .rest (.error e) => some e
  | _ => none

/-- The answer tells that nothing is left, and not that the sequence has failed. -/
def ShowsEnd : Answer → Prop
  | .token r => ∃ t, r = .ok t ∧ t.kind = .endOfInput
  | .element r => r = none
  | .rest r => ∃ ts, r = .ok ts

/-- The answer at the end of an input of `n` bytes. -/
def atEnd (n : Nat) : Call → Answer
  | .nextToken => .token (.ok (.endOfInput n))
  | .next => .element none
  | .collect => .rest (.ok [])

/-- Nothing is left of the sequence, if the answer is about it. -/
def Exhausted : Answer → Prop
  | .token _ => True
  | .element r => r = none
  | .rest r => r = .ok []

theorem report?_element (e : Option EvalError) : report? (.element (e.map .error)) = e := by
  cases e <;> rfl

theorem report?_rest (S : TokenStream) : report? (.rest S.toExcept) = S.ending.error? := by
  unfold TokenStream.toExcept
  cases S.ending.error? <;> rfl

end Answer

/-! ## What one call does -/

/-- All that a call can do: the tokens it goes past, its answer, and the scanner after it. -/
inductive Does (s : Scanner) : Call → List Token → Answer → Scanner → Prop where
  | token {t : Token} {c' : Cursor} (h : s.cursor.next = (.token t, c')) :
      Does s .nextToken [t] (.token (.ok t)) ⟨c', s.failed⟩
  | ending {e : StreamEnd} {c' : Cursor} (h : s.cursor.next = (.ending e, c')) :
      Does s .nextToken [] (.token (Reading.ending e).token?) ⟨c', s.failed⟩
  | nextFailed (hf : s.failed = true) : Does s .next [] (.element none) s
  | nextToken {t : Token} {c' : Cursor} (hf : s.failed = false)
      (h : s.cursor.next = (.token t, c')) :
      Does s .next [t] (.element (some (.ok t))) ⟨c', false⟩
  | nextEnding {e : StreamEnd} {c' : Cursor} (hf : s.failed = false)
      (h : s.cursor.next = (.ending e, c')) :
      Does s .next [] (.element (e.error?.map .error)) ⟨c', e.error?.isSome⟩
  | collectFailed (hf : s.failed = true) : Does s .collect [] (.rest (.ok [])) s
  | collect (hf : s.failed = false) :
      Does s .collect s.cursor.left.tokens (.rest s.cursor.left.toExcept)
        ⟨(s.cursor.collect []).2, s.cursor.left.ending.error?.isSome⟩

theorem kind_ne_of_next {c c' : Cursor} {t : Token} (h : c.next = (.token t, c')) :
    t.kind ≠ .endOfInput := by
  cases Cursor.meets_of_next h with
  | token _ hm _ => exact hm.kind_ne_endOfInput

theorem does_nextToken (s : Scanner) :
    Does s .nextToken (s.taken .nextToken) (.token s.nextToken.1) s.nextToken.2 := by
  cases hnext : s.cursor.next with
  | mk r c' =>
      have hcall : s.nextToken = (r.token?, ⟨c', s.failed⟩) := by rw [nextToken, hnext]
      simp only [taken, call, hcall]
      cases r with
      | token t =>
          simp only [Reading.token?, kind_ne_of_next hnext, ↓reduceIte]
          exact .token hnext
      | ending e => cases e <;> exact .ending hnext

theorem does_next (s : Scanner) : Does s .next (s.taken .next) (.element s.next?.1) s.next?.2 := by
  cases hf : s.failed with
  | true =>
      simp only [taken, call, next?, hf, ↓reduceIte]
      exact .nextFailed hf
  | false =>
      cases hnext : s.cursor.next with
      | mk r c' =>
          cases r with
          | token t =>
              simp only [taken, call, next?, hf, hnext, Bool.false_eq_true, ↓reduceIte]
              exact .nextToken hf hnext
          | ending e =>
              simp only [taken, call, next?, hf, hnext, Bool.false_eq_true, ↓reduceIte]
              cases e <;> exact .nextEnding hf hnext

theorem does_collect (s : Scanner) :
    Does s .collect (s.taken .collect) (.rest s.collect.1) s.collect.2 := by
  cases hf : s.failed with
  | true =>
      simp only [taken, call, collect, hf, ↓reduceIte]
      exact .collectFailed hf
  | false =>
      have hcall : s.collect = (s.cursor.left.toExcept,
          ⟨(s.cursor.collect []).2, s.cursor.left.ending.error?.isSome⟩) := by
        simp only [collect, hf, Bool.false_eq_true, ↓reduceIte, Cursor.left]
      have htaken : s.taken .collect = s.cursor.left.tokens := by
        simp only [taken, call, hcall, TokenStream.toExcept]
        cases s.cursor.left.ending <;> rfl
      rw [htaken, hcall]
      exact .collect hf

theorem does_call (s : Scanner) (c : Call) : Does s c (s.taken c) (s.call c).1 (s.call c).2 := by
  cases c with
  | nextToken => exact s.does_nextToken
  | next => exact s.does_next
  | collect => exact s.does_collect

namespace Does

variable {s s' : Scanner} {c : Call} {ts : List Token} {a : Answer}

theorem walks (h : Does s c ts a s') : s.cursor.Walks ts s'.cursor := by
  cases h with
  | token hnext => exact .token hnext (.refl _)
  | ending hnext => exact .ending hnext
  | nextFailed _ => exact .refl _
  | nextToken _ hnext => exact .token hnext (.refl _)
  | nextEnding _ hnext => exact .ending hnext
  | collectFailed _ => exact .refl _
  | collect _ => exact (s.cursor.walks_collect []).1

theorem failed_eq (h : Does s c ts a s') : s'.failed = (s.failed || a.report?.isSome) := by
  cases h with
  | token _ => simp [Answer.report?]
  | ending _ => simp [Answer.report?]
  | nextFailed hf => simp [hf]
  | nextToken hf _ => simp [hf, Answer.report?]
  | nextEnding hf _ => simp [hf, Answer.report?_element]
  | collectFailed hf => simp [hf]
  | collect hf => simp [hf, Answer.report?_rest]

theorem exhausted (h : Does s c ts a s') (hf : s.failed = true) : a.Exhausted := by
  cases h with
  | token _ => trivial
  | ending _ => trivial
  | nextFailed _ => rfl
  | collectFailed _ => rfl
  | nextToken hf' _ => rw [hf] at hf'; cases hf'
  | nextEnding hf' _ => rw [hf] at hf'; cases hf'
  | collect hf' => rw [hf] at hf'; cases hf'

end Does

theorem report?_of_exhausted {a : Answer} (h : a.Exhausted) : a.report? = none := by
  cases a with
  | token r => rfl
  | element r => rw [show r = none from h]; rfl
  | rest r => rw [show r = .ok [] from h]; rfl

/-! ## What a schedule does -/

theorem after_append (s : Scanner) (cs ds : List Call) :
    s.after (cs ++ ds) = (s.after cs).after ds := List.foldl_append

theorem walks_after (s : Scanner) (calls : List Call) :
    s.cursor.Walks (s.gathered calls) (s.after calls).cursor := by
  induction calls generalizing s with
  | nil => exact .refl _
  | cons c cs ih => exact (s.does_call c).walks.trans (ih _)

/-- The errors that the sequence reports during a schedule. -/
def reports (s : Scanner) (calls : List Call) : List EvalError :=
  (s.answers calls).filterMap Answer.report?

theorem failed_call {s : Scanner} (hf : s.failed = true) (c : Call) :
    (s.call c).2.failed = true := by
  rw [(s.does_call c).failed_eq, hf, Bool.true_or]

theorem failed_after {s : Scanner} (hf : s.failed = true) (calls : List Call) :
    (s.after calls).failed = true := by
  induction calls generalizing s with
  | nil => exact hf
  | cons c cs ih => exact ih (failed_call hf c)

theorem exhausted_of_failed {s : Scanner} (hf : s.failed = true) (calls : List Call) :
    ∀ a ∈ s.answers calls, a.Exhausted := by
  induction calls generalizing s with
  | nil => exact fun a ha => absurd ha List.not_mem_nil
  | cons c cs ih =>
      intro a ha
      rcases List.mem_cons.mp ha with rfl | ha
      · exact (s.does_call c).exhausted hf
      · exact ih (failed_call hf c) a ha

theorem reports_of_failed {s : Scanner} (hf : s.failed = true) (calls : List Call) :
    s.reports calls = [] := by
  rw [reports, List.filterMap_eq_nil_iff]
  exact fun a ha => report?_of_exhausted (exhausted_of_failed hf calls a ha)

/-- The sequence has failed exactly when it has reported its error, and it does so once. -/
theorem reports_cases {s : Scanner} (hf : s.failed = false) (calls : List Call) :
    (s.reports calls = [] ∧ (s.after calls).failed = false) ∨
      ∃ e, s.reports calls = [e] ∧ (s.after calls).failed = true := by
  induction calls generalizing s with
  | nil => exact .inl ⟨rfl, hf⟩
  | cons c cs ih =>
      have hfailed := (s.does_call c).failed_eq
      rw [hf, Bool.false_or] at hfailed
      cases hr : (s.call c).1.report? with
      | none =>
          rw [hr] at hfailed
          have hcons : s.reports (c :: cs) = (s.call c).2.reports cs :=
            List.filterMap_cons_none hr
          rw [hcons]
          exact ih hfailed
      | some e =>
          rw [hr] at hfailed
          have hcons : s.reports (c :: cs) = e :: (s.call c).2.reports cs :=
            List.filterMap_cons_some hr
          exact .inr ⟨e, by rw [hcons, reports_of_failed hfailed], failed_after hfailed cs⟩

/-! ## Where the stream ends -/

/-- The answer at the end `e` of the stream. -/
def Answer.atEnding (e : StreamEnd) (failed : Bool) : Call → Answer
  | .nextToken => .token (Reading.ending e).token?
  | .next => .element (if failed then none else e.error?.map .error)
  | .collect => .rest (if failed then .ok [] else TokenStream.toExcept ⟨[], e⟩)

section Ending

variable {s : Scanner} {c' : Cursor} {e : StreamEnd}

theorem call_of_ending (h : s.cursor.next = (.ending e, c')) (c : Call) :
    (s.call c).1 = .atEnding e s.failed c ∧
      ((s.call c).2.cursor = s.cursor ∨ (s.call c).2.cursor = c') := by
  have hdoes := s.does_call c
  generalize s.taken c = ts at hdoes
  generalize s.call c = r at hdoes ⊢
  obtain ⟨a, s'⟩ := r
  cases hdoes with
  | token hnext => rw [h] at hnext; cases hnext
  | nextToken _ hnext => rw [h] at hnext; cases hnext
  | ending hnext =>
      rw [h] at hnext
      cases hnext
      exact ⟨rfl, .inr rfl⟩
  | nextFailed hf => exact ⟨by rw [Answer.atEnding, hf]; rfl, .inl rfl⟩
  | collectFailed hf => exact ⟨by rw [Answer.atEnding, hf]; rfl, .inl rfl⟩
  | nextEnding hf hnext =>
      rw [h] at hnext
      cases hnext
      exact ⟨by rw [Answer.atEnding, hf]; rfl, .inr rfl⟩
  | collect hf =>
      rw [Answer.atEnding, hf, Cursor.left_of_ending h]
      exact ⟨rfl, .inr (congrArg Prod.snd (Cursor.collect_of_ending h []))⟩

theorem next_call_of_ending (h : s.cursor.next = (.ending e, c')) (c : Call) :
    (s.call c).2.cursor.next = (.ending e, c') := by
  rcases (call_of_ending h c).2 with hc | hc
  · rw [hc]
    exact h
  · rw [hc]
    exact Cursor.next_of_ending h

theorem answers_of_ending (h : s.cursor.next = (.ending e, c')) (calls : List Call) :
    ∀ a ∈ s.answers calls, ∃ failed c, a = .atEnding e failed c := by
  induction calls generalizing s with
  | nil => exact fun a ha => absurd ha List.not_mem_nil
  | cons c cs ih =>
      intro a ha
      rcases List.mem_cons.mp ha with rfl | ha
      · exact ⟨s.failed, c, (call_of_ending h c).1⟩
      · exact ih (next_call_of_ending h c) a ha

theorem cursor_after_of_ending (h : s.cursor.next = (.ending e, s.cursor)) (calls : List Call) :
    (s.after calls).cursor = s.cursor := by
  induction calls generalizing s with
  | nil => rfl
  | cons c cs ih =>
      have hc : (s.call c).2.cursor = s.cursor := by
        rcases (call_of_ending h c).2 with hc | hc <;> exact hc
      have hnext : (s.call c).2.cursor.next = (.ending e, (s.call c).2.cursor) := by
        rw [hc]
        exact h
      exact (ih hnext).trans hc

theorem answers_of_endOfInput {n : Nat} (h : s.cursor.next = (.ending (.endOfInput n), c'))
    (calls : List Call) : s.answers calls = calls.map (.atEnd n) := by
  induction calls generalizing s with
  | nil => rfl
  | cons c cs ih =>
      have hanswer : (s.call c).1 = .atEnd n c := by
        rw [(call_of_ending h c).1]
        cases c <;> cases s.failed <;> rfl
      rw [answers, List.map_cons, hanswer, ih (next_call_of_ending h c)]

end Ending

theorem next_of_badCharacter {c : Cursor} {ch : Char} {rest : List Char}
    (hc : c.rest = ch :: rest) (hch : ¬ IsExpressionChar ch) :
    c.next = (.ending (.badCharacter ch c.position), c) := by
  obtain ⟨text, p⟩ := c
  obtain rfl : text = ch :: rest := hc
  have hblanks : AllBlank [] := fun d hd => absurd hd List.not_mem_nil
  exact Cursor.next_of_meets (.bad hblanks hch rfl)

theorem rest_eq_nil_of_next {c c' : Cursor} {n : Nat} (h : c.next = (.ending (.endOfInput n), c')) :
    c'.rest = [] := by
  cases Cursor.meets_of_next h
  rfl

theorem exists_badCharacter_of_next {c c' : Cursor} {ch : Char} {p : Nat}
    (h : c.next = (.ending (.badCharacter ch p), c')) :
    ¬ IsExpressionChar ch ∧ p = c'.position ∧ ∃ rest, c'.rest = ch :: rest := by
  cases Cursor.meets_of_next h with
  | bad hb hch hc => exact ⟨hch, rfl, _, rfl⟩

theorem Does.rest_eq_nil {s s' : Scanner} {c : Call} {ts : List Token} {a : Answer}
    (h : Does s c ts a s') (hf : s.failed = false) (ha : a.ShowsEnd) : s'.cursor.rest = [] := by
  cases h with
  | token hnext =>
      obtain ⟨t, ht, hk⟩ := ha
      cases ht
      exact (kind_ne_of_next hnext hk).elim
  | @ending e _ hnext =>
      cases e with
      | endOfInput n => exact rest_eq_nil_of_next hnext
      | badCharacter ch p =>
          obtain ⟨t, ht, -⟩ := ha
          cases ht
  | nextFailed hf' => rw [hf] at hf'; cases hf'
  | collectFailed hf' => rw [hf] at hf'; cases hf'
  | nextToken _ _ => cases ha
  | @nextEnding e _ _ hnext =>
      cases e with
      | endOfInput n => exact rest_eq_nil_of_next hnext
      | badCharacter ch p => cases ha
  | collect _ =>
      have hend := (s.cursor.walks_collect []).2
      obtain ⟨us, hus⟩ := ha
      rw [TokenStream.toExcept] at hus
      cases he : s.cursor.left.ending with
      | endOfInput n =>
          rw [he] at hend
          exact rest_eq_nil_of_next hend
      | badCharacter ch p =>
          rw [he] at hus
          cases hus

/-- With an error the cursor stands at the bad character that the error names. -/
theorem Does.exists_badCharacter {s s' : Scanner} {c : Call} {ts : List Token} {a : Answer}
    {e : EvalError} (h : Does s c ts a s') (ha : a = .token (.error e) ∨ a.report? = some e) :
    ∃ ch p, s'.cursor.next = (.ending (.badCharacter ch p), s'.cursor) ∧
      e = .badCharacter ch p := by
  cases h with
  | token _ => rcases ha with ha | ha <;> cases ha
  | @ending end' _ hnext =>
      have hstay := Cursor.next_of_ending hnext
      rcases ha with ha | ha
      · cases end' <;> cases ha
        exact ⟨_, _, hstay, rfl⟩
      · cases ha
  | nextFailed _ => rcases ha with ha | ha <;> cases ha
  | collectFailed _ => rcases ha with ha | ha <;> cases ha
  | nextToken _ _ => rcases ha with ha | ha <;> cases ha
  | @nextEnding end' _ _ hnext =>
      have hstay := Cursor.next_of_ending hnext
      rcases ha with ha | ha
      · cases ha
      · rw [Answer.report?_element] at ha
        cases end' <;> cases ha
        exact ⟨_, _, hstay, rfl⟩
  | collect _ =>
      have hend := (s.cursor.walks_collect []).2
      rcases ha with ha | ha
      · cases ha
      · rw [Answer.report?_rest] at ha
        cases he : s.cursor.left.ending with
        | endOfInput n =>
            rw [he] at ha
            cases ha
        | badCharacter ch p =>
            rw [he] at ha hend
            cases ha
            exact ⟨ch, p, hend, rfl⟩

/-- A sequence that has not failed has the tokens next that are left at the cursor. -/
theorem yields_left (before : List Token) (c : Cursor) :
    ∃ c', Yields ⟨c, false⟩ c.left.tokens ⟨c', false⟩ ∧
      c'.next = (.ending c.left.ending, (c.collect before).2) := by
  fun_induction Cursor.collect before c with
  | case1 before c t c' h ih =>
      obtain ⟨c'', hyields, hnext⟩ := ih
      have hstep : next? ⟨c, false⟩ = (some (.ok t), ⟨c', false⟩) := by
        simp only [next?, h, Bool.false_eq_true, ↓reduceIte]
      rw [Cursor.left_of_token h]
      exact ⟨c'', .cons hstep hyields, hnext⟩
  | case2 before c e c' h =>
      rw [Cursor.left_of_ending h]
      exact ⟨c, .nil _, h⟩

/-- A failing `collect` goes past what the sequence has before its error. -/
theorem yields_taken {s : Scanner} {e : EvalError} (h : s.collect.1 = .error e) :
    ∃ s', Yields s (s.taken .collect) s' ∧ s'.next? = (some (.error e), s.collect.2) := by
  have htaken : s.taken .collect = s.cursor.left.tokens := by simp only [taken, call, h]
  obtain ⟨c, failed⟩ := s
  cases failed with
  | true => cases h
  | false =>
      obtain ⟨c', hyields, hnext⟩ := yields_left [] c
      have hcollect : collect ⟨c, false⟩ = (c.left.toExcept,
          ⟨(c.collect []).2, c.left.ending.error?.isSome⟩) := rfl
      rw [hcollect, TokenStream.toExcept] at h
      cases he : c.left.ending with
      | endOfInput n =>
          rw [he] at h
          cases h
      | badCharacter ch p =>
          rw [he] at h hnext
          cases h
          refine ⟨⟨c', false⟩, htaken ▸ hyields, ?_⟩
          rw [hcollect, he, next?, hnext]
          rfl

/-! ## The laws of a schedule -/

/-- How a scanner on `s` stands after some calls, and what further calls do. -/
structure Lawful (s : String) (calls : List Call) (st : Scanner) : Prop where
  boundary : ∃ before after : String, s = before ++ after ∧
    st.position = before.utf8ByteSize ∧ st.cursor.rest = after.toList
  position_le : st.position ≤ s.utf8ByteSize
  forward : ∀ c, st.position ≤ (st.call c).2.position
  progress : ∀ c, st.taken c ≠ [] → st.position < (st.call c).2.position
  gathered : (ofString s).gathered calls <+: (TokenStream.ofString s).tokens
  spans : ∀ t ∈ (ofString s).gathered calls, ∃ before after, t.Spans s before after
  dropped : ∀ e, st.collect.1 = .error e →
    ∃ st', Yields st (st.taken .collect) st' ∧ st'.next? = (some (.error e), st.collect.2)
  reachesEnd : ∀ c, st.failed = false → (st.call c).1.ShowsEnd →
    (st.call c).2.position = s.utf8ByteSize
  atEnd : AllBlank st.cursor.rest → ∀ more, st.answers more = more.map (.atEnd s.utf8ByteSize)
  rest_eq_nil : st.position = s.utf8ByteSize → st.cursor.rest = []
  stops : ∀ c e, (st.call c).1 = .token (.error e) ∨ (st.call c).1.report? = some e →
    ∃ ch rest, ¬ IsExpressionChar ch ∧ (st.call c).2.cursor.rest = ch :: rest ∧
      e = .badCharacter ch (st.call c).2.position
  atBadCharacter : ∀ ch rest, ¬ IsExpressionChar ch → st.cursor.rest = ch :: rest → ∀ more,
    (st.after more).position = st.position ∧ ∀ a ∈ st.answers more,
      (∀ r, a = .token r → r = .error (.badCharacter ch st.position)) ∧
      ∀ e, a.report? = some e → e = .badCharacter ch st.position
  reports_le_one : ((ofString s).reports calls).length ≤ 1
  reported : (ofString s).reports calls ≠ [] → ∀ more, ∀ a ∈ st.answers more, a.Exhausted
  unreported : (ofString s).reports calls = [] → ∀ ch rest, ¬ IsExpressionChar ch →
    st.cursor.rest = ch :: rest → ∀ c ≠ .nextToken,
      (st.call c).1.report? = some (.badCharacter ch st.position)

theorem exists_boundary (s : String) (calls : List Call) : ∃ before after : String,
    s = before ++ after ∧ ((ofString s).after calls).position = before.utf8ByteSize ∧
      ((ofString s).after calls).cursor.rest = after.toList := by
  obtain ⟨moved, hrest, hpos, -⟩ := ((ofString s).walks_after calls).exists_moved
  refine ⟨String.ofList moved, String.ofList ((ofString s).after calls).cursor.rest, ?_, ?_, ?_⟩
  · rw [← String.ofList_append, ← hrest]
    exact String.ofList_toList.symm
  · rw [← Text.utf8Size_toList, String.toList_ofList, position, hpos]
    exact Nat.zero_add _
  · rw [String.toList_ofList]

theorem position_add_rest (s : String) (calls : List Call) :
    ((ofString s).after calls).position + utf8Size ((ofString s).after calls).cursor.rest =
      s.utf8ByteSize := by
  obtain ⟨before, after, hs, hpos, hrest⟩ := exists_boundary s calls
  have hsize : s.utf8ByteSize = before.utf8ByteSize + after.utf8ByteSize := by
    rw [hs, String.utf8ByteSize_append]
  rw [hpos, hrest, Text.utf8Size_toList, hsize]

theorem position_eq_iff (s : String) (calls : List Call) :
    ((ofString s).after calls).position = s.utf8ByteSize ↔
      ((ofString s).after calls).cursor.rest = [] := by
  have hsize := position_add_rest s calls
  cases hrest : ((ofString s).after calls).cursor.rest with
  | nil =>
      rw [hrest, Text.utf8Size_nil] at hsize
      simpa using hsize
  | cons ch rest =>
      have hch : 0 < ch.utf8Size := ch.utf8Size_pos
      rw [hrest, Text.utf8Size_cons] at hsize
      refine ⟨fun hpos => ?_, nofun⟩
      omega

theorem position_le_call (s : Scanner) (c : Call) :
    s.position ≤ (s.call c).2.position ∧
      (s.taken c ≠ [] → s.position < (s.call c).2.position) := by
  obtain ⟨moved, -, hpos, hne⟩ := (s.does_call c).walks.exists_moved
  rw [position, position, hpos]
  refine ⟨Nat.le_add_right _ _, fun htaken => ?_⟩
  obtain ⟨ch, cs, rfl⟩ := List.exists_cons_of_ne_nil (hne htaken)
  have hch : 0 < ch.utf8Size := ch.utf8Size_pos
  rw [Text.utf8Size_cons]
  omega

theorem gathered_isPrefix (s : String) (calls : List Call) :
    (ofString s).gathered calls <+: (TokenStream.ofString s).tokens := by
  have hleft := ((ofString s).walks_after calls).left_eq
  refine ⟨((ofString s).after calls).cursor.left.tokens, ?_⟩
  rw [show TokenStream.ofString s = (ofString s).cursor.left from rfl, hleft]

/-- Whatever calls are made on a scanner in whatever order, the laws of a schedule hold. -/
theorem lawful_after (s : String) (calls : List Call) :
    Lawful s calls ((ofString s).after calls) := by
  have hfresh : (ofString s).failed = false := rfl
  have hreports := reports_cases hfresh calls
  refine
    { boundary := exists_boundary s calls
      position_le := ?_
      forward := fun c => (position_le_call _ c).1
      progress := fun c => (position_le_call _ c).2
      gathered := gathered_isPrefix s calls
      spans := fun t ht => ?_
      dropped := fun e => yields_taken
      reachesEnd := fun c hf ha => ?_
      atEnd := fun hb more => ?_
      rest_eq_nil := (position_eq_iff s calls).mp
      stops := fun c e ha => ?_
      atBadCharacter := fun ch rest hch hrest more => ?_
      reports_le_one := ?_
      reported := fun hne more => ?_
      unreported := fun hnone ch rest hch hrest c hc => ?_ }
  · have hsize := position_add_rest s calls
    omega
  · obtain ⟨before, after, hspan, -⟩ :=
      TokenStream.exists_spans s t ((gathered_isPrefix s calls).subset ht)
    exact ⟨before, after, hspan⟩
  · have hrest := (Scanner.does_call _ c).rest_eq_nil hf ha
    have hafter := position_eq_iff s (calls ++ [c])
    rw [after_append] at hafter
    exact hafter.mpr hrest
  · have hsize := position_add_rest s calls
    have hnext := Cursor.next_of_meets (.finish hb)
    rw [position] at hsize
    rw [hsize] at hnext
    exact answers_of_endOfInput hnext more
  · obtain ⟨ch, p, hnext, he⟩ := (Scanner.does_call _ c).exists_badCharacter ha
    obtain ⟨hch, hp, rest, hrest⟩ := exists_badCharacter_of_next hnext
    exact ⟨ch, rest, hch, hrest, by rw [he, hp]; rfl⟩
  · have hnext := next_of_badCharacter hrest hch
    refine ⟨congrArg Cursor.position (cursor_after_of_ending hnext more), fun a ha => ?_⟩
    obtain ⟨failed, c, rfl⟩ := answers_of_ending hnext more a ha
    refine ⟨fun r hr => ?_, fun e he => ?_⟩
    · cases c <;> cases hr
      rfl
    · cases c <;> cases failed <;> cases he <;> rfl
  · rcases hreports with ⟨hr, -⟩ | ⟨e, hr, -⟩ <;> simp [hr]
  · rcases hreports with ⟨hr, -⟩ | ⟨e, -, hf⟩
    · exact (hne hr).elim
    · exact exhausted_of_failed hf more
  · have hf : ((ofString s).after calls).failed = false := by
      rcases hreports with ⟨-, hf⟩ | ⟨e, hr, -⟩
      · exact hf
      · rw [hnone] at hr
        cases hr
    rw [(call_of_ending (next_of_badCharacter hrest hch) c).1, hf]
    cases c with
    | nextToken => exact (hc rfl).elim
    | next => rfl
    | collect => rfl

end Scanner

end Calculator
