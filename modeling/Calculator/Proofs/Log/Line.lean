import Calculator.Log.Record
import Calculator.Proofs.Session.OneLine

/-!
# Reading a log line

A log line has four fields, with bars between them. No field but the last can have a bar in it, so
the first three bars of a line are the ones between its fields, and the fields are those of the
record. What a line does not show are control characters. A message has one only as the character
that a lexical error quotes as it is, and from it nothing is missing but this character, and behind
an escape character the three characters up to the first letter.
-/

namespace Calculator

/-! ## Text with a control character -/

namespace Text

variable {front cs : List Char} {ch : Char}

theorem plain_append (h : ∀ c ∈ front, IsShown c) : plain (front ++ cs) = front ++ plain cs := by
  induction front with
  | nil => rfl
  | cons c front ih =>
      obtain ⟨hc, hfront⟩ := List.forall_mem_cons.mp h
      have hescape : c ≠ '\x1b' := by
        rintro rfl
        exact absurd hc (by decide)
      rw [List.cons_append, plain, if_neg hescape, if_neg (by simp [hc.isControl_eq_false]),
        ih hfront, List.cons_append]

theorem plain_of_isShown (h : ∀ c ∈ cs, IsShown c) : plain cs = cs :=
  plain_of_not_isControl fun c hc => (h c hc).isControl_eq_false

theorem plain_control (hch : isControl ch = true) (hescape : ch ≠ '\x1b')
    (h : ∀ c ∈ cs, IsShown c) : plain (ch :: cs) = cs := by
  rw [plain, if_neg hescape, if_pos hch, plain_of_isShown h]

/-- The letter of an escape sequence is the first one. -/
theorem plain_escape (h : ∀ c ∈ cs, IsShown c) :
    plain ('\x1b' :: '\'' :: ' ' :: 'a' :: cs) = cs := by
  have hletter : afterEscape ('\'' :: ' ' :: 'a' :: cs) = plain cs := by
    simp [afterEscape]
  rw [plain, if_pos rfl, hletter, plain_of_isShown h]

end Text

/-! ## Fields -/

namespace Log

/-- What stands before the first bar, and what stands behind it. -/
def cutBar (cs : List Char) : Option (List Char × List Char) :=
  match cs.dropWhile (· != '|') with
  | [] => none
  | _ :: rest => some (cs.takeWhile (· != '|'), rest)

/-- The number, the level, the target and the message of a line. -/
def fields? (line : String) : Option (String × String × String × String) := do
  let (number, rest) ← cutBar line.toList
  let (level, rest) ← cutBar rest
  let (target, message) ← cutBar rest
  return (String.ofList number, String.ofList level, String.ofList target, String.ofList message)

theorem cutBar_append {front rest : List Char} (h : '|' ∉ front) :
    cutBar (front ++ '|' :: rest) = some (front, rest) := by
  have hfront : ∀ c ∈ front, (c != '|') = true := by
    intro c hc
    rw [bne_iff_ne]
    rintro rfl
    exact h hc
  rw [cutBar, List.dropWhile_append_of_pos hfront, List.takeWhile_append_of_pos hfront]
  simp

theorem bar_not_mem_natText (n : Nat) : '|' ∉ (toString n).toList := by
  intro h
  rw [Nat.toString_eq_ofList_toDigits, String.toList_ofList] at h
  exact absurd (Nat.isDigit_of_mem_toDigits (by decide) (by decide) h) (by decide)

theorem Level.bar_not_mem_name (l : Level) : '|' ∉ l.name.toList := by
  cases l <;> decide

theorem Level.allShown_name (l : Level) : AllShown l.name := by
  cases l <;> decide

theorem fields?_line (r : Record) (n : Nat) (h : '|' ∉ r.target.toList) :
    fields? (r.line n) = some (toString n, r.level.name, r.target, r.message) := by
  have hbar : "|".toList = ['|'] := by decide
  have hline : (r.line n).toList = (toString n).toList ++ '|' :: (r.level.name.toList ++ '|' ::
      (r.target.toList ++ '|' :: r.message.toList)) := by
    simp [Record.line, String.toList_append, hbar]
  simp [fields?, hline, cutBar_append (bar_not_mem_natText n),
    cutBar_append r.level.bar_not_mem_name, cutBar_append h, -Nat.toString_eq_repr]

/-! ## What a line shows of a record -/

/-- A message that quotes a control character, and what is left of it in a line. -/
inductive LosesControl : String → String → Prop where
  | control {lead : String} {ch : Char} {offset : Nat} (hlead : AllShown lead)
      (hch : Text.isControl ch = true) (hescape : ch ≠ '\x1b') :
      LosesControl (lead ++ (EvalError.badCharacter ch offset).message)
        (lead ++ ("Unexpected character '" ++ ("' at position " ++ toString offset)))
  | escape {lead : String} {offset : Nat} (hlead : AllShown lead) :
      LosesControl (lead ++ (EvalError.badCharacter '\x1b' offset).message)
        (lead ++ ("Unexpected character '" ++ ("t position " ++ toString offset)))

theorem toList_message_badCharacter (ch : Char) (offset : Nat) :
    (EvalError.badCharacter ch offset).message.toList = "Unexpected character '".toList ++
      ch :: ("' at position " ++ toString offset).toList := by
  have hmessage : (EvalError.badCharacter ch offset).message =
      "Unexpected character '" ++ ch.toString ++ "' at position " ++ toString offset := rfl
  simp only [hmessage, Char.toString_eq_singleton, String.toList_append,
    String.toList_singleton, List.append_assoc, List.cons_append, List.nil_append]

theorem allShown_lead : AllShown "Unexpected character '" := by decide

theorem allShown_place {lead : String} (h : AllShown lead) (offset : Nat) :
    AllShown (lead ++ toString offset) := h.append (.natText offset)

namespace LosesControl

variable {message m : String}

theorem not_allShown (h : LosesControl message m) : ¬ AllShown message := by
  have hquoted : ∀ {lead : String} {ch : Char} {offset : Nat}, Text.isControl ch = true →
      ¬ AllShown (lead ++ (EvalError.badCharacter ch offset).message) := by
    intro lead ch offset hch hall
    have hmem : ch ∈ (lead ++ (EvalError.badCharacter ch offset).message).toList := by
      rw [String.toList_append, toList_message_badCharacter]
      simp
    rw [(hall ch hmem).isControl_eq_false] at hch
    cases hch
  cases h with
  | control _ hch _ => exact hquoted hch
  | escape _ => exact hquoted (by decide)

theorem allShown (h : LosesControl message m) : AllShown m := by
  cases h with
  | control hlead _ _ =>
      exact hlead.append (allShown_lead.append (allShown_place (by decide) _))
  | escape hlead => exact hlead.append (allShown_lead.append (allShown_place (by decide) _))

theorem plain_eq (h : LosesControl message m) : Text.plain message.toList = m.toList := by
  cases h with
  | @control lead ch offset hlead hch hescape =>
      have hplace : AllShown ("' at position " ++ toString offset) :=
        allShown_place (by decide) offset
      rw [String.toList_append, Text.plain_append hlead, toList_message_badCharacter,
        Text.plain_append allShown_lead, Text.plain_control hch hescape hplace]
      simp only [String.toList_append]
  | @escape lead offset hlead =>
      have hplace : AllShown ("t position " ++ toString offset) :=
        allShown_place (by decide) offset
      have hsequence : ("' at position " ++ toString offset).toList =
          '\'' :: ' ' :: 'a' :: ("t position " ++ toString offset).toList := by
        simp [String.toList_append, -Nat.toString_eq_repr]
      rw [String.toList_append, Text.plain_append hlead, toList_message_badCharacter,
        Text.plain_append allShown_lead, hsequence, Text.plain_escape hplace]
      simp only [String.toList_append]

end LosesControl

namespace Record

/-- Whatever its number is, the record takes up one line, and from the line its fields are read,
with the message as `m`. -/
structure Decodes (r : Record) (m : String) : Prop where
  oneLine : ∀ n, OneLine (r.plainLine n)
  fields : ∀ n, fields? (r.plainLine n) = some (toString n, r.level.name, r.target, m)

/-- A record that is not a warning, about a target without bars, and with a message that can be
read in its line, but for a control character. -/
structure Regular (r : Record) : Prop where
  level : Level.warn.verbosity < r.level.verbosity
  target : AllShown r.target
  bar : '|' ∉ r.target.toList
  message : AllShown r.message ∨ ∃ m, LosesControl r.message m

variable {r : Record}

theorem plainLine_eq (htarget : AllShown r.target) {m : String}
    (hm : Text.plain r.message.toList = m.toList) (n : Nat) :
    r.plainLine n = ({ r with message := m } : Record).line n := by
  have hfront : AllShown (toString n ++ "|" ++ r.level.name ++ "|" ++ r.target ++ "|") :=
    (((((AllShown.natText n).append (by decide)).append r.level.allShown_name).append
      (by decide)).append htarget).append (by decide)
  rw [plainLine, line, String.toList_append, Text.plain_append hfront, hm, ← String.toList_append,
    String.ofList_toList, line]

theorem decodes_of_plain (htarget : AllShown r.target) (hbar : '|' ∉ r.target.toList) {m : String}
    (hm : AllShown m) (hplain : Text.plain r.message.toList = m.toList) : r.Decodes m := by
  have hline : ∀ n, AllShown (({ r with message := m } : Record).line n) := by
    intro n
    exact ((((((AllShown.natText n).append (by decide)).append r.level.allShown_name).append
      (by decide)).append htarget).append (by decide)).append hm
  constructor
  · intro n
    rw [plainLine_eq htarget hplain]
    exact (hline n).oneLine
  · intro n
    rw [plainLine_eq htarget hplain]
    exact fields?_line { r with message := m } n hbar

/-- The message is read from its line exactly if it has no control character. -/
theorem Regular.decodes (h : r.Regular) :
    (AllShown r.message ∧ r.Decodes r.message) ∨
      ¬ AllShown r.message ∧ ∃ m, LosesControl r.message m ∧ r.Decodes m := by
  rcases h.message with hmessage | ⟨m, hm⟩
  · exact .inl ⟨hmessage,
      decodes_of_plain h.target h.bar hmessage (Text.plain_of_isShown hmessage)⟩
  · exact .inr ⟨hm.not_allShown, m, hm,
      decodes_of_plain h.target h.bar hm.allShown hm.plain_eq⟩

end Record

/-! ## The records of a session -/

theorem isShown_of_not_isControl {ch : Char} (h : Text.isControl ch = false)
    (hblank : Text.isBlank ch = false) : IsShown ch := by
  rw [Text.isControl, Bool.or_eq_false_iff] at h
  obtain ⟨hlow, hdelete⟩ := h
  constructor
  · by_contra hlt
    have hlt' : ch.toNat < 0x20 := by omega
    simp only [hlt', decide_true, Bool.true_and, Bool.and_eq_false_iff, bne_eq_false_iff_eq] at hlow
    rcases hlow with ((rfl | rfl) | rfl) | rfl <;> cases hblank
  · intro htoNat
    have hch : ch = Char.ofNat 0x7f := by
      rw [← htoNat, Char.ofNat_toNat]
    rw [hch] at hdelete
    exact absurd hdelete (by decide)

/-- A message about an error can be read behind any text that can be read. -/
theorem shown_or_losesControl {e : EvalError} (h : e.Quotes) {lead : String}
    (hlead : AllShown lead) :
    AllShown (lead ++ e.message) ∨ ∃ m, LosesControl (lead ++ e.message) m := by
  cases h with
  | shown h => exact .inl (hlead.append h)
  | @character ch offset hblank =>
      by_cases hch : Text.isControl ch = true
      · by_cases hescape : ch = '\x1b'
        · subst hescape
          exact .inr ⟨_, .escape hlead⟩
        · exact .inr ⟨_, .control hlead hch hescape⟩
      · have hshown : IsShown ch := isShown_of_not_isControl (by simpa using hch) hblank
        refine .inl (hlead.append fun c hc => ?_)
        rw [toList_message_badCharacter, List.mem_append, List.mem_cons] at hc
        rcases hc with hc | rfl | hc
        · exact allShown_lead c hc
        · exact hshown
        · exact allShown_place (by decide) offset c hc

theorem regular_of_shown {level : Level} {target message : String}
    (hlevel : Level.warn.verbosity < level.verbosity) (htarget : AllShown target)
    (hbar : '|' ∉ target.toList)
    (hmessage : AllShown message ∨ ∃ m, LosesControl message m) :
    (Record.mk level target message).Regular := ⟨hlevel, htarget, hbar, hmessage⟩

theorem regular_tokenRecord (t : Token) : (tokenRecord t).Regular := by
  have htext := Text.allShown_quote t.text
  have hname := t.kind.allShown_name
  apply regular_of_shown (by decide) (by decide) (by decide)
  exact .inl (allShown_place (((((AllShown.append (by decide) hname).append (by decide)).append
    htext).append (by decide))) t.offset)

theorem regular_verdictRecord {result : Except EvalError Binary64}
    (h : ∀ e, result = .error e → e.Quotes) (line : String) :
    (verdictRecord line result).Regular := by
  have hline := Text.allShown_quote line
  apply regular_of_shown (by decide) (by decide) (by decide)
  cases result with
  | ok x =>
      exact .inl (((AllShown.append (by decide) hline).append (by decide)).append
        x.allShown_plainText)
  | error e =>
      exact shown_or_losesControl (h e rfl)
        ((AllShown.append (by decide) hline).append (by decide))

theorem regular_failureRecord {e : EvalError} (h : e.Quotes) (line : String) :
    (failureRecord line e).Regular := by
  have hcategory : e.category ∈ ["lexical", "number-format", "unexpected-token",
      "unmatched-paren", "trailing-input", "division-by-zero"] := by
    cases e <;> simp [EvalError.category]
  have hshown : ∀ s ∈ ["lexical", "number-format", "unexpected-token", "unmatched-paren",
      "trailing-input", "division-by-zero"], AllShown s ∧ '|' ∉ s.toList := by decide
  obtain ⟨htarget, hbar⟩ := hshown _ hcategory
  apply regular_of_shown (by decide) htarget hbar
  exact shown_or_losesControl h ((Text.allShown_quote line).append (by decide))

theorem regular_sessionRecord {level : Level} (hlevel : Level.warn.verbosity < level.verbosity)
    {message : String} (h : AllShown message) : (sessionRecord level message).Regular :=
  regular_of_shown hlevel (by decide) (by decide) (.inl h)

end Log

end Calculator
