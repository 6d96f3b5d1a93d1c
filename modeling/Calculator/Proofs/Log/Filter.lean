import Calculator.Log.Filter
import Mathlib.Data.List.Forall2
import Mathlib.Data.List.Induction
import Mathlib.Data.List.Nodup

/-!
# The longest prefix decides

A filter that is written as levels and levels for target prefixes admits a record if the directive
with the longest prefix of the record's target does. It does not matter in which order directives
with different prefixes are written, and of those with the same prefix the last one counts.
-/

namespace Calculator

theorem Text.eq_of_isPrefix_of_utf8Size_eq {p q : List Char} (h : p <+: q)
    (hsize : utf8Size p = utf8Size q) : p = q := by
  obtain ⟨rest, rfl⟩ := h
  cases rest with
  | nil => rw [List.append_nil]
  | cons c rest =>
      have hpos := c.utf8Size_pos
      rw [utf8Size_append, utf8Size_cons] at hsize
      omega

namespace Log

namespace Directive

variable {d e : Directive}

theorem covers_congr (h : d.target = e.target) (target : List Char) :
    d.covers target = e.covers target := by
  rw [covers, covers, h]

theorem length_congr (h : d.target = e.target) : d.length = e.length := by
  rw [length, length, h]

/-- The prefix of the targets that the directive is about. -/
def scope (d : Directive) : List Char := d.target.getD []

theorem scope_isPrefix_of_covers {target : List Char} (h : d.covers target = true) :
    d.scope <+: target := by
  rw [covers] at h
  rw [scope]
  cases hd : d.target with
  | none => exact List.nil_prefix
  | some p =>
      rw [hd] at h
      exact List.isPrefixOf_iff_prefix.mp h

theorem length_eq (d : Directive) : d.length = Text.utf8Size d.scope := by
  rw [length, scope]
  cases d.target <;> rfl

theorem target_eq_of_scope_eq (hd : d.target ≠ some []) (he : e.target ≠ some [])
    (h : d.scope = e.scope) : d.target = e.target := by
  rw [scope, scope] at h
  cases hdt : d.target with
  | none =>
      rw [hdt] at h
      cases het : e.target with
      | none => rfl
      | some q =>
          rw [het] at h
          exact absurd (het.trans (congrArg some h.symm)) he
  | some p =>
      rw [hdt] at h
      cases het : e.target with
      | none =>
          rw [het] at h
          exact absurd (hdt.trans (congrArg some h)) hd
      | some q =>
          rw [het] at h
          exact congrArg some h

/-- Of directives about one target only those with the same prefix are of the same length. -/
theorem target_eq_of_length_eq {target : List Char} (hd : d.target ≠ some [])
    (he : e.target ≠ some []) (hdt : d.covers target = true) (het : e.covers target = true)
    (h : d.length = e.length) : d.target = e.target := by
  apply target_eq_of_scope_eq hd he
  rw [length_eq, length_eq] at h
  rcases List.prefix_or_prefix_of_prefix (scope_isPrefix_of_covers hdt)
    (scope_isPrefix_of_covers het) with hprefix | hprefix
  · exact Text.eq_of_isPrefix_of_utf8Size_eq hprefix h
  · exact (Text.eq_of_isPrefix_of_utf8Size_eq hprefix h.symm).symm

end Directive

/-! ## The deciding directive -/

/-- A directive about the target takes the place of one that has been found before, unless that is
longer. -/
def better (target : List Char) (best : Option Directive) (d : Directive) : Option Directive :=
  if d.covers target && best.all (·.length ≤ d.length) then some d else best

/-- The directive that decides on records with the target. -/
def deciding? (ds : List Directive) (target : List Char) : Option Directive :=
  ds.foldl (better target) none

/-- Is a record admitted by the directives as they are written? Where there are none, only errors
are. -/
def admittedBy (ds : List Directive) (r : Record) : Bool :=
  match deciding? ds r.target.toList with
  | some d => d.threshold.admits r.level
  | none => ds.isEmpty && r.level == .error

theorem deciding?_concat (ds : List Directive) (d : Directive) (target : List Char) :
    deciding? (ds ++ [d]) target = better target (deciding? ds target) d := by
  rw [deciding?, deciding?, List.foldl_append, List.foldl_cons, List.foldl_nil]

section Better

variable {target : List Char} {best : Option Directive} {d e : Directive}

theorem better_eq_some (h : better target best d = some e) :
    (e = d ∧ d.covers target = true ∧ ∀ b ∈ best, b.length ≤ d.length) ∨
      best = some e ∧ (d.covers target = true → d.length < e.length) := by
  unfold better at h
  split at h
  · next hd =>
    rw [Bool.and_eq_true] at hd
    refine .inl ⟨(Option.some.inj h).symm, hd.1, ?_⟩
    rintro b ⟨⟩
    simpa using hd.2
  · next hd =>
    subst h
    refine .inr ⟨rfl, fun hcovers => ?_⟩
    simpa [hcovers] using hd

theorem better_eq_none (h : better target best d = none) :
    best = none ∧ d.covers target = false := by
  unfold better at h
  split at h
  · cases h
  · next hd =>
    subst h
    simpa using hd

end Better

/-! ## Directives with different targets -/

namespace Filter

/-- The last directive about each target, in the order in which the targets are met. -/
def latest (ds : List Directive) : List Directive := ds.foldl (fun acc d => insert d acc) []

theorem latest_concat (ds : List Directive) (d : Directive) :
    latest (ds ++ [d]) = insert d (latest ds) := by
  rw [latest, latest, List.foldl_append, List.foldl_cons, List.foldl_nil]

section Insert

variable {d e : Directive} {es : List Directive}

theorem map_target_insert (d : Directive) (es : List Directive) :
    (insert d es).map Directive.target = if d.target ∈ es.map Directive.target then
      es.map Directive.target else es.map Directive.target ++ [d.target] := by
  induction es with
  | nil => rfl
  | cons e es ih =>
      rw [insert]
      split
      · next h => simp [h]
      · next h =>
        have hne : d.target ≠ e.target := Ne.symm h
        rw [List.map_cons, ih, List.map_cons]
        split <;> simp_all

theorem mem_insert_iff (h : (es.map Directive.target).Nodup) :
    e ∈ insert d es ↔ e = d ∨ e ∈ es ∧ e.target ≠ d.target := by
  induction es with
  | nil => simp [insert]
  | cons a as ih =>
      rw [List.map_cons, List.nodup_cons] at h
      rw [insert]
      split
      · next ha =>
        have hout : ∀ x ∈ as, x.target ≠ d.target := by
          intro x hx hxd
          exact h.1 (List.mem_map.mpr ⟨x, hx, hxd.trans ha.symm⟩)
        rw [List.mem_cons, List.mem_cons]
        constructor
        · rintro (rfl | he)
          · exact .inl rfl
          · exact .inr ⟨.inr he, hout e he⟩
        · rintro (rfl | ⟨rfl | he, hne⟩)
          · exact .inl rfl
          · exact absurd ha hne
          · exact .inr he
      · next ha =>
        rw [List.mem_cons, List.mem_cons, ih h.2]
        constructor
        · rintro (rfl | rfl | ⟨he, hne⟩)
          · exact .inr ⟨.inl rfl, ha⟩
          · exact .inl rfl
          · exact .inr ⟨.inr he, hne⟩
        · rintro (rfl | ⟨rfl | he, hne⟩)
          · exact .inr (.inl rfl)
          · exact .inl rfl
          · exact .inr (.inr ⟨he, hne⟩)

end Insert

variable {ds es : List Directive} {d e : Directive} {target : List Char}

theorem nodup_latest (ds : List Directive) : ((latest ds).map Directive.target).Nodup := by
  induction ds using List.reverseRecOn with
  | nil => exact .nil
  | append_singleton ds d ih =>
      rw [latest_concat, map_target_insert]
      split
      · exact ih
      · next h =>
        rw [← List.concat_eq_append]
        exact ih.concat h

theorem mem_latest_concat_iff :
    e ∈ latest (ds ++ [d]) ↔ e = d ∨ e ∈ latest ds ∧ e.target ≠ d.target := by
  rw [latest_concat, mem_insert_iff (nodup_latest ds)]

theorem mem_of_mem_latest (h : e ∈ latest ds) : e ∈ ds := by
  induction ds using List.reverseRecOn with
  | nil => cases h
  | append_singleton ds d ih =>
      rcases mem_latest_concat_iff.mp h with rfl | ⟨h, -⟩
      · exact List.mem_concat_self
      · exact List.mem_append_left _ (ih h)

theorem covers_eq_false_of_deciding? (h : deciding? ds target = none) :
    ∀ e ∈ ds, e.covers target = false := by
  induction ds using List.reverseRecOn with
  | nil => nofun
  | append_singleton ds d ih =>
      rw [deciding?_concat] at h
      obtain ⟨hds, hd⟩ := better_eq_none h
      rw [List.forall_mem_append, List.forall_mem_singleton]
      exact ⟨ih hds, hd⟩

/-- What decides is the last directive about its prefix, and no directive about the target is
longer. -/
theorem longest_of_deciding? (h : deciding? ds target = some d) :
    d ∈ latest ds ∧ d.covers target = true ∧
      ∀ e ∈ ds, e.covers target = true → e.length ≤ d.length := by
  induction ds using List.reverseRecOn generalizing d with
  | nil => cases h
  | append_singleton ds a ih =>
      rw [deciding?_concat] at h
      rw [mem_latest_concat_iff, List.forall_mem_append, List.forall_mem_singleton]
      rcases better_eq_some h with ⟨rfl, ha, hbest⟩ | ⟨hds, ha⟩
      · refine ⟨.inl rfl, ha, fun e he hcovers => ?_, fun _ => Nat.le_refl _⟩
        cases hds : deciding? ds target with
        | none =>
            rw [covers_eq_false_of_deciding? hds e he] at hcovers
            cases hcovers
        | some b => exact Nat.le_trans ((ih hds).2.2 e he hcovers) (hbest b hds)
      · obtain ⟨hmem, hcovers, hlongest⟩ := ih hds
        refine ⟨.inr ⟨hmem, fun htarget => ?_⟩, hcovers, hlongest, fun h => Nat.le_of_lt (ha h)⟩
        rw [Directive.covers_congr htarget] at hcovers
        have hlt := ha hcovers
        rw [Directive.length_congr htarget] at hlt
        exact Nat.lt_irrefl _ hlt

/-- No directive is written for the empty prefix. -/
def Prefixed (ds : List Directive) : Prop := ∀ d ∈ ds, d.target ≠ some []

theorem find?_reverse_eq_deciding? (hds : Prefixed ds) (hperm : es.Perm (latest ds))
    (hsorted : es.Pairwise fun a b => a.length ≤ b.length) (target : List Char) :
    es.reverse.find? (·.covers target) = deciding? ds target := by
  cases hfind : es.reverse.find? (·.covers target) with
  | none =>
      cases hd : deciding? ds target with
      | none => rfl
      | some d =>
          obtain ⟨hmem, hcovers, -⟩ := longest_of_deciding? hd
          have hnot := List.find?_eq_none.mp hfind d
            (List.mem_reverse.mpr (hperm.mem_iff.mpr hmem))
          exact absurd hcovers hnot
  | some a =>
      obtain ⟨hcovers, behind, front, hes, hbehind⟩ := List.find?_eq_some_iff_append.mp hfind
      have ha : a ∈ latest ds := by
        rw [← hperm.mem_iff, ← List.mem_reverse, hes]
        exact List.mem_append_right _ List.mem_cons_self
      cases hd : deciding? ds target with
      | none =>
          have hnot := covers_eq_false_of_deciding? hd a (mem_of_mem_latest ha)
          rw [hcovers] at hnot
          cases hnot
      | some d =>
          obtain ⟨hmem, hcovers', hlongest⟩ := longest_of_deciding? hd
          have hle := hlongest a (mem_of_mem_latest ha) hcovers
          have hge : d.length ≤ a.length := by
            have hd' : d ∈ behind ++ a :: front := by
              rw [← hes, List.mem_reverse, hperm.mem_iff]
              exact hmem
            rw [← List.pairwise_reverse, hes, List.pairwise_append, List.pairwise_cons] at hsorted
            rcases List.mem_append.mp hd' with hd' | hd'
            · exact absurd hcovers' (by simpa using hbehind d hd')
            · rcases List.mem_cons.mp hd' with rfl | hd'
              · exact Nat.le_refl _
              · exact hsorted.2.1.1 d hd'
          have htarget := Directive.target_eq_of_length_eq (hds a (mem_of_mem_latest ha))
            (hds d (mem_of_mem_latest hmem)) hcovers hcovers' (Nat.le_antisymm hle hge)
          rw [List.inj_on_of_nodup_map (nodup_latest ds) ha hmem htarget]

theorem latest_eq_nil_iff : latest ds = [] ↔ ds = [] := by
  refine ⟨fun h => ?_, fun h => by rw [h]; rfl⟩
  rcases List.eq_nil_or_concat ds with rfl | ⟨init, d, rfl⟩
  · rfl
  · have hd : d ∈ latest (init ++ [d]) := mem_latest_concat_iff.mpr (.inl rfl)
    rw [← List.concat_eq_append, h] at hd
    cases hd

theorem arrange_of_ne_nil (h : ds ≠ []) :
    arrange ds = (latest ds).mergeSort fun a b => a.length ≤ b.length := by
  rw [arrange, ← latest]
  split
  · next hnil => exact absurd (latest_eq_nil_iff.mp hnil) h
  · rfl

/-- A filter admits what the directives admit as they are written. -/
theorem admits_arrange (hds : Prefixed ds) (r : Record) :
    admits ⟨arrange ds, none⟩ r = admittedBy ds r := by
  by_cases h : ds = []
  · subst h
    have hlevel : ∀ l : Level, Threshold.admits (some .error) l = (l == .error) := by
      intro l
      cases l <;> rfl
    simp [admits, arrange, admittedBy, deciding?, Directive.covers, hlevel]
  · have hsorted : ((latest ds).mergeSort fun a b => a.length ≤ b.length).Pairwise
        fun a b => a.length ≤ b.length := by
      have htrans : ∀ a b c : Directive, decide (a.length ≤ b.length) = true →
          decide (b.length ≤ c.length) = true → decide (a.length ≤ c.length) = true := by
        simp only [decide_eq_true_eq]
        exact fun a b c => Nat.le_trans
      have htotal : ∀ a b : Directive,
          (decide (a.length ≤ b.length) || decide (b.length ≤ a.length)) = true := by
        simp only [Bool.or_eq_true, decide_eq_true_eq]
        exact fun a b => Nat.le_total _ _
      simpa only [decide_eq_true_eq] using List.pairwise_mergeSort htrans htotal (latest ds)
    have hdecides :=
      find?_reverse_eq_deciding? hds (List.mergeSort_perm _ _) hsorted r.target.toList
    have hnone : ds.isEmpty = false := by simpa using h
    rw [admits, admittedBy, arrange_of_ne_nil h, hdecides, hnone]
    cases deciding? ds r.target.toList <;> simp

end Filter

/-! ## Filters as they are written -/

/-- The text of an entry is the name of a level, or a prefix of targets and the name of a level
with an equals sign between them. -/
inductive Entry : List Char → Directive → Prop where
  | level {name : List Char} {t : Threshold} (hequals : '=' ∉ name)
      (h : Threshold.ofName? name = some t) : Entry name ⟨none, t⟩
  | prefixed {scope name : List Char} {t : Threshold} (hne : scope ≠ []) (hscope : '=' ∉ scope)
      (hname : '=' ∉ name) (h : Threshold.ofName? (Text.trim name) = some t) :
      Entry (scope ++ '=' :: name) ⟨some scope, t⟩

/-- The specification is a list of entries, which say these directives, and nothing else. -/
structure WellFormed (spec : String) (ds : List Directive) : Prop where
  slash : '/' ∉ spec.toList
  entries : List.Forall₂ Entry (Spec.entries spec.toList) ds

namespace Entry

variable {text : List Char} {d : Directive}

theorem readEntry_eq (h : Entry text d) : Spec.readEntry text = .ok d := by
  cases h with
  | level hequals h => simp only [Spec.readEntry, List.splitOn_eq_singleton hequals, h]
  | @prefixed scope name t hne hscope hname h =>
      have hlevel : Text.trim name ≠ [] := by
        have hempty : Threshold.ofName? [] = none := by decide
        intro hnil
        rw [hnil, hempty] at h
        cases h
      have hsplit : (scope ++ '=' :: name).splitOn '=' = [scope, name] := by
        rw [List.splitOn_append_cons_self_of_not_mem hscope, List.splitOn_eq_singleton hname]
      simp only [Spec.readEntry, hsplit, h]
      rw [if_neg (by simpa using hlevel)]

theorem target_ne (h : Entry text d) : d.target ≠ some [] := by
  cases h with
  | level _ _ => exact nofun
  | prefixed hne _ _ _ => simpa using hne

end Entry

theorem Spec.ofEntries_eq {text : List Char} {ds : List Directive}
    (h : List.Forall₂ Entry (entries text) ds) : ofEntries text = ⟨ds, none, []⟩ := by
  unfold ofEntries
  generalize entries text = es at h
  induction h with
  | nil => rfl
  | @cons text d texts ds hentry _ ih =>
      obtain ⟨hds, -, hfaults⟩ := Spec.mk.inj ih
      have hread : (readEntry text).toOption = some d := by
        rw [hentry.readEntry_eq]
        rfl
      simp only [List.filterMap_cons, hread, hds]
      rw [hentry.readEntry_eq, hfaults]

theorem Filter.prefixed_of_entries {texts : List (List Char)} {ds : List Directive}
    (h : List.Forall₂ Entry texts ds) : Prefixed ds := by
  induction h with
  | nil => nofun
  | cons hentry _ ih => exact List.forall_mem_cons.mpr ⟨hentry.target_ne, ih⟩

namespace WellFormed

variable {spec : String} {ds : List Directive}

theorem of_entries {texts : List (List Char)} (hslash : '/' ∉ spec.toList)
    (htexts : Spec.entries spec.toList = texts) (h : List.Forall₂ Entry texts ds) :
    WellFormed spec ds := by
  subst htexts
  exact ⟨hslash, h⟩

theorem ofList_eq (h : WellFormed spec ds) : Spec.ofList spec.toList = ⟨ds, none, []⟩ := by
  rw [Spec.ofList, List.splitOn_eq_singleton h.slash]
  exact Spec.ofEntries_eq h.entries

theorem warnings_eq_nil (h : WellFormed spec ds) : Filter.warnings spec = [] := by
  rw [Filter.warnings, h.ofList_eq]
  rfl

theorem admits_eq (h : WellFormed spec ds) : (Filter.ofSpec spec).admits = admittedBy ds := by
  funext r
  rw [Filter.ofSpec, h.ofList_eq]
  exact Filter.admits_arrange (Filter.prefixed_of_entries h.entries) r

end WellFormed

end Log

end Calculator
