import Calculator.CommandLine
import Calculator.Proofs.Grammar.Value

/-!
# The expressions on a command line

Settings that have been read from a command line hold the values of its options `-e` and `--expr`,
in the order in which they stand there. The value of such an option is in the same argument or is
the next one.
-/

namespace Calculator.CommandLine

/-! ## One argument -/

/-- The value that the letters behind `-` give to the option `e`, the inner `none` if it is left to
the next argument. -/
def shortExpr? : List Char → Option (Option String)
  | 'q' :: cs => shortExpr? cs
  | ['e'] => some none
  | 'e' :: '=' :: cs => some (some (String.ofList cs))
  | 'e' :: cs => some (some (String.ofList cs))
  | _ => none

/-- The value that the text behind `--` gives to the option `expr`. -/
def longExpr? : List Char → Option (Option String)
  | ['e', 'x', 'p', 'r'] => some none
  | 'e' :: 'x' :: 'p' :: 'r' :: '=' :: cs => some (some (String.ofList cs))
  | _ => none

def exprOption? (a : String) : Option (Option String) :=
  match a.toList with
  | '-' :: '-' :: cs => longExpr? cs
  | '-' :: cs => shortExpr? cs
  | _ => none

/-- The expressions among arguments, the first of which may be the value of an option before
them. -/
def expressionsFrom : Bool → List String → List String
  | _, [] => []
  | true, value :: rest => value :: expressionsFrom false rest
  | false, a :: rest =>
    match exprOption? a with
    | none => expressionsFrom false rest
    | some none => expressionsFrom true rest
    | some (some value) => value :: expressionsFrom false rest

def expressions (args : List String) : List String := expressionsFrom false args

theorem exprOption?_of_short {a : String} {c : Char} {cs : List Char}
    (ha : a.toList = '-' :: c :: cs) (hc : c ≠ '-') : exprOption? a = shortExpr? (c :: cs) := by
  unfold exprOption?
  rw [ha]
  split
  · next heq => exact absurd (List.cons.inj (List.cons.inj heq).2).1 hc
  · next heq => rw [(List.cons.inj heq).2]
  · next hne => exact absurd rfl (hne _)

theorem exprOption?_of_value {a : String} (ha : ∀ c cs, a.toList ≠ '-' :: c :: cs) :
    exprOption? a = none := by
  unfold exprOption?
  split
  · next cs heq => exact absurd heq (ha '-' cs)
  · next cs hne heq =>
    cases cs with
    | nil => rfl
    | cons c cs => exact absurd heq (ha c cs)
  · rfl

/-! ## The options read -/

theorem longSwitch?_eq_expr_iff {name : String} :
    longSwitch? name = some (.setting .expr) ↔ name = "expr" := by
  constructor
  · intro h
    unfold longSwitch? at h
    split at h
    all_goals first | rfl | cases h
  · rintro rfl
    rfl

/-- Only the flag `q` does not end the reading. -/
theorem eq_of_shortSwitch?_flag {c : Char} {f : Flag} (h : shortSwitch? c = some (.flag f)) :
    (c = 'q' ∧ f = .quiet) ∨ f = .help ∨ f = .version := by
  unfold shortSwitch? at h
  split at h
  all_goals cases h
  · exact .inl ⟨rfl, rfl⟩
  · exact .inr (.inl rfl)
  · exact .inr (.inr rfl)

theorem eq_of_shortSwitch?_setting {c : Char} {s : Setting}
    (h : shortSwitch? c = some (.setting s)) : c = 'e' ∧ s = .expr := by
  unfold shortSwitch? at h
  split at h
  all_goals cases h
  exact ⟨rfl, rfl⟩

theorem shortExpr?_value {cs : List Char} (h : cs ≠ []) :
    shortExpr? ('e' :: cs) = some (some (Reader.attachedValue cs)) := by
  obtain ⟨c, cs, rfl⟩ := List.exists_cons_of_ne_nil h
  by_cases hc : c = '='
  · subst hc
    rfl
  · have hne : ∀ ds, c :: cs ≠ '=' :: ds := by
      intro ds hds
      exact hc (List.cons.inj hds).1
    rw [shortExpr?, Reader.attachedValue]
    · exact hne
    · exact List.cons_ne_nil c cs
    · exact hne

section Split

variable {cs : List Char}

theorem bne_equals_of_not_mem (h : '=' ∉ cs) : ∀ c ∈ cs, (c != '=') = true := by
  intro c hc
  rw [bne_iff_ne]
  rintro rfl
  exact h hc

theorem splitAttached_of_not_mem (h : '=' ∉ cs) :
    Reader.splitAttached cs = (String.ofList cs, none) := by
  have hdrop : (cs ++ []).dropWhile (· != '=') = [] := by
    rw [List.dropWhile_append_of_pos (bne_equals_of_not_mem h), List.dropWhile_nil]
  rw [List.append_nil] at hdrop
  rw [Reader.splitAttached, hdrop]

theorem splitAttached_append (h : '=' ∉ cs) (value : List Char) :
    Reader.splitAttached (cs ++ '=' :: value) = (String.ofList cs, some (String.ofList value)) := by
  have hname := bne_equals_of_not_mem h
  rw [Reader.splitAttached, List.dropWhile_append_of_pos hname, List.takeWhile_append_of_pos hname]
  simp

/-- The text behind `--` is cut at its first equals sign. -/
theorem splitAttached_cases (cs : List Char) :
    ('=' ∉ cs ∧ Reader.splitAttached cs = (String.ofList cs, none)) ∨
      ∃ name value, cs = name ++ '=' :: value ∧ '=' ∉ name ∧
        Reader.splitAttached cs = (String.ofList name, some (String.ofList value)) := by
  by_cases h : '=' ∈ cs
  · obtain ⟨name, value, rfl, hname⟩ := List.eq_append_cons_of_mem h
    exact .inr ⟨name, value, rfl, hname, splitAttached_append hname value⟩
  · exact .inl ⟨h, splitAttached_of_not_mem h⟩

theorem longExpr?_eq {name : String} {attached : Option String}
    (h : Reader.splitAttached cs = (name, attached)) :
    longExpr? cs = if name = "expr" then some attached else none := by
  have hchars : ∀ ds, String.ofList ds = "expr" → ds = ['e', 'x', 'p', 'r'] := by
    intro ds hds
    rw [← String.toList_ofList (l := ds), hds]
    rfl
  by_cases hname : name = "expr"
  · subst hname
    rw [if_pos rfl]
    rcases splitAttached_cases cs with ⟨-, hsplit⟩ | ⟨front, value, rfl, -, hsplit⟩
    · rw [hsplit] at h
      obtain ⟨hcs, rfl⟩ := Prod.mk.inj h
      obtain rfl := hchars cs hcs
      rfl
    · rw [hsplit] at h
      obtain ⟨hfront, rfl⟩ := Prod.mk.inj h
      obtain rfl := hchars front hfront
      rfl
  · rw [if_neg hname]
    unfold longExpr?
    split
    · cases h
      exact absurd rfl hname
    · next value =>
      have hsplit := @splitAttached_append ['e', 'x', 'p', 'r'] (by decide) value
      rw [List.cons_append, List.cons_append, List.cons_append, List.cons_append,
        List.nil_append, h] at hsplit
      exact absurd (Prod.mk.inj hsplit).1 hname
    · rfl

end Split

/-! ## The reader -/

/-- What the reader comes to from the settings `g` by an option, by the value that it gives to
`-e` or `--expr`. -/
inductive Takes (g : Given) : Option (Option String) → Reader → Prop where
  | other {g' : Given} {o : Option Setting} (hexprs : g'.exprs = g.exprs)
      (ho : o ≠ some .expr) : Takes g none ⟨g', o.map (·, none)⟩
  | value {g' : Given} {value : String} (hexprs : g'.exprs = g.exprs ++ [value]) :
      Takes g (some (some value)) ⟨g', none⟩
  | awaits {g' : Given} (hexprs : g'.exprs = g.exprs) :
      Takes g (some none) ⟨g', some (.expr, none)⟩

theorem Given.exprs_of_raise {g g' : Given} {f : Flag} (h : g.raise f = .ok g') :
    g'.exprs = g.exprs := by
  cases f with
  | quiet =>
      rw [Given.raise] at h
      split at h <;> cases h
      rfl
  | tokens =>
      rw [Given.raise] at h
      split at h <;> cases h
      rfl
  | help => cases h
  | version => cases h

theorem Given.exprs_of_set {g g' : Given} {s : Setting} {value : String}
    (h : g.set s value = .ok g') :
    g'.exprs = if s = .expr then g.exprs ++ [value] else g.exprs := by
  cases s with
  | expr =>
      cases h
      rfl
  | _ =>
      rw [Given.set] at h
      split at h <;> cases h
      rfl

theorem Takes.of_exprs_eq {g g' : Given} {o : Option (Option String)} {r : Reader}
    (hexprs : g'.exprs = g.exprs) (h : Takes g' o r) : Takes g o r := by
  cases h with
  | other h hawaited => exact .other (h.trans hexprs) hawaited
  | value h => exact .value (by rw [h, hexprs])
  | awaits h => exact .awaits (h.trans hexprs)

namespace Reader

variable {r r' : Reader}

/-! An option begins with the settings that the option before it comes to. -/

theorem exists_of_raise {f : Flag} (h : r.raise f = .ok r') :
    ∃ g g', r.settle = .ok g ∧ g.raise f = .ok g' ∧ r' = ⟨g', none⟩ := by
  obtain ⟨g, hg, h⟩ := bind_eq_ok_iff.mp h
  obtain ⟨g', hg', h⟩ := bind_eq_ok_iff.mp h
  cases h
  exact ⟨g, g', hg, hg', rfl⟩

theorem exists_takes_of_set {s : Setting} {value : String} (h : r.set s value = .ok r') :
    ∃ g, r.settle = .ok g ∧ Takes g (if s = .expr then some (some value) else none) r' := by
  obtain ⟨g, hg, h⟩ := bind_eq_ok_iff.mp h
  obtain ⟨g', hg', h⟩ := bind_eq_ok_iff.mp h
  cases h
  have hexprs := Given.exprs_of_set hg'
  refine ⟨g, hg, ?_⟩
  by_cases hs : s = .expr
  · rw [if_pos hs] at hexprs ⊢
    exact .value hexprs
  · rw [if_neg hs] at hexprs ⊢
    exact .other (o := none) hexprs nofun

theorem exists_takes_of_await {s : Setting} (h : r.await s = .ok r') :
    ∃ g, r.settle = .ok g ∧ Takes g (if s = .expr then some none else none) r' := by
  obtain ⟨g, hg, h⟩ := bind_eq_ok_iff.mp h
  cases h
  refine ⟨g, hg, ?_⟩
  by_cases hs : s = .expr
  · subst hs
    exact .awaits rfl
  · rw [if_neg hs]
    exact .other (o := some s) rfl (by simpa using hs)

theorem exists_takes_of_long {name : String} {attached : Option String}
    (h : r.long name attached = .ok r') :
    ∃ g, r.settle = .ok g ∧ Takes g (if name = "expr" then some attached else none) r' := by
  simp only [← longSwitch?_eq_expr_iff]
  unfold long at h
  split at h
  · cases h
  · next f hname =>
    obtain ⟨g, g', hg, hraise, rfl⟩ := exists_of_raise h
    refine ⟨g, hg, ?_⟩
    rw [hname, if_neg (by simp)]
    exact .other (o := none) (Given.exprs_of_raise hraise) nofun
  · cases h
  · next s hname =>
    obtain ⟨g, hg, htakes⟩ := exists_takes_of_await h
    exact ⟨g, hg, by simpa [hname] using htakes⟩
  · next s value hname =>
    obtain ⟨g, hg, htakes⟩ := exists_takes_of_set h
    exact ⟨g, hg, by simpa [hname] using htakes⟩

/-- The letters before the last option only raise flags. -/
theorem takes_of_short {cs : List Char} (h : r.short cs = .ok r') :
    (cs = [] ∧ r' = r) ∨ ∃ g, r.settle = .ok g ∧ Takes g (shortExpr? cs) r' := by
  induction cs generalizing r with
  | nil =>
      cases h
      exact .inl ⟨rfl, rfl⟩
  | cons c cs ih =>
      right
      unfold short at h
      split at h
      · cases h
      · next f hc =>
        obtain ⟨next, hnext, hrest⟩ := bind_eq_ok_iff.mp h
        obtain ⟨g, g', hg, hraise, rfl⟩ := exists_of_raise hnext
        have hexprs := Given.exprs_of_raise hraise
        refine ⟨g, hg, ?_⟩
        obtain ⟨rfl, rfl⟩ | rfl | rfl := eq_of_shortSwitch?_flag hc
        · rcases ih hrest with ⟨rfl, rfl⟩ | ⟨_, hg', htakes⟩
          · exact .other (o := none) hexprs nofun
          · cases hg'
            exact htakes.of_exprs_eq hexprs
        · cases hraise
        · cases hraise
      · next s hc =>
        obtain ⟨rfl, rfl⟩ := eq_of_shortSwitch?_setting hc
        split at h
        · next hcs =>
          obtain rfl := List.isEmpty_iff.mp hcs
          exact exists_takes_of_await h
        · next hcs =>
          rw [shortExpr?_value (by simpa using hcs)]
          exact exists_takes_of_set h

variable {g : Given}

/-- The expressions that the reader still gets, some of which it may have read already. -/
def owed (r : Reader) (rest : List String) : List String :=
  match r.pending with
  | some (.expr, none) => expressionsFrom true rest
  | some (.expr, some value) => value :: expressionsFrom false rest
  | _ => expressionsFrom false rest

theorem exprs_of_settle (h : r.settle = .ok g) (rest : List String) :
    r.given.exprs ++ r.owed rest = g.exprs ++ expressionsFrom false rest := by
  obtain ⟨given, pending⟩ := r
  cases pending with
  | none =>
      cases h
      rfl
  | some p =>
      obtain ⟨s, value⟩ := p
      cases value with
      | none => cases h
      | some value =>
          rw [Given.exprs_of_set h]
          cases s with
          | expr => simp [owed]
          | _ => rfl

theorem exprs_of_takes {a : String} (h : Takes g (exprOption? a) r') (rest : List String) :
    g.exprs ++ expressionsFrom false (a :: rest) = r'.given.exprs ++ r'.owed rest := by
  rw [expressionsFrom]
  generalize exprOption? a = o at h
  cases h with
  | @other g' awaited hexprs hawaited =>
      rw [hexprs]
      cases awaited with
      | none => rfl
      | some s =>
          cases s with
          | expr => exact absurd rfl hawaited
          | _ => rfl
  | value hexprs => simp [hexprs, owed]
  | awaits hexprs => simp [hexprs, owed]

theorem exprs_of_argument {a : String} (h : r.argument a = .ok r') (rest : List String) :
    r.given.exprs ++ r.owed (a :: rest) = r'.given.exprs ++ r'.owed rest := by
  have hoption : ∀ g, r.settle = .ok g ∧ Takes g (exprOption? a) r' →
      r.given.exprs ++ r.owed (a :: rest) = r'.given.exprs ++ r'.owed rest := by
    rintro g ⟨hg, htakes⟩
    rw [exprs_of_settle hg, exprs_of_takes htakes]
  unfold argument at h
  split at h
  · next cs ha =>
    obtain ⟨g, hg, htakes⟩ := exists_takes_of_long h
    rw [← longExpr?_eq rfl] at htakes
    exact hoption g ⟨hg, by rwa [exprOption?, ha]⟩
  · next c cs hc ha =>
    obtain ⟨hnil, -⟩ | ⟨g, hg, htakes⟩ := takes_of_short h
    · cases hnil
    · refine hoption g ⟨hg, ?_⟩
      rwa [exprOption?_of_short ha hc]
  · next hshort =>
    have hnone := exprOption?_of_value hshort
    unfold value at h
    split at h
    · next s hpending =>
      cases h
      rw [owed, owed, hpending]
      cases s with
      | expr => rfl
      | _ => simp [expressionsFrom, hnone]
    · cases h

theorem exprs_of_arguments {args : List String} (h : r.arguments args = .ok g) :
    g.exprs = r.given.exprs ++ r.owed args := by
  -- what has been read and what is still owed make up the same list at every argument
  induction args generalizing r with
  | nil => rw [exprs_of_settle h, expressionsFrom, List.append_nil]
  | cons a rest ih =>
      rw [arguments] at h
      split at h
      · next ha =>
        split at h
        · next hrest =>
          obtain rfl := List.isEmpty_iff.mp hrest
          rw [exprs_of_settle h, ha]
          exact (List.append_nil _).symm
        · cases h
      · obtain ⟨next, hnext, h⟩ := bind_eq_ok_iff.mp h
        rw [ih h, exprs_of_argument hnext]

end Reader

theorem exprs_of_parse {args : List String} {c : Config} (h : parse args = .ok c) :
    c.exprs = expressions args := by
  rw [parse] at h
  cases hg : Reader.initial.arguments args with
  | error e =>
      rw [hg] at h
      cases h
  | ok g =>
      rw [hg] at h
      cases h
      exact Reader.exprs_of_arguments hg

end Calculator.CommandLine
