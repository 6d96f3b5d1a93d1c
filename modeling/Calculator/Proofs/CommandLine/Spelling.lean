import Calculator.Proofs.CommandLine.Expressions
import Mathlib.Data.List.Forall2

/-!
# Settings spelled on a command line

Settings are spelled by an option for each expression and for each other value, and by the flags
that are set, in any order in which the expressions follow each other as they should. A value may
stand in the argument of its option or, if it does not look like an option, in the next one. Such a
command line is read back as these settings, whatever texts they are made of.
-/

namespace Calculator.CommandLine

def Flag.name : Flag → String
  | quiet => "quiet"
  | tokens => "tokens"
  | help => "help"
  | version => "version"

def Setting.name : Setting → String
  | expr => "expr"
  | prompt => "prompt"
  | logLevel => "log-level"
  | exitCommand => "exit-command"

/-- What one option says. -/
inductive Choice where
  | flag (f : Flag)
  | value (s : Setting) (v : String)
  deriving DecidableEq

/-- An argument of its own may be this value: it does not start with `-`, or it is just `-`. -/
def Standalone (v : String) : Prop := v.toList.head? ≠ some '-' ∨ v = "-"

/-- The arguments that an option can be written as. -/
inductive Written : Choice → List String → Prop where
  | attached (s : Setting) (v : String) : Written (.value s v) ["--" ++ s.name ++ "=" ++ v]
  | apart (s : Setting) {v : String} (hv : Standalone v) : Written (.value s v) ["--" ++ s.name, v]
  | shortAttached {v : String} (hne : v ≠ "") (heq : v.toList.head? ≠ some '=') :
      Written (.value .expr v) ["-e" ++ v]
  | shortApart {v : String} (hv : Standalone v) : Written (.value .expr v) ["-e", v]
  | flag (f : Flag) : Written (.flag f) ["--" ++ f.name]
  | shortQuiet : Written (.flag .quiet) ["-q"]

/-- The values that some options give to a setting, in their order. -/
def valuesOf (s : Setting) (choices : List Choice) : List String :=
  choices.filterMap fun
    | .value s' v => if s' = s then some v else none
    | .flag _ => none

/-- An option that may be given once is given this value, or left out if it is the default. -/
def GivenOnce (given : List String) (value default : String) : Prop :=
  given = [value] ∨ given = [] ∧ value = default

/-- The options say what the settings are, and nothing else. -/
structure States (choices : List Choice) (c : Config) : Prop where
  exprs : valuesOf .expr choices = c.exprs
  prompt : GivenOnce (valuesOf .prompt choices) c.prompt Config.default.prompt
  logLevel : GivenOnce (valuesOf .logLevel choices) c.logLevel Config.default.logLevel
  exitCommand : GivenOnce (valuesOf .exitCommand choices) c.exitCommand Config.default.exitCommand
  quiet : choices.count (.flag .quiet) = c.quiet.toNat
  tokens : choices.count (.flag .tokens) = c.tokens.toNat
  help : .flag .help ∉ choices
  version : .flag .version ∉ choices

theorem GivenOnce.length_le_one {given : List String} {value default : String}
    (h : GivenOnce given value default) : given.length ≤ 1 := by
  rcases h with rfl | ⟨rfl, -⟩
  · exact Nat.le_refl 1
  · exact Nat.zero_le 1

theorem GivenOnce.getD_eq {given : Option String} {value default : String}
    (h : GivenOnce given.toList value default) : given.getD default = value := by
  rcases h with h | ⟨h, rfl⟩
  · rw [Option.toList_eq_singleton_iff.mp h, Option.getD_some]
  · rw [Option.toList_eq_nil_iff.mp h, Option.getD_none]

/-! ## What options do to the settings given so far -/

namespace Given

/-- The values that a setting has been given. -/
def values (g : Given) : Setting → List String
  | .expr => g.exprs
  | .prompt => g.prompt.toList
  | .logLevel => g.logLevel.toList
  | .exitCommand => g.exitCommand.toList

/-- How often a flag has been raised. -/
def raised (g : Given) : Flag → Nat
  | .quiet => g.quiet.toNat
  | .tokens => g.tokens.toNat
  | _ => 0

def choose (g : Given) : Choice → Except Stop Given
  | .flag f => g.raise f
  | .value s v => g.set s v

/-- The settings `g'` are what the options make of `g`. -/
structure Extends (g : Given) (choices : List Choice) (g' : Given) : Prop where
  values : ∀ s, g'.values s = g.values s ++ valuesOf s choices
  raised : ∀ f, g'.raised f = g.raised f + choices.count (.flag f)

variable {g g' : Given} {choices more : List Choice}

theorem Extends.refl (g : Given) : g.Extends [] g :=
  ⟨fun _ => (List.append_nil _).symm, fun _ => rfl⟩

theorem Extends.cons {ch : Choice} {g'' : Given} (h : g.Extends [ch] g')
    (h' : g'.Extends more g'') : g.Extends (ch :: more) g'' := by
  constructor
  · intro s
    rw [h'.values, h.values, List.append_assoc]
    congr 1
    exact List.filterMap_append.symm
  · intro f
    rw [h'.raised, h.raised, Nat.add_assoc, ← List.count_append, List.singleton_append]

theorem exists_set {s : Setting} (v : String) (h : s = .expr ∨ g.values s = []) :
    ∃ g', g.set s v = .ok g' ∧ g.Extends [.value s v] g' := by
  have hnone : ∀ {o : Option String}, o.toList = [] → o.isSome = false := by
    rintro (_ | _) ⟨⟩
    rfl
  cases s with
  | expr => exact ⟨_, rfl, fun s => by cases s <;> simp [values, valuesOf], fun _ => rfl⟩
  | _ =>
      have hfree := hnone (h.resolve_left nofun)
      refine ⟨_, if_neg (by simp [hfree]), fun s => ?_, fun _ => rfl⟩
      cases s <;> simp_all [values, valuesOf]

theorem exists_raise {f : Flag} (h : f = .quiet ∨ f = .tokens) (hf : g.raised f = 0) :
    ∃ g', g.raise f = .ok g' ∧ g.Extends [.flag f] g' := by
  rcases h with rfl | rfl
  · have hq : g.quiet = false := by simpa [raised] using hf
    refine ⟨_, if_neg (by simp [hq]), fun s => ?_, fun f => ?_⟩
    · cases s <;> simp [values, valuesOf]
    · cases f <;> simp [raised, hq]
  · have ht : g.tokens = false := by simpa [raised] using hf
    refine ⟨_, if_neg (by simp [ht]), fun s => ?_, fun f => ?_⟩
    · cases s <;> simp [values, valuesOf]
    · cases f <;> simp [raised, ht]

/-- Options come to something where none of them is given twice that may be given once. -/
theorem exists_foldlM_choose (hvalues : ∀ s, s ≠ .expr →
      (g.values s ++ valuesOf s choices).length ≤ 1)
    (hraised : ∀ f, g.raised f + choices.count (.flag f) ≤
      if f = .quiet ∨ f = .tokens then 1 else 0) :
    ∃ g', choices.foldlM choose g = .ok g' ∧ g.Extends choices g' := by
  induction choices generalizing g with
  | nil => exact ⟨g, rfl, .refl g⟩
  | cons ch rest ih =>
      have hstep : ∃ g', g.choose ch = .ok g' ∧ g.Extends [ch] g' := by
        cases ch with
        | value s v =>
            refine exists_set v (Decidable.or_iff_not_imp_left.mpr fun hs => ?_)
            have hle := hvalues s hs
            simp only [valuesOf, List.filterMap_cons, if_pos, List.length_append,
              List.length_cons] at hle
            exact List.eq_nil_of_length_eq_zero (by omega)
        | flag f =>
            have hle := hraised f
            rw [List.count_cons_self] at hle
            split at hle
            · next hf => exact exists_raise hf (by omega)
            · omega
      obtain ⟨g', hg', hext⟩ := hstep
      have hvalues' : ∀ s, s ≠ .expr → (g'.values s ++ valuesOf s rest).length ≤ 1 := by
        intro s hs
        have hle := hvalues s hs
        rw [← List.singleton_append, valuesOf, List.filterMap_append, ← List.append_assoc] at hle
        rwa [hext.values]
      have hraised' : ∀ f, g'.raised f + rest.count (.flag f) ≤
          if f = .quiet ∨ f = .tokens then 1 else 0 := by
        intro f
        rw [hext.raised, Nat.add_assoc, ← List.count_append]
        exact hraised f
      obtain ⟨g'', hg'', hext'⟩ := ih hvalues' hraised'
      exact ⟨g'', by rw [List.foldlM_cons, hg']; exact hg'', hext.cons hext'⟩

theorem toConfig_of_extends {c : Config} (hext : empty.Extends choices g) (h : States choices c) :
    g.toConfig = c := by
  have hvalues : ∀ s, g.values s = valuesOf s choices := fun s => by
    rw [hext.values]
    cases s <;> rfl
  have hraised : ∀ f, g.raised f = choices.count (.flag f) := fun f => by
    rw [hext.raised]
    cases f <;> exact Nat.zero_add _
  have hbool : ∀ {a b : Bool}, a.toNat = b.toNat → a = b := by decide
  have hexprs : g.exprs = c.exprs := (hvalues .expr).trans h.exprs
  have hprompt : g.prompt.getD _ = c.prompt := GivenOnce.getD_eq (hvalues .prompt ▸ h.prompt)
  have hlevel : g.logLevel.getD _ = c.logLevel :=
    GivenOnce.getD_eq (hvalues .logLevel ▸ h.logLevel)
  have hexit : g.exitCommand.getD _ = c.exitCommand :=
    GivenOnce.getD_eq (hvalues .exitCommand ▸ h.exitCommand)
  have hquiet : g.quiet = c.quiet := hbool ((hraised .quiet).trans h.quiet)
  have htokens : g.tokens = c.tokens := hbool ((hraised .tokens).trans h.tokens)
  rw [toConfig, hexprs, hprompt, hlevel, hexit, hquiet, htokens]

theorem exists_of_states {c : Config} (h : States choices c) :
    ∃ g, choices.foldlM choose empty = .ok g ∧ g.toConfig = c := by
  have hle : ∀ b : Bool, b.toNat ≤ 1 := by decide
  have hvalues : ∀ s, s ≠ .expr → (empty.values s ++ valuesOf s choices).length ≤ 1 := by
    intro s hs
    cases s with
    | expr => exact absurd rfl hs
    | prompt => exact h.prompt.length_le_one
    | logLevel => exact h.logLevel.length_le_one
    | exitCommand => exact h.exitCommand.length_le_one
  have hraised : ∀ f, empty.raised f + choices.count (.flag f) ≤
      if f = .quiet ∨ f = .tokens then 1 else 0 := by
    intro f
    cases f with
    | quiet => simpa [raised, empty, h.quiet] using hle c.quiet
    | tokens => simpa [raised, empty, h.tokens] using hle c.tokens
    | help => simpa [raised] using List.count_eq_zero.mpr h.help
    | version => simpa [raised] using List.count_eq_zero.mpr h.version
  obtain ⟨g, hg, hext⟩ := exists_foldlM_choose hvalues hraised
  exact ⟨g, hg, toConfig_of_extends hext h⟩

end Given

/-! ## What the reader makes of an option -/

theorem Flag.equals_not_mem (f : Flag) : '=' ∉ f.name.toList := by cases f <;> decide

theorem Setting.equals_not_mem (s : Setting) : '=' ∉ s.name.toList := by cases s <;> decide

namespace Reader

variable {r r' : Reader} {g g' : Given}

theorem long_flag (r : Reader) (f : Flag) : r.long f.name none = r.raise f := by
  cases f <;> rfl

theorem long_setting (r : Reader) (s : Setting) : r.long s.name none = r.await s := by
  cases s <;> rfl

theorem long_setting_some (r : Reader) (s : Setting) (v : String) :
    r.long s.name (some v) = r.set s v := by
  cases s <;> rfl

theorem argument_of_long {a : String} {cs : List Char} {name : String} {attached : Option String}
    (ha : a.toList = '-' :: '-' :: cs) (h : splitAttached cs = (name, attached)) :
    r.argument a = r.long name attached := by
  unfold argument
  rw [ha]
  simp only [h]

theorem argument_of_short {a : String} {c : Char} {cs : List Char}
    (ha : a.toList = '-' :: c :: cs) (hc : c ≠ '-') : r.argument a = r.short (c :: cs) := by
  unfold argument
  rw [ha]
  split
  · next heq => exact absurd (List.cons.inj (List.cons.inj heq).2).1 hc
  · next heq => rw [(List.cons.inj heq).2]
  · next hne => exact absurd rfl (hne c cs)

theorem argument_of_standalone {v : String} (hv : Standalone v) : r.argument v = r.value v := by
  unfold argument
  split
  · next hcs =>
    rcases hv with hv | rfl
    · simp [hcs] at hv
    · cases hcs
  · next hcs =>
    rcases hv with hv | rfl
    · simp [hcs] at hv
    · cases hcs
  · rfl

theorem arguments_cons {a : String} (ha : a ≠ "--") (h : r.argument a = .ok r')
    (rest : List String) : r.arguments (a :: rest) = r'.arguments rest := by
  rw [arguments, if_neg ha, h]
  rfl

theorem ne_dashes {a : String} {cs : List Char} (ha : a.toList = '-' :: cs) (hcs : cs ≠ ['-']) :
    a ≠ "--" := by
  rintro rfl
  exact hcs (List.cons.inj ha).2.symm

theorem ne_dashes_of_standalone {v : String} (hv : Standalone v) : v ≠ "--" := by
  rintro rfl
  rcases hv with hv | hv
  · exact hv rfl
  · exact absurd hv (by decide)

/-- A value that is given to a setting takes effect. -/
theorem exists_of_set {s : Setting} {v : String} (hr : r.settle = .ok g)
    (hg : g.set s v = .ok g') : ∃ r', r.set s v = .ok r' ∧ r'.settle = .ok g' :=
  ⟨⟨g', none⟩, bind_eq_ok_iff.mpr ⟨g, hr, bind_eq_ok_iff.mpr ⟨g', hg, rfl⟩⟩, rfl⟩

theorem exists_of_raise_ok {f : Flag} (hr : r.settle = .ok g) (hg : g.raise f = .ok g') :
    ∃ r', r.raise f = .ok r' ∧ r'.settle = .ok g' :=
  ⟨⟨g', none⟩, bind_eq_ok_iff.mpr ⟨g, hr, bind_eq_ok_iff.mpr ⟨g', hg, rfl⟩⟩, rfl⟩

/-- A value in the argument behind its option takes effect with the next option. -/
theorem arguments_apart {a v : String} {s : Setting} (ha : a ≠ "--")
    (hawait : r.argument a = r.await s) (hv : Standalone v) (hr : r.settle = .ok g)
    (rest : List String) :
    r.arguments (a :: v :: rest) = arguments ⟨g, some (s, some v)⟩ rest := by
  have hopen : r.argument a = .ok ⟨g, some (s, none)⟩ := by
    rw [hawait, await, hr]
    rfl
  rw [arguments_cons ha hopen, arguments_cons (ne_dashes_of_standalone hv)]
  exact argument_of_standalone hv

/-- An option, however it is written, does to the reader what it says. -/
theorem exists_arguments_written {ch : Choice} {args : List String} (hw : Written ch args)
    (hr : r.settle = .ok g) (hg : g.choose ch = .ok g') :
    ∃ r' : Reader, r'.settle = .ok g' ∧ ∀ rest, r.arguments (args ++ rest) = r'.arguments rest := by
  cases hw with
  | attached s v =>
      obtain ⟨r', hset, hr'⟩ := exists_of_set hr hg
      have hlong : ("--" ++ s.name ++ "=" ++ v).toList =
          '-' :: '-' :: (s.name.toList ++ '=' :: v.toList) := by simp
      have hsplit := splitAttached_append s.equals_not_mem v.toList
      rw [String.ofList_toList, String.ofList_toList] at hsplit
      refine ⟨r', hr', arguments_cons (ne_dashes hlong (by simp)) ?_⟩
      rw [argument_of_long hlong hsplit, long_setting_some, hset]
  | @apart s v hv =>
      refine ⟨⟨g, some (s, some v)⟩, hg, arguments_apart ?_ ?_ hv hr⟩
      · cases s <;> decide
      · have hsplit := splitAttached_of_not_mem s.equals_not_mem
        rw [String.ofList_toList] at hsplit
        rw [argument_of_long (by simp) hsplit, long_setting]
  | @shortAttached v hne heq =>
      have hg' : g.set .expr v = .ok g' := hg
      obtain ⟨r', hset, hr'⟩ := exists_of_set hr hg'
      have hshort : ("-e" ++ v).toList = '-' :: 'e' :: v.toList := by simp
      have hvalue : attachedValue v.toList = v := by
        cases hv : v.toList with
        | nil => exact absurd (String.toList_eq_nil_iff.mp hv) hne
        | cons c cs =>
            rw [hv] at heq
            rw [attachedValue, ← hv, String.ofList_toList]
            rintro ds ⟨⟩
            exact heq rfl
      refine ⟨r', hr', arguments_cons (ne_dashes hshort (by simp)) ?_⟩
      rw [argument_of_short hshort (by decide), short]
      simpa [shortSwitch?, hne, hvalue] using hset
  | @shortApart v hv =>
      exact ⟨⟨g, some (.expr, some v)⟩, hg, arguments_apart (by decide) rfl hv hr⟩
  | flag f =>
      obtain ⟨r', hraise, hr'⟩ := exists_of_raise_ok hr hg
      refine ⟨r', hr', arguments_cons (by cases f <;> decide) ?_⟩
      have hsplit := splitAttached_of_not_mem f.equals_not_mem
      rw [String.ofList_toList] at hsplit
      rw [argument_of_long (by simp) hsplit, long_flag, hraise]
  | shortQuiet =>
      have hg' : g.raise .quiet = .ok g' := hg
      obtain ⟨r', hraise, hr'⟩ := exists_of_raise_ok hr hg'
      refine ⟨r', hr', arguments_cons (by decide) ?_⟩
      rw [argument_of_short (by rfl) (by decide)]
      exact bind_eq_ok_iff.mpr ⟨r', hraise, rfl⟩

theorem arguments_flatten {choices : List Choice} {pieces : List (List String)}
    (hw : List.Forall₂ Written choices pieces) (hr : r.settle = .ok g)
    (hg : choices.foldlM Given.choose g = .ok g') : r.arguments pieces.flatten = .ok g' := by
  induction hw generalizing r g with
  | nil =>
      cases hg
      exact hr
  | cons hw _ ih =>
      obtain ⟨next, hnext, hg⟩ := bind_eq_ok_iff.mp hg
      obtain ⟨r', hr', hread⟩ := exists_arguments_written hw hr hnext
      rw [List.flatten_cons, hread, ih hr' hg]

end Reader

/-! ## All settings -/

/-- The options that give every setting, the expressions first. -/
def choicesOf (c : Config) : List Choice :=
  c.exprs.map (.value .expr) ++
    [.value .prompt c.prompt, .value .logLevel c.logLevel, .value .exitCommand c.exitCommand] ++
    List.replicate c.quiet.toNat (.flag .quiet) ++ List.replicate c.tokens.toNat (.flag .tokens)

/-- The order does not matter but for the expressions. -/
theorem states_of_perm {c : Config} {choices : List Choice} (hperm : choices.Perm (choicesOf c))
    (hexprs : valuesOf .expr choices = c.exprs) : States choices c := by
  have hvalues : ∀ s, (valuesOf s choices).Perm (valuesOf s (choicesOf c)) := fun s =>
    hperm.filterMap _
  have hcount : ∀ f, choices.count (.flag f) = (choicesOf c).count (.flag f) := fun f =>
    hperm.count_eq _
  have hnone : ∀ f, (c.exprs.map (Choice.value .expr)).count (.flag f) = 0 := fun f =>
    List.count_eq_zero.mpr (by simp)
  refine
    { exprs := hexprs
      prompt := .inl (List.perm_singleton.mp ?_)
      logLevel := .inl (List.perm_singleton.mp ?_)
      exitCommand := .inl (List.perm_singleton.mp ?_)
      quiet := ?_
      tokens := ?_
      help := ?_
      version := ?_ }
  · simpa [valuesOf, choicesOf] using hvalues .prompt
  · simpa [valuesOf, choicesOf] using hvalues .logLevel
  · simpa [valuesOf, choicesOf] using hvalues .exitCommand
  · simpa [choicesOf, hnone, List.count_replicate] using hcount .quiet
  · simpa [choicesOf, hnone, List.count_replicate] using hcount .tokens
  · rw [hperm.mem_iff]
    simp [choicesOf]
  · rw [hperm.mem_iff]
    simp [choicesOf]

/-- Settings are read back from a command line that gives all of them, in any order that keeps the
order of the expressions; it may leave out what is left at its default, and each option may be
written in any of its forms. -/
theorem parse_spelling (c : Config) :
    (∀ choices, choices.Perm (choicesOf c) → valuesOf .expr choices = c.exprs →
      States choices c) ∧
    ∀ choices pieces, States choices c → List.Forall₂ Written choices pieces →
      parse pieces.flatten = .ok c := by
  refine ⟨fun choices => states_of_perm, fun choices pieces hstates hwritten => ?_⟩
  obtain ⟨g, hg, rfl⟩ := Given.exists_of_states hstates
  rw [parse, Reader.arguments_flatten hwritten rfl hg]
  rfl

/-- Values that look like options, an empty one, and a default that is left out. -/
theorem parse_spelling_dashes :
    let c : Config := ⟨["-1", "-", "e=3"], "", true, false, "warn", "--x="⟩
    let choices : List Choice := [.value .expr "-1", .flag .quiet, .value .prompt "",
      .value .expr "-", .value .exitCommand "--x=", .value .expr "e=3"]
    let all := .value .logLevel "warn" :: choices
    let pieces := [["--expr=-1"], ["-q"], ["--prompt", ""], ["-e", "-"], ["--exit-command=--x="],
      ["-ee=3"]]
    (all.Perm (choicesOf c) ∧ valuesOf .expr all = c.exprs ∧ States all c) ∧
      States choices c ∧ List.Forall₂ Written choices pieces ∧ parse pieces.flatten = .ok c := by
  intro c choices all pieces
  have hperm : all.Perm (choicesOf c) := by decide
  have hexprs : valuesOf .expr all = c.exprs := by decide
  have hstates : States choices c :=
    { exprs := by decide
      prompt := .inl (by decide)
      logLevel := .inr (by decide)
      exitCommand := .inl (by decide)
      quiet := by decide
      tokens := by decide
      help := by decide
      version := by decide }
  have hwritten : List.Forall₂ Written choices pieces :=
    .cons (.attached .expr "-1") <| .cons .shortQuiet <|
      .cons (.apart .prompt (.inl (by decide))) <| .cons (.shortApart (.inr rfl)) <|
      .cons (.attached .exitCommand "--x=") <|
      .cons (.shortAttached (by decide) (by decide)) .nil
  exact ⟨⟨hperm, hexprs, (parse_spelling c).1 all hperm hexprs⟩, hstates, hwritten,
    (parse_spelling c).2 choices pieces hstates hwritten⟩

end Calculator.CommandLine
