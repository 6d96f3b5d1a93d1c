import Calculator.Log.Record
import Calculator.Pattern.Parse
import Calculator.Text.Utf8

/-!
# Log filters

A filter is written as a list of entries between commas: a level for every target, a target
prefix for all its records, or `prefix=level`. Of the entries whose prefix begins a record's
target the longest decides. Behind a slash a pattern may follow, which then must be found in the
message. What is none of these is left out, and reported.
-/

namespace Calculator.Log

/-- The most verbose level admitted, or none. -/
abbrev Threshold := Option Level

namespace Threshold

/-- The threshold with the name, in letters of either case; `off` admits nothing. -/
def ofName? (s : List Char) : Option Threshold :=
  if Text.sameIgnoringCase s "off".toList then some none
  else (Level.all.find? fun l => Text.sameIgnoringCase s l.name.toList).map some

def admits (t : Threshold) (l : Level) : Bool :=
  match t with
  | none => false
  | some most => l.verbosity ≤ most.verbosity

end Threshold

/-- An entry of a filter; without a target prefix it is about every target. -/
structure Directive where
  target : Option (List Char)
  threshold : Threshold
  deriving DecidableEq

namespace Directive

def covers (d : Directive) (target : List Char) : Bool :=
  match d.target with
  | none => true
  | some p => p.isPrefixOf target

def length (d : Directive) : Nat :=
  match d.target with
  | none => 0
  | some p => Text.utf8Size p

end Directive

/-- Directives with shorter targets first, and the pattern of the messages. -/
structure Filter where
  directives : List Directive
  pattern : Option Pattern
  deriving DecidableEq

inductive SpecFault where
  | entry (text : List Char)
  | tooManySlashes (spec : List Char)
  | pattern (text : List Char) (f : Pattern.Fault)
  deriving DecidableEq

namespace SpecFault

def message : SpecFault → String
  | entry text => "invalid logging spec '" ++ String.ofList text ++ "'"
  | tooManySlashes spec => "invalid logging spec '" ++ String.ofList spec ++ "' (too many '/'s)"
  | pattern text f => "invalid regex filter - " ++ f.report text

def warning (f : SpecFault) : String := "warning: " ++ f.message ++ ", ignoring it"

end SpecFault

/-- What a specification says, and what in it says nothing. -/
structure Spec where
  directives : List Directive
  pattern : Option Pattern
  faults : List SpecFault
  deriving DecidableEq

namespace Spec

/-- What an entry says, or the part of it that says nothing. -/
def readEntry (entry : List Char) : Except (List Char) Directive :=
  match entry.splitOn '=' with
  | [name] =>
    match Threshold.ofName? name with
    | some t => .ok ⟨none, t⟩
    | none => .ok ⟨some name, some .trace⟩
  | [name, level] =>
    let level := Text.trim level
    if level.isEmpty then .ok ⟨some name, some .trace⟩
    else
      match Threshold.ofName? level with
      | some t => .ok ⟨some name, t⟩
      | none => .error level
  | _ => .error entry

/-- The entries between commas that are not blank. -/
def entries (text : List Char) : List (List Char) :=
  ((text.splitOn ',').map Text.trim).filter (!·.isEmpty)

/-- What is said by entries alone. -/
def ofEntries (text : List Char) : Spec where
  directives := (entries text).filterMap fun e => (readEntry e).toOption
  pattern := none
  faults := (entries text).filterMap fun e =>
    match readEntry e with
    | .ok _ => none
    | .error part => some (.entry part)

/-- With more than one slash a specification says nothing at all. -/
def ofList (spec : List Char) : Spec :=
  match spec.splitOn '/' with
  | [text] => ofEntries text
  | [text, pattern] =>
    let s := ofEntries text
    match Pattern.parse pattern with
    | .ok p => { s with pattern := some p }
    | .error f => { s with faults := s.faults ++ [.pattern pattern f] }
  | _ => ⟨[], none, [.tooManySlashes spec]⟩

end Spec

namespace Filter

/-- Does the filter let the record through? The last directive that covers its target decides on
its level. -/
def admits (f : Filter) (r : Record) : Bool :=
  (match f.directives.reverse.find? (·.covers r.target.toList) with
  | some d => d.threshold.admits r.level
  | none => false) && f.pattern.all (·.isFoundIn r.message)

/-- Takes the place of a directive about the same target, or goes to the end. -/
def insert (d : Directive) : List Directive → List Directive
  | [] => [d]
  | e :: es => if e.target = d.target then d :: es else e :: insert d es

/-- The directives of a filter, of which a later one replaces an earlier one with its target.
Where there is none at all, errors are admitted. -/
def arrange (ds : List Directive) : List Directive :=
  match ds.foldl (fun acc d => insert d acc) [] with
  | [] => [⟨none, some .error⟩]
  | es => es.mergeSort fun a b => a.length ≤ b.length

def ofSpec (spec : String) : Filter :=
  let s := Spec.ofList spec.toList
  ⟨arrange s.directives, s.pattern⟩

/-- A line for each part of a specification that the filter leaves out. -/
def warnings (spec : String) : List String :=
  (Spec.ofList spec.toList).faults.map SpecFault.warning

end Filter

end Calculator.Log
