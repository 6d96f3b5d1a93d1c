import Calculator.Config

/-!
# The command line

Arguments are read from left to right. An option is a flag or takes a value; its value is
attached to it or is the next argument, which then must not look like an option. An option waits
for its value, and even with a value in the next argument it takes effect only when the argument
after that is read. The first thing wrong, or a request for help or the version, ends the
reading.
-/

namespace Calculator.CommandLine

inductive Flag where
  | quiet
  | tokens
  | help
  | version
  deriving DecidableEq

inductive Setting where
  | expr
  | prompt
  | logLevel
  | exitCommand
  deriving DecidableEq

inductive Switch where
  | flag (f : Flag)
  | setting (s : Setting)
  deriving DecidableEq

def longSwitch? (name : String) : Option Switch :=
  match name with
  | "expr" => some (.setting .expr)
  | "prompt" => some (.setting .prompt)
  | "quiet" => some (.flag .quiet)
  | "tokens" => some (.flag .tokens)
  | "log-level" => some (.setting .logLevel)
  | "exit-command" => some (.setting .exitCommand)
  | "help" => some (.flag .help)
  | "version" => some (.flag .version)
  | _ => none

def shortSwitch? : Char → Option Switch
  | 'e' => some (.setting .expr)
  | 'q' => some (.flag .quiet)
  | 'h' => some (.flag .help)
  | 'V' => some (.flag .version)
  | _ => none

inductive UsageError where
  /-- No such option, or a value where no option wants one. -/
  | unknownArgument
  /-- An option without its value. -/
  | invalidValue
  /-- An option given twice that may be given once. -/
  | argumentConflict
  /-- A value for a flag. -/
  | tooManyValues
  deriving DecidableEq

def UsageError.name : UsageError → String
  | unknownArgument => "UnknownArgument"
  | invalidValue => "InvalidValue"
  | argumentConflict => "ArgumentConflict"
  | tooManyValues => "TooManyValues"

/-- Why reading ends before the last argument. -/
inductive Stop where
  | usage (e : UsageError)
  | help
  | version
  deriving DecidableEq

structure Given where
  exprs : List String
  prompt : Option String
  quiet : Bool
  tokens : Bool
  logLevel : Option String
  exitCommand : Option String
  deriving DecidableEq

namespace Given

def empty : Given := ⟨[], none, false, false, none, none⟩

def raise (g : Given) : Flag → Except Stop Given
  | .quiet => if g.quiet then .error (.usage .argumentConflict) else .ok { g with quiet := true }
  | .tokens => if g.tokens then .error (.usage .argumentConflict) else .ok { g with tokens := true }
  | .help => .error .help
  | .version => .error .version

def set (g : Given) (s : Setting) (value : String) : Except Stop Given :=
  match s with
  | .expr => .ok { g with exprs := g.exprs ++ [value] }
  | .prompt =>
    if g.prompt.isSome then .error (.usage .argumentConflict) else .ok { g with prompt := value }
  | .logLevel =>
    if g.logLevel.isSome then .error (.usage .argumentConflict)
    else .ok { g with logLevel := value }
  | .exitCommand =>
    if g.exitCommand.isSome then .error (.usage .argumentConflict)
    else .ok { g with exitCommand := value }

def toConfig (g : Given) : Config where
  exprs := g.exprs
  prompt := g.prompt.getD Config.default.prompt
  quiet := g.quiet
  tokens := g.tokens
  logLevel := g.logLevel.getD Config.default.logLevel
  exitCommand := g.exitCommand.getD Config.default.exitCommand

end Given

/-- The settings given so far, and an option that has not taken effect yet, with its value if
that has been read. -/
structure Reader where
  given : Given
  pending : Option (Setting × Option String)
  deriving DecidableEq

namespace Reader

def initial : Reader := ⟨.empty, none⟩

def settle (r : Reader) : Except Stop Given :=
  match r.pending with
  | none => .ok r.given
  | some (_, none) => .error (.usage .invalidValue)
  | some (s, some value) => r.given.set s value

def raise (r : Reader) (f : Flag) : Except Stop Reader := do
  let g ← r.settle
  return ⟨← g.raise f, none⟩

def set (r : Reader) (s : Setting) (value : String) : Except Stop Reader := do
  let g ← r.settle
  return ⟨← g.set s value, none⟩

def await (r : Reader) (s : Setting) : Except Stop Reader := do
  return ⟨← r.settle, some (s, none)⟩

def value (r : Reader) (a : String) : Except Stop Reader :=
  match r.pending with
  | some (s, none) => .ok { r with pending := some (s, some a) }
  | _ => .error (.usage .unknownArgument)

/-- The argument `--name` or `--name=value`. -/
def long (r : Reader) (name : String) (attached : Option String) : Except Stop Reader :=
  match longSwitch? name, attached with
  | none, _ => .error (.usage .unknownArgument)
  | some (.flag f), none => r.raise f
  | some (.flag _), some _ => .error (.usage .tooManyValues)
  | some (.setting s), none => r.await s
  | some (.setting s), some value => r.set s value

/-- The value in what follows the letter of an option; an equals sign before it is left out. -/
def attachedValue : List Char → String
  | '=' :: cs => String.ofList cs
  | cs => String.ofList cs

/-- The letters after `-`: flags up to an option with a value, which takes the rest. -/
def short (r : Reader) : List Char → Except Stop Reader
  | [] => .ok r
  | c :: cs =>
    match shortSwitch? c with
    | none => .error (.usage .unknownArgument)
    | some (.flag f) => do (← r.raise f).short cs
    | some (.setting s) => if cs.isEmpty then r.await s else r.set s (attachedValue cs)

/-- The text before the first equals sign, and the one after it. -/
def splitAttached (cs : List Char) : String × Option String :=
  match cs.dropWhile (· != '=') with
  | [] => (String.ofList cs, none)
  | _ :: value => (String.ofList (cs.takeWhile (· != '=')), some (String.ofList value))

/-- One argument other than `--`. A lone `-` is no option. -/
def argument (r : Reader) (a : String) : Except Stop Reader :=
  match a.toList with
  | '-' :: '-' :: cs => let (name, attached) := splitAttached cs; r.long name attached
  | '-' :: c :: cs => r.short (c :: cs)
  | _ => r.value a

/-- Reads all arguments; nothing may follow `--`. -/
def arguments (r : Reader) : List String → Except Stop Given
  | [] => r.settle
  | a :: rest =>
    if a = "--" then
      if rest.isEmpty then r.settle else .error (.usage .unknownArgument)
    else do (← r.argument a).arguments rest

end Reader

def parse (args : List String) : Except Stop Config :=
  (Reader.initial.arguments args).map Given.toConfig

def versionText : String := "mathexpr 0.1.0\n"

def helpText : String :=
  "Evaluate arithmetic expressions\n" ++
  "\n" ++
  "Usage: mathexpr [OPTIONS]\n" ++
  "\n" ++
  "Options:\n" ++
  "  -e, --expr <EXPR>                  " ++
    "Evaluate EXPR and exit instead of starting the interactive loop (repeatable)\n" ++
  "      --prompt <PROMPT>              Prompt printed before each line [default: \"> \"]\n" ++
  "  -q, --quiet                        Do not print the banner\n" ++
  "      --tokens                       " ++
    "Print the token stream of each line instead of evaluating it\n" ++
  "      --log-level <LOG_LEVEL>        " ++
    "Default log filter; RUST_LOG takes precedence [default: warn]\n" ++
  "      --exit-command <EXIT_COMMAND>  " ++
    "Word that ends the interactive loop (case-insensitive) [default: exit]\n" ++
  "  -h, --help                         Print help\n" ++
  "  -V, --version                      Print version\n"

end Calculator.CommandLine
