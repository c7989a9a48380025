import Assay.Config

/-!
# Command lines

A command line names the command to carry out and the settings for it. Reading one goes from left to
right, once for what stands in front of the command and once for what stands behind it. A setting
whose value is a word of its own is looked at only when the next one comes or the words are at an
end, so a command line with two faults is refused for the one that is met first in that order.
-/

namespace Assay.Command

/-- How much is logged. -/
inductive LogLevel where
  | trace
  | debug
  | info
  | warn
  | error
  deriving DecidableEq, Repr, Inhabited

/-- How a log is laid out. -/
inductive LogFormat where
  | pretty
  | compact
  | json
  deriving DecidableEq, Repr, Inhabited

/-- The level with a name. -/
def LogLevel.ofName? : String → Option LogLevel
  | "trace" => some .trace
  | "debug" => some .debug
  | "info" => some .info
  | "warn" => some .warn
  | "error" => some .error
  | _ => none

/-- The layout with a name. -/
def LogFormat.ofName? : String → Option LogFormat
  | "pretty" => some .pretty
  | "compact" => some .compact
  | "json" => some .json
  | _ => none

/-- How grave what is logged at a level is. -/
def LogLevel.gravity : LogLevel → Nat
  | .trace => 0
  | .debug => 1
  | .info => 2
  | .warn => 3
  | .error => 4

/-- Whether a log of one level holds lines of another. -/
def LogLevel.admits (chosen line : LogLevel) : Bool :=
  chosen.gravity ≤ line.gravity

/-- What the command is to be carried out with. -/
structure Arguments where
  logLevel : LogLevel := .info
  logFormat : LogFormat := .compact
  /-- The configuration that lists the cases. -/
  config : String := Config.defaultPath
  /-- The file of what is expected, for a single case. -/
  expected : Option String := none
  /-- The file of captured traces, for a single case. -/
  actual : Option String := none
  /-- The source of metrics, for a single case. -/
  query : Option String := none
  deriving DecidableEq, Repr, Inhabited

/-- The case that a command line gives in place of a configuration. -/
def Arguments.singleCase? (a : Arguments) : Option Case :=
  a.expected.map fun expected =>
    { expected, actual := a.actual.getD "", query := a.query.getD "" }

/-- Why a command line is not carried out. -/
inductive Refusal where
  | help
  | version
  /-- There are no settings and no command. -/
  | nothingGiven
  | missingCommand
  | unknownCommand
  | unknownArgument
  /-- A value is missing or not one of its setting. -/
  | badValue
  /-- A value is given to what takes none. -/
  | unneededValue
  /-- Two settings exclude each other, or one comes twice. -/
  | conflict
  /-- A setting lacks another one that it requires. -/
  | missingSetting
  deriving DecidableEq, Repr

/-- A refusal in words. -/
def Refusal.message : Refusal → String
  | .help =>
    "usage: e2e-verify [--log-level LEVEL] [--log-format FORMAT] assert\n" ++
      "  [--config FILE | --expected FILE (--actual FILE | --query SOURCE)]"
  | .version => "e2e-verify"
  | .nothingGiven => "a command is required; see --help"
  | .missingCommand => "a command is required; see --help"
  | .unknownCommand => "there is no such command"
  | .unknownArgument => "there is no such argument"
  | .badValue => "a value is missing or not possible"
  | .unneededValue => "a value is given where none is taken"
  | .conflict => "an argument comes twice, or excludes another one"
  | .missingSetting => "--actual and --query require --expected"

/-- The exit code of a refusal. To be asked for help is no failure. -/
def Refusal.exitCode : Refusal → Nat
  | .help => 0
  | .version => 0
  | _ => 2

/-- The settings, each of which takes one value. -/
inductive Setting where
  | logLevel
  | logFormat
  | config
  | expected
  | actual
  | query
  deriving DecidableEq, Repr

/-- Whether a setting may have a value. -/
def Setting.admits : Setting → String → Bool
  | .logLevel, v => (LogLevel.ofName? v).isSome
  | .logFormat, v => (LogFormat.ofName? v).isSome
  | .config, v => !v.isEmpty
  | _, _ => true

/-- What a name behind dashes stands for. -/
inductive Meaning where
  | setting (s : Setting)
  /-- It ends the reading at once. -/
  | request (r : Refusal)
  deriving DecidableEq, Repr

/-- Where a word stands: in front of the command, or behind it. -/
inductive Level where
  | outer
  | inner
  deriving DecidableEq, Repr

namespace Level

/-- The settings that are known everywhere. -/
def shared? : String → Option Meaning
  | "log-level" => some (.setting .logLevel)
  | "log-format" => some (.setting .logFormat)
  | "help" => some (.request .help)
  | _ => none

/-- What a name behind two dashes stands for. -/
def long? : Level → String → Option Meaning
  | .outer, "version" => some (.request .version)
  | .inner, "config" => some (.setting .config)
  | .inner, "expected" => some (.setting .expected)
  | .inner, "actual" => some (.setting .actual)
  | .inner, "query" => some (.setting .query)
  | _, name => shared? name

/-- What a character behind one dash stands for. -/
def short? : Level → Char → Option Meaning
  | _, 'h' => some (.request .help)
  | .outer, 'V' => some (.request .version)
  | .inner, 'c' => some (.setting .config)
  | _, _ => none

/-- Whether a word is a command. -/
def isCommand : Level → String → Bool
  | .outer, word => word = "assert" || word = "help"
  | .inner, _ => false

/-- Why a word that is no setting, value or command is refused. -/
def stray : Level → Refusal
  | .outer => .unknownCommand
  | .inner => .unknownArgument

end Level

/-- A word of a command line. -/
inductive Word where
  /-- Two dashes: what follows is not to be read as settings. -/
  | escape
  | long (name : String) (value : Option String)
  | short (flags : List Char)
  | plain (s : String)
  deriving DecidableEq, Repr

/-- Reads a word. A lone dash is a plain one. -/
def Word.ofText (s : String) : Word :=
  match s.toList with
  | ['-', '-'] => .escape
  | '-' :: '-' :: cs =>
    match Text.cut (· = '=') cs with
    | some (name, value) => .long (String.ofList name) (some (String.ofList value))
    | none => .long (String.ofList cs) none
  | '-' :: c :: cs => .short (c :: cs)
  | _ => .plain s

/-- What is read of a level so far. -/
structure Reading where
  /-- The settings that are accepted, with their values. -/
  values : List (Setting × String) := []
  /-- A setting that is still to be looked at, and its value if it has come. -/
  pending : Option (Setting × Option String) := none
  deriving DecidableEq, Repr

namespace Reading

/-- The value of a setting. -/
def get? (r : Reading) (s : Setting) : Option String :=
  r.values.lookup s

/-- Accepts a value for a setting, which may come once. -/
def accept (r : Reading) (s : Setting) (value : String) : Except Refusal Reading :=
  if (r.get? s).isSome then .error .conflict
  else if s.admits value then .ok { r with values := (s, value) :: r.values }
  else .error .badValue

/-- Looks at the setting that is still to be looked at. -/
def settle (r : Reading) : Except Refusal Reading :=
  match r.pending with
  | none => .ok r
  | some (_, none) => .error .badValue
  | some (s, some value) => { r with pending := none }.accept s value

/-- The setting whose value is to come next. -/
def awaited? (r : Reading) : Option Setting :=
  match r.pending with
  | some (s, none) => some s
  | _ => none

/-- Goes on with a setting and the value that is attached to it, if there is one. -/
def meet (r : Reading) (m : Meaning) (attached : Option String) : Except Refusal Reading := do
  let r ← r.settle
  match m, attached with
  | .setting s, some value => r.accept s value
  | .setting s, none => return { r with pending := some (s, none) }
  | .request refusal, _ => throw refusal

/-- Goes on with characters behind one dash. The value of a setting may be attached to it, with or
without an equals sign. -/
def meetShort (level : Level) (r : Reading) : List Char → Except Refusal Reading
  | [] => .ok r
  | c :: cs =>
    match level.short? c with
    | none => .error .unknownArgument
    | some m =>
      r.meet m <|
        match cs with
        | [] => none
        | '=' :: value => some (String.ofList value)
        | value => some (String.ofList value)

/-- Goes on with a name behind two dashes. -/
def meetLong (level : Level) (r : Reading) (name : String) (value : Option String) :
    Except Refusal Reading :=
  match level.long? name, value with
  | none, _ => .error .unknownArgument
  | some (.request _), some _ => .error .unneededValue
  | some m, value => r.meet m value

/-- Goes on with a word that is no setting. -/
def meetPlain (level : Level) (r : Reading) (word : String) : Except Refusal Reading :=
  match r.awaited? with
  | some s => .ok { r with pending := some (s, some word) }
  | none => .error level.stray

end Reading

/-- Reads the words of a level up to a command, which is given with what follows it. -/
def readLevel (level : Level) (r : Reading) :
    List String → Except Refusal (Reading × Option (String × List String))
  | [] => .ok (r, none)
  | word :: words =>
    if r.awaited?.isNone && level.isCommand word then .ok (r, some (word, words))
    else
      match Word.ofText word with
      | .escape =>
        match words with
        | [] => .ok (r, none)
        | next :: _ => .error (if level.isCommand next then .unknownArgument else level.stray)
      | .long name value => do readLevel level (← r.meetLong level name value) words
      | .short flags => do readLevel level (← r.meetShort level flags) words
      | .plain word => do readLevel level (← r.meetPlain level word) words

/-- Which refusal the words behind the command `help` lead to: there is help on every command, but a
command has no commands of its own. -/
def helpOn : List String → Refusal
  | [] => .help
  | [word] => if Level.outer.isCommand word then .help else .unknownCommand
  | _ => .unknownCommand

/-- Checks that the settings behind the command go together. -/
def checkTogether (r : Reading) : Except Refusal Unit :=
  let given (s : Setting) := (r.get? s).isSome
  if given .actual && given .query then .error .conflict
  else if (given .actual || given .query) && !given .expected then .error .missingSetting
  else .ok ()

/-- The arguments that two readings come to. What stands behind the command goes first. -/
def arguments (outer inner : Reading) : Arguments :=
  let shared (s : Setting) := (inner.get? s).or (outer.get? s)
  { logLevel := ((shared .logLevel).bind LogLevel.ofName?).getD .info
    logFormat := ((shared .logFormat).bind LogFormat.ofName?).getD .compact
    config := (inner.get? .config).getD Config.defaultPath
    expected := inner.get? .expected
    actual := inner.get? .actual
    query := inner.get? .query }

/-- Reads a command line, given without the name of the program. -/
def parse (words : List String) : Except Refusal Arguments := do
  let (outer, command) ← readLevel .outer {} words
  match command with
  | none =>
    let outer ← outer.settle
    throw (if outer.values.isEmpty then .nothingGiven else .missingCommand)
  | some ("help", rest) => throw (helpOn rest)
  | some (_, rest) =>
    let (inner, _) ← readLevel .inner {} rest
    let inner ← inner.settle
    checkTogether inner
    let outer ← outer.settle
    return arguments outer inner

end Assay.Command
