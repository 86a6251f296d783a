import ChartParsing.Command.Invocation

/-!
Contract: the options of the program and of its commands.

Owns the names of commands and options, what each level of the command line takes, and the settings
that options and paths add up to. An option is set once at most; its value, and a path, must be valid.
-/

set_option autoImplicit false

namespace ChartParsing.Command

/-! ## Names -/

/-- Where arguments are taken from: the whole program or one command. -/
inductive Level where
  | program
  | parse
  | validate
deriving DecidableEq, Repr

/-- The options that take a value. -/
inductive ValueOption where
  | format
  | logLevel
  | logFile
deriving DecidableEq, Repr

/-- The options that take no value. -/
inductive Switch where
  | best
  | timing
  | help
  | version
deriving DecidableEq, Repr

/-- An option of either sort. -/
inductive NamedOption where
  | valued (option : ValueOption)
  | plain (switch : Switch)
deriving DecidableEq, Repr

def Level.pathCount : Level → Nat
  | .program => 0
  | .parse => 2
  | .validate => 1

def Level.longOption? (level : Level) (name : List Char) : Option NamedOption :=
  match String.ofList name, level with
  | "loglevel", _ => some (.valued .logLevel)
  | "logfile", _ => some (.valued .logFile)
  | "help", _ => some (.plain .help)
  | "version", .program => some (.plain .version)
  | "format", .parse => some (.valued .format)
  | "best", .parse => some (.plain .best)
  | "timing", .parse => some (.plain .timing)
  | _, _ => none

def Level.letterOption? (level : Level) (letter : Char) : Option Switch :=
  match letter, level with
  | 'h', _ => some .help
  | 'V', .program => some .version
  | _, _ => none

/-- What the program takes a name in the place of a command for. -/
inductive CommandName where
  | command (level : Level)
  | help
deriving DecidableEq, Repr

def CommandName.ofString? : String → Option CommandName
  | "parse" => some (.command .parse)
  | "validate" => some (.command .validate)
  | "help" => some .help
  | _ => none

def thresholdOfString? : String → Option Threshold
  | "off" => some .off
  | "error" => some (.atMost .error)
  | "warn" => some (.atMost .warn)
  | "info" => some (.atMost .info)
  | "debug" => some (.atMost .debug)
  | "trace" => some (.atMost .trace)
  | _ => none

def formatOfString? : String → Option TreeFormat
  | "bracketed" => some .bracketed
  | "indented" => some .indented
  | _ => none

/-! ## Settings -/

/-- What the arguments of one level have set. -/
structure Settings where
  threshold : Option Threshold
  logFile : Option String
  format : Option TreeFormat
  best : Bool
  timing : Bool
  paths : List String
deriving DecidableEq, Repr

namespace Settings

def unset : Settings :=
  ⟨none, none, none, false, false, []⟩

/-- A value that is set for the first time, and is one. -/
def once {α : Type} (before : Option α) (value : Option α) : Except UsageError (Option α) :=
  match before, value with
  | some _, _ => .error .repeatedOption
  | none, none => .error .invalidValue
  | none, some valid => .ok (some valid)

def nonEmpty? (text : String) : Option String :=
  if text.isEmpty then none else some text

def setValue (settings : Settings) (option : ValueOption) (value : String) :
    Except UsageError Settings :=
  match option with
  | .format =>
    (once settings.format (formatOfString? value)).map fun format => { settings with format }
  | .logLevel =>
    (once settings.threshold (thresholdOfString? value)).map fun threshold =>
      { settings with threshold }
  | .logFile =>
    (once settings.logFile (nonEmpty? value)).map fun logFile => { settings with logFile }

def turnOn (settings : Settings) (switch : Switch) : Except UsageError Settings :=
  match switch with
  | .best => if settings.best then .error .repeatedOption else .ok { settings with best := true }
  | .timing =>
    if settings.timing then .error .repeatedOption else .ok { settings with timing := true }
  | .help => .error .helpRequested
  | .version => .error .versionRequested

def addPath (settings : Settings) (path : String) : Except UsageError Settings :=
  match nonEmpty? path with
  | none => .error .invalidValue
  | some valid => .ok { settings with paths := settings.paths ++ [valid] }

end Settings

end ChartParsing.Command
