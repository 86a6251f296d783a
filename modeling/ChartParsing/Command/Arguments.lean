import ChartParsing.Command.Options

/-!
Contract: reading argument lists.

Owns the order in which arguments are taken and judged. They are taken from left to right, first for
the whole program and from the name of a command on for that command. An option that takes a value
has it after an equals sign or as the next argument, unless that looks like an option itself; after
`--` no argument does. A value given as an argument of its own, and likewise a path, is not judged
before the next option or path of the same level, or the end of the arguments, is reached; so a
mistake found in between is reported instead of it. The log options may stand at both levels, and
those of the command win.
-/

set_option autoImplicit false

namespace ChartParsing.Command

/-- What has been taken from the arguments but not judged. -/
inductive Pending where
  | nothing
  /-- An option that takes a value, with the value if it has come. -/
  | value (option : ValueOption) (text : Option String)
  | path (text : String)
deriving DecidableEq, Repr

/-- The reading of the arguments of one level. -/
structure Reading where
  settings : Settings
  pending : Pending
  /-- How many paths have been taken. -/
  pathsTaken : Nat
  /-- Whether `--` has been passed. -/
  optionsEnded : Bool
  /-- Whether any option or path has been taken. -/
  anyTaken : Bool
deriving DecidableEq, Repr

namespace Reading

def start : Reading :=
  ⟨.unset, .nothing, 0, false, false⟩

def awaiting? (reading : Reading) : Option ValueOption :=
  match reading.pending with
  | .value option none => some option
  | _ => none

def settle (reading : Reading) : Except UsageError Settings :=
  match reading.pending with
  | .nothing => .ok reading.settings
  | .value _ none => .error .invalidValue
  | .value option (some text) => reading.settings.setValue option text
  | .path text => reading.settings.addPath text

/-- Goes on with new settings and something new to be judged. -/
def proceed (reading : Reading) (settings : Settings) (pending : Pending) : Reading :=
  { reading with settings, pending, anyTaken := true }

def takeSwitch (reading : Reading) (switch : Switch) : Except UsageError Reading := do
  let settled ← reading.settle
  let settings ← settled.turnOn switch
  return reading.proceed settings .nothing

/-- Takes an option by its long name, with the value after the equals sign if there is one. -/
def takeLong (reading : Reading) (level : Level) (name : List Char) (attached : Option String) :
    Except UsageError Reading :=
  match level.longOption? name, attached with
  | none, _ => .error .unknownArgument
  | some (.plain _), some _ => .error .unneededValue
  | some (.plain switch), none => reading.takeSwitch switch
  | some (.valued option), none => do
    let settled ← reading.settle
    return reading.proceed settled (.value option none)
  | some (.valued option), some text => do
    let settled ← reading.settle
    let settings ← settled.setValue option text
    return reading.proceed settings .nothing

def takeLetter (reading : Reading) (level : Level) (letter : Char) : Except UsageError Reading :=
  match level.letterOption? letter with
  | none => .error .unknownArgument
  | some switch => reading.takeSwitch switch

/-- The mistake of a path too many. The program itself takes a command in that place. -/
def excessError (reading : Reading) (level : Level) (argument : String) : UsageError :=
  match level with
  | .program =>
    if reading.optionsEnded && (CommandName.ofString? argument).isSome then .unknownArgument
    else .unknownCommand
  | _ => .unknownArgument

def takePath (reading : Reading) (level : Level) (argument : String) :
    Except UsageError Reading :=
  if reading.pathsTaken < level.pathCount then do
    let settled ← reading.settle
    let taken := reading.proceed settled (.path argument)
    return { taken with pathsTaken := reading.pathsTaken + 1 }
  else .error (reading.excessError level argument)

def take (reading : Reading) (level : Level) (argument : String) : Except UsageError Reading :=
  if reading.optionsEnded then reading.takePath level argument
  else
    match argument.toList with
    | ['-', '-'] => .ok { reading with optionsEnded := true }
    | '-' :: '-' :: body =>
      match body.dropWhile (· ≠ '=') with
      | [] => reading.takeLong level body none
      | _ :: attached =>
        reading.takeLong level (body.takeWhile (· ≠ '=')) (some (String.ofList attached))
    | '-' :: letter :: _ => reading.takeLetter level letter
    | _ =>
      match reading.awaiting? with
      | some option => .ok { reading with pending := .value option (some argument) }
      | none => reading.takePath level argument

/-- The command that an argument names in the place where it stands. -/
def command? (reading : Reading) (level : Level) (argument : String) : Option CommandName :=
  match level with
  | .program =>
    if reading.optionsEnded || reading.awaiting?.isSome then none
    else CommandName.ofString? argument
  | _ => none

end Reading

/-- What follows the arguments of a level. -/
inductive Continuation where
  | ended
  | command (level : Level) (arguments : List String)

/-- Help about a command. All names after it must lead to a command; commands have no commands of
their own. -/
def helpError (names : List String) : UsageError :=
  match names with
  | [] => .helpRequested
  | [name] => if (CommandName.ofString? name).isSome then .helpRequested else .unknownCommand
  | _ => .unknownCommand

/-- Reads the arguments of a level, up to a command or to their end. -/
def readLevel (level : Level) (reading : Reading) :
    List String → Except UsageError (Reading × Continuation)
  | [] => .ok (reading, .ended)
  | argument :: others =>
    match reading.command? level argument with
    | some .help => .error (helpError others)
    | some (.command named) => .ok (reading, .command named others)
    | none =>
      match reading.take level argument with
      | .error mistake => .error mistake
      | .ok taken => readLevel level taken others

/-- The task that the settings of a command describe. -/
def Settings.task? (settings : Settings) (level : Level) : Option Task :=
  match level, settings.paths with
  | .parse, [grammar, sentences] =>
    some (.parse grammar sentences
      ⟨settings.format.getD .bracketed, settings.best, settings.timing⟩)
  | .validate, [grammar] => some (.validate grammar)
  | _, _ => none

/-- Warnings are shown unless something else is asked for. -/
def defaultThreshold : Threshold := .atMost .warn

/-- Reads an argument list. -/
def Invocation.ofArguments (arguments : List String) : Except UsageError Invocation := do
  let (program, continuation) ← readLevel .program .start arguments
  match continuation with
  | .ended =>
    let _ ← program.settle
    throw (if program.anyTaken then .missingCommand else .nothingGiven)
  | .command level others =>
    let (reading, _) ← readLevel level .start others
    let settings ← reading.settle
    match settings.task? level with
    | none => throw .missingPath
    | some task =>
      let outer ← program.settle
      return {
        task
        threshold := (settings.threshold.or outer.threshold).getD defaultThreshold
        logFile := settings.logFile.or outer.logFile }

end ChartParsing.Command
