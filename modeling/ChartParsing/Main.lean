import ChartParsing.Command.Arguments
import ChartParsing.Command.Elapsed
import ChartParsing.Command.Execution

/-!
Contract: the program.

Owns the surroundings of the commands: reading files, measuring times, writing trees to standard output
and records to standard error, and the exit status. What is written, and in which order, is settled by
the command library.
-/

set_option autoImplicit false

namespace ChartParsing.Program

open ChartParsing.Command

def usageText : String :=
  "Usage: chart-parsing [--loglevel LEVEL] [--logfile FILE] COMMAND

Commands:
  parse GRAMMAR SENTENCES [--format bracketed|indented] [--best] [--timing]
      Parse every line of a sentence file.
  validate GRAMMAR
      Only load and check a grammar.

Levels: off, error, warn, info, debug, trace
"

def versionText : String := "chart-parsing 0.1.0\n"

/-- What is said about an argument list that is not understood. -/
def mistakeText : UsageError → String
  | .missingPath => "a path is missing"
  | .missingCommand => "a command is missing"
  | .unknownArgument => "unexpected argument"
  | .unknownCommand => "unknown command"
  | .invalidValue => "missing or invalid value"
  | .repeatedOption => "an option is given twice"
  | .unneededValue => "an option that takes no value is given one"
  | .nothingGiven => "a command is missing"
  | .helpRequested => "help"
  | .versionRequested => "version"

/-- The report of a failed attempt to read a file. Its code may come with either sign. -/
def readErrorOf : IO.Error → ReadError
  | .noFileOrDirectory _ _ _ => .notFound
  | .inappropriateType path code details =>
    if code = 20 || -code = 20 then .notDirectory
    else if code = 21 || -code = 21 then .isDirectory
    else .other (toString (IO.Error.inappropriateType path code details))
  | .invalidArgument path code details =>
    if code = 36 || -code = 36 then .nameTooLong
    else .other (toString (IO.Error.invalidArgument path code details))
  | fault => .other (toString fault)

def readText (path : String) : IO (Except ReadError String) := do
  try
    let bytes ← IO.FS.readBinFile path
    match String.fromUTF8? bytes with
    | some text => return .ok text
    | none => return .error .notText
  catch fault =>
    return .error (readErrorOf fault)

/-- Where the records of an invocation go. -/
structure Journal where
  threshold : Threshold
  file : Option IO.FS.Handle

def Journal.record (journal : Journal) (record : LogRecord) : IO Unit := do
  if journal.threshold.admits record.severity then
    let line := record.severity.name ++ " - " ++ record.message ++ "\n"
    (← IO.getStderr).putStr line
    match journal.file with
    | none => return
    | some handle =>
      handle.putStr line
      handle.flush

def Journal.fail (journal : Journal) (failure : Failure) : IO UInt32 := do
  journal.record ⟨.error, failure.message⟩
  (← IO.getStderr).putStr ("Error: " ++ failure.message ++ "\n")
  return 1

def Journal.carryOut (journal : Journal) : Event → IO Unit
  | .write text => do (← IO.getStdout).putStr text
  | .flush => do (← IO.getStdout).flush
  | .log record => journal.record record

def Journal.surroundings (journal : Journal) : Surroundings IO where
  read := readText
  timed value := do
    let before ← IO.monoNanosNow
    let result ← IO.lazyPure value
    let after ← IO.monoNanosNow
    return (result, elapsedText (after - before))
  perform := journal.carryOut

/-- Does what an invocation asks for, and reports its failure. -/
def run (journal : Journal) (invocation : Invocation) : IO UInt32 := do
  let ended ←
    try invocation.run journal.surroundings
    catch fault => pure (some (.outputFailed (toString fault)))
  match ended with
  | none => return 0
  | some failure => journal.fail failure

def openLogFile (path : Option String) : IO (Option IO.FS.Handle) := do
  match path with
  | none => return none
  | some file => return some (← IO.FS.Handle.mk file .append)

/-- Understands an argument list and does what it asks for. -/
def start (arguments : List String) : IO UInt32 := do
  match Invocation.ofArguments arguments with
  | .error .helpRequested =>
    (← IO.getStdout).putStr usageText
    return 0
  | .error .versionRequested =>
    (← IO.getStdout).putStr versionText
    return 0
  | .error mistake =>
    (← IO.getStderr).putStr ("error: " ++ mistakeText mistake ++ "\n\n" ++ usageText)
    return mistake.exitStatus.toUInt32
  | .ok invocation =>
    match ← (openLogFile invocation.logFile).toBaseIO with
    | .error fault =>
      (← IO.getStderr).putStr s!"Error: cannot initialize logging: {fault}\n"
      return 1
    | .ok file => run ⟨invocation.threshold, file⟩ invocation

end ChartParsing.Program

/-- Runs the program on the arguments of the command line. -/
def main (arguments : List String) : IO UInt32 :=
  ChartParsing.Program.start arguments
