import ChartParsing.LogRecord
import ChartParsing.Tree.Written

/-!
Contract: what the program can be asked to do.

Owns the two tasks, parsing a file of sentences with a grammar and checking a grammar, with the
choices that go with them, and the reasons for which an argument list asks for neither.
-/

set_option autoImplicit false

namespace ChartParsing.Command

/-- How the trees of sentences are shown. -/
structure ParseOptions where
  format : TreeFormat
  /-- Only the best tree of a sentence is shown. -/
  best : Bool
  /-- The time of each parse is shown. -/
  timing : Bool
deriving DecidableEq, Repr

/-- What the program is asked to do. -/
inductive Task where
  | parse (grammar sentences : String) (options : ParseOptions)
  | validate (grammar : String)
deriving DecidableEq, Repr

/-- A command line that has been understood. -/
structure Invocation where
  task : Task
  threshold : Threshold
  logFile : Option String
deriving DecidableEq, Repr

/-- Why no command is carried out. -/
inductive UsageError where
  /-- Help was asked for. -/
  | helpRequested
  /-- The version was asked for. -/
  | versionRequested
  /-- There are no arguments. -/
  | nothingGiven
  | missingPath
  | missingCommand
  | unknownArgument
  | unknownCommand
  | invalidValue
  | repeatedOption
  /-- A value is given to an option that takes none. -/
  | unneededValue
deriving DecidableEq, Repr

/-- The exit status: only a request for help or for the version is no mistake. -/
def UsageError.exitStatus : UsageError → Nat
  | .helpRequested => 0
  | .versionRequested => 0
  | _ => 2

end ChartParsing.Command
