import ChartParsing.ByteSink
import ChartParsing.Grammar.Coverage
import ChartParsing.Grammar.Loading

/-!
Contract: why commands fail.

Owns the reasons for which a file cannot be read as text, and the failures that end a command, with
the texts of their reports.
-/

set_option autoImplicit false

namespace ChartParsing.Command

open ChartParsing.Text

/-! ## Files -/

/-- Why a file cannot be read as text. -/
inductive ReadError where
  | notFound
  | notDirectory
  | isDirectory
  | notText
  /-- The path, or a name in it, has too many bytes. -/
  | nameTooLong
  /-- The path holds a character that no path can hold. -/
  | nulInPath
  | other (reason : String)
deriving DecidableEq, Repr

def ReadError.message : ReadError → String
  | .notFound => "No such file or directory (os error 2)"
  | .notDirectory => "Not a directory (os error 20)"
  | .isDirectory => "Is a directory (os error 21)"
  | .notText => "stream did not contain valid UTF-8"
  | .nameTooLong => "File name too long (os error 36)"
  | .nulInPath => "file name contained an unexpected NUL byte"
  | .other reason => reason

abbrev Files := String → Except ReadError String

/-! ## Failures -/

/-- Why a command is not carried out to its end. -/
inductive Failure where
  | grammarUnreadable (path : String) (cause : ReadError)
  | grammarUnusable (cause : LoadError)
  | grammarIncomplete (missing : MissingRule)
  | sentencesUnreadable (path : String) (cause : ReadError)
  /-- The output does not take all that is written to it. -/
  | outputFailed (reason : String)
deriving DecidableEq, Repr

def Failure.message : Failure → String
  | .grammarUnreadable path cause => s!"cannot read grammar {quoted path}: {cause.message}"
  | .grammarUnusable cause => cause.message
  | .grammarIncomplete missing => s!"invalid grammar: {missing.message}"
  | .sentencesUnreadable path cause => s!"cannot read sentences {quoted path}: {cause.message}"
  | .outputFailed reason => s!"cannot write output: {reason}"

end ChartParsing.Command
