import ChartParsing.Command.Invocation
import ChartParsing.Command.Script
import ChartParsing.Session

/-!
Contract: the commands.

Owns the order of work, in whatever surroundings. The grammar is loaded and checked, and the sentences
are read, before anything is written. Every line that is not blank is then answered by itself: its
tokens, the time of its parse if that is asked for, and its trees or the note that it has none. All that
has been written is passed on at the end.
-/

set_option autoImplicit false

namespace ChartParsing.Command

open ChartParsing.Text

/-! ## Grammars -/

/-- A stage of a command: what it logs, and its result or the failure that ends the command. -/
structure Stage (α : Type) where
  log : List LogRecord
  result : Except Failure α

def openGrammar (path : String) (content : Except ReadError String) : Stage Parser :=
  match content with
  | .error cause => ⟨[], .error (.grammarUnreadable path cause)⟩
  | .ok text =>
    match Grammar.load text with
    | .error rejection => ⟨rejection.log.toList, .error (.grammarUnusable rejection.cause)⟩
    | .ok ⟨grammar, log⟩ =>
      let loaded : LogRecord := ⟨.info,
        s!"Loaded grammar {quoted path}: {grammar.ruleCount} rules, {grammar.wordCount} words"⟩
      match Parser.ofGrammar grammar with
      | .error missing => ⟨log.toList ++ [loaded], .error (.grammarIncomplete missing)⟩
      | .ok parser =>
        ⟨log.toList ++ [loaded, ⟨.info, s!"Grammar {quoted path} is valid"⟩], .ok parser⟩

/-! ## Sentences -/

/-- The words of a line, or nothing when the line is blank. -/
def lineWords? (line : List Char) : Option (List String) :=
  match trim line with
  | [] => none
  | _ => some (Sentence.tokens (String.ofList line))

/-- What is written in front of the answer to a sentence. -/
def header (words : List String) : String :=
  "# " ++ Sentence.spaced words ++ "\n"

/-- What is written about the time of a parse. -/
def timingLine (elapsed : String) : String :=
  s!"# parsed in {elapsed}\n"

/-- The trees of a sentence as they are shown. -/
def shownTrees (options : ParseOptions) (words : List String) (trees : List Tree) : List Event :=
  match trees with
  | [] => [.write (noParse words ++ "\n")]
  | best :: others =>
    (best :: if options.best then [] else others).flatMap fun tree =>
      (tree.linesIn options.format).map .write

def answer (options : ParseOptions) (threshold : Threshold) (elapsed : String) (number : Nat)
    (words : List String) (analysis : Analysis) : List Event :=
  match analysis with
  | .trees trees =>
    (if options.timing then [.write (timingLine elapsed)] else [])
      ++ shownTrees options words trees
  | .cancelled => logged threshold [⟨.warn, s!"Parse of line {number} was cancelled"⟩]
  | .astray => []

def validLine (path : String) (grammar : Grammar) : String :=
  s!"{path}: ok ({grammar.ruleCount} rules, {grammar.wordCount} words)\n"

/-! ## Commands -/

def Task.grammarPath : Task → String
  | .parse grammar _ _ => grammar
  | .validate grammar => grammar

section Commands

variable {Effect : Type → Type} [Monad Effect] (surroundings : Surroundings Effect)

/-- Answers numbered lines, one after the other. The tokens of a line are written before its parse. -/
def parseLines (options : ParseOptions) (threshold : Threshold) :
    Session → List (Nat × List Char) → Effect Unit
  | _, [] => pure ()
  | session, (number, line) :: others =>
    match lineWords? line with
    | none => parseLines options threshold session others
    | some words => do
      surroundings.perform (.write (header words))
      let (report, elapsed) ← surroundings.timed fun _ => session.parse threshold { words }
      surroundings.performAll (report.log.map .log)
      surroundings.performAll (answer options threshold elapsed number words report.analysis)
      parseLines options threshold report.session others

/-- What a command does once its grammar is there. -/
def runTask (threshold : Threshold) (parser : Parser) : Task → Effect (Option Failure)
  | .validate path => do
    surroundings.perform (.write (validLine path parser.grammar))
    pure none
  | .parse _ path options => do
    match ← surroundings.read path with
    | .error cause => pure (some (.sentencesUnreadable path cause))
    | .ok text =>
      parseLines surroundings options threshold (.start parser) (numberedLines text.toList)
      surroundings.perform .flush
      pure none

/-- Does what an invocation asks for. -/
def Invocation.run (invocation : Invocation) : Effect (Option Failure) := do
  let path := invocation.task.grammarPath
  let stage := openGrammar path (← surroundings.read path)
  surroundings.performAll (logged invocation.threshold stage.log)
  match stage.result with
  | .error failure => pure (some failure)
  | .ok parser => runTask surroundings invocation.threshold parser invocation.task

end Commands

/-- The script of an invocation, on given files and with a given text for the times of parses. -/
def Invocation.script (invocation : Invocation) (files : Files) (elapsed : String) : Script :=
  .ofRecording (invocation.run (.recording files elapsed))

end ChartParsing.Command
