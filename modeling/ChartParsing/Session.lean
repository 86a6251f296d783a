import ChartParsing.Chart.Construction
import ChartParsing.Chart.Forest
import ChartParsing.Grammar.Coverage
import ChartParsing.LogRecord

/-!
Contract: parsing sentences one after the other.

Owns the parser, which is a grammar that defines all a sentence may need, and the session with a
parser: whether its stop flag is raised, and whether a parse has run to its end yet. A parse lowers
the stop flag when it begins, so only what happens during the parse can stop it.
-/

set_option autoImplicit false

namespace ChartParsing

/-- A grammar that can be parsed with. -/
structure Parser where
  grammar : Grammar
  /-- Every phrase symbol that a sentence may need has a production. -/
  covered : grammar.missingRule? = none

/-- The parser for a grammar, or the phrase symbol that keeps it from being one. -/
def Parser.ofGrammar (grammar : Grammar) : Except MissingRule Parser :=
  match covered : grammar.missingRule? with
  | none => .ok ⟨grammar, covered⟩
  | some missing => .error missing

/-- What a parse comes to. -/
inductive Analysis where
  /-- The parse ran to its end; its trees, best first. -/
  | trees (trees : List Tree)
  /-- The parse was stopped. -/
  | cancelled
  /-- The construction left the charts; the invariants of the construction exclude this. -/
  | astray
deriving DecidableEq, Repr

/-- A parser in use. -/
structure Session where
  parser : Parser
  /-- Whether the stop flag is raised. -/
  stopped : Bool
  /-- Whether the time of a parse that ran to its end is known. -/
  timed : Bool

/-- A parse that has been carried out. -/
structure ParseReport where
  analysis : Analysis
  log : List LogRecord
  session : Session

namespace Session

def start (parser : Parser) : Session :=
  ⟨parser, false, false⟩

def stop (session : Session) : Session :=
  { session with stopped := true }

/-- The record of a parse that ran to its end. -/
def parsedRecord (sentence : Sentence) (charts : Charts) (trees : List Tree) : LogRecord where
  severity := .debug
  message :=
    s!"Parsed {sentence.words.length} words: {charts.rowCount} states, {trees.length} trees"

def cancelledRecord (sentence : Sentence) : LogRecord where
  severity := .debug
  message := s!"Parse of {sentence.words.length} words cancelled"

def chartsRecord (grammar : Grammar) (charts : Charts) : LogRecord where
  severity := .trace
  message := charts.describe grammar

/-- Parses a sentence and logs what the threshold lets through. -/
def parse (session : Session) (threshold : Threshold) (sentence : Sentence) : ParseReport :=
  let grammar := session.parser.grammar
  match construct grammar sentence with
  | .finished charts =>
    match charts.rankedTrees? grammar with
    | none => ⟨.astray, [], { session with stopped := false }⟩
    | some trees =>
      let shown := if threshold.admits .trace then [chartsRecord grammar charts] else []
      ⟨.trees trees, shown ++ threshold.select [parsedRecord sentence charts trees],
        { session with stopped := false, timed := true }⟩
  | .cancelled =>
    ⟨.cancelled, threshold.select [cancelledRecord sentence], { session with stopped := true }⟩
  | .running _ => ⟨.astray, [], { session with stopped := false }⟩
  | .astray => ⟨.astray, [], { session with stopped := false }⟩

end Session

end ChartParsing
