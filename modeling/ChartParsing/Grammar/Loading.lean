import ChartParsing.Grammar.Basic
import ChartParsing.GrammarText.Document
import ChartParsing.LogRecord

/-!
Contract: the grammar that a grammar text describes.

Owns the order of registration. The categories of all lexicon lines come first, then the heads of all
rule lines, and only then are words and productions added line by line. So a name in the body of a
production is a terminal symbol exactly if it is reserved or has a lexicon line anywhere in the text;
any other name is a phrase symbol, whether or not a line defines it.
-/

set_option autoImplicit false

namespace ChartParsing

open GrammarText

/-- Why a text describes no grammar. -/
inductive LoadError where
  /-- A line cannot be read. -/
  | malformed (fault : SyntaxFault)
  /-- A name of a line cannot be registered. -/
  | symbol (line : Nat) (cause : SymbolError)
deriving DecidableEq, Repr

def LoadError.message : LoadError → String
  | .malformed fault => fault.message
  | .symbol line cause => s!"line {line}: {cause.message}"

/-- A grammar under construction, and what has been logged on the way. -/
structure Loading where
  grammar : Grammar
  log : Array LogRecord

/-- A text that was given up, and what had been logged by then. -/
structure Rejection where
  cause : LoadError
  log : Array LogRecord

namespace Loading

def report (loading : Loading) (severity : Severity) (message : String) : Loading :=
  { loading with log := loading.log.push ⟨severity, message⟩ }

/-- Registers a name as a terminal symbol on behalf of a line. -/
def terminal (loading : Loading) (number : Nat) (name : String) :
    Except Rejection (Symbol × Loading) :=
  match loading.grammar.terminal name with
  | .ok (symbol, grammar) => .ok (symbol, { loading with grammar })
  | .error cause => .error ⟨.symbol number cause, loading.log⟩

/-- Registers a name as a phrase symbol on behalf of a line. -/
def phrase (loading : Loading) (number : Nat) (name : String) :
    Except Rejection (Symbol × Loading) :=
  match loading.grammar.phrase name with
  | .ok (symbol, grammar) => .ok (symbol, { loading with grammar })
  | .error cause => .error ⟨.symbol number cause, loading.log⟩

def registerCategory (loading : Loading) (numbered : NumberedLine) : Except Rejection Loading :=
  match numbered.line with
  | .lexicon category _ => (loading.terminal numbered.number category).map Prod.snd
  | .rule _ _ => .ok loading

def registerHead (loading : Loading) (numbered : NumberedLine) : Except Rejection Loading :=
  match numbered.line with
  | .lexicon _ _ => .ok loading
  | .rule head _ => (loading.phrase numbered.number head).map Prod.snd

/-- Puts a word of a lexicon line into its category. A word that leaves another category for it is
worth a warning. -/
def addWord (number : Nat) (symbol : Symbol) (category : String) (loading : Loading)
    (word : String) : Loading :=
  let (left, grammar) := loading.grammar.classify word symbol
  let classified := { loading with grammar }
  match left with
  | none => classified
  | some previous =>
    if previous = symbol then classified
    else classified.report .warn
      s!"Line {number}: word '{word}' reclassified from {grammar.categoryName previous} to {category}"

/-- The symbol that a name in a body stands for. A name that no line has registered becomes a phrase
symbol. -/
def bodySymbol (loading : Loading) (number : Nat) (name : String) :
    Except Rejection (Symbol × Loading) :=
  match loading.grammar.symbols.symbol? name with
  | some symbol => .ok (symbol, loading)
  | none =>
    (loading.report .debug s!"Line {number}: '{name}' has no rules or words yet").phrase number name

/-- The symbols that the names of a body stand for. -/
def bodySymbols (number : Nat) : Loading → List String → Except Rejection (List Symbol × Loading)
  | loading, [] => .ok ([], loading)
  | loading, name :: names =>
    match loading.bodySymbol number name with
    | .error rejection => .error rejection
    | .ok (symbol, resolved) =>
      match bodySymbols number resolved names with
      | .error rejection => .error rejection
      | .ok (symbols, loaded) => .ok (symbol :: symbols, loaded)

def defaultWeight : Int := 0

def addAlternative (number : Nat) (head : Symbol) (loading : Loading) (alternative : Alternative) :
    Except Rejection Loading :=
  match bodySymbols number loading alternative.symbols with
  | .error rejection => .error rejection
  | .ok (body, resolved) =>
    .ok { resolved with
      grammar := resolved.grammar.addProduction
        { head, body, weight := alternative.weight.getD defaultWeight,
          note := alternative.note.getD "" } }

def addLine (loading : Loading) (numbered : NumberedLine) : Except Rejection Loading :=
  match numbered.line with
  | .lexicon category words =>
    match loading.terminal numbered.number category with
    | .error rejection => .error rejection
    | .ok (symbol, registered) =>
      .ok (words.foldl (addWord numbered.number symbol category) registered)
  | .rule head alternatives =>
    match loading.phrase numbered.number head with
    | .error rejection => .error rejection
    | .ok (symbol, registered) =>
      alternatives.foldlM (addAlternative numbered.number symbol) registered

/-- Adds what all lines say: first every category, then every head, then the lines in order. -/
def addLines (lines : List NumberedLine) (loading : Loading) : Except Rejection Loading := do
  let categorised ← lines.foldlM registerCategory loading
  let headed ← lines.foldlM registerHead categorised
  lines.foldlM addLine headed

end Loading

/-- The grammar that a text describes, with what was logged while it was loaded. -/
def Grammar.load (text : String) : Except Rejection Loading :=
  match readDocument text.toList with
  | .error fault => .error ⟨.malformed fault, #[]⟩
  | .ok lines => Loading.addLines lines ⟨.empty, #[]⟩

end ChartParsing
