import ChartParsing.Production
import ChartParsing.Symbol.Table
import Std.Data.TreeMap

/-!
Contract: weighted context-free grammars with a lexicon.

Owns the grammar as it stands after any number of additions: the named symbols, the productions in
the order in which they were added, and the category of every listed word. Nothing is asked of the
symbols of a production; whether the grammar can be parsed with is checked elsewhere.
-/

set_option autoImplicit false

namespace ChartParsing

/-- A weighted context-free grammar with a lexicon. -/
structure Grammar where
  symbols : SymbolTable
  productions : Array Production
  lexicon : Std.TreeMap String Symbol

namespace Grammar

/-- The grammar that knows the reserved symbols and nothing else. -/
def empty : Grammar where
  symbols := .reserved
  productions := #[]
  lexicon := ∅

/-! ## Questions -/

/-- The name shown for a symbol without a name. -/
def namelessText : String := "?"

/-- The name of a symbol, or a question mark when it has none. -/
def categoryName (grammar : Grammar) (symbol : Symbol) : String :=
  (grammar.symbols.name? symbol).getD namelessText

/-- The category of a word; an unlisted word has the category of unknown words. -/
def wordCategory (grammar : Grammar) (word : String) : Symbol :=
  (grammar.lexicon[word]?).getD .unknown

/-- The productions with a head, in the order in which they were added. -/
def productionsOf (grammar : Grammar) (head : Symbol) : List Production :=
  grammar.productions.toList.filter fun production => production.head = head

theorem mem_productionsOf {grammar : Grammar} {head : Symbol} {production : Production} :
    production ∈ grammar.productionsOf head ↔
      production ∈ grammar.productions.toList ∧ production.head = head := by
  rw [productionsOf, List.mem_filter, decide_eq_true_iff]

def ruleCount (grammar : Grammar) : Nat :=
  grammar.productions.size

def wordCount (grammar : Grammar) : Nat :=
  grammar.lexicon.size

/-! ## Additions -/

/-- Registers a name as a symbol of a kind. -/
def register (grammar : Grammar) (kind : SymbolKind) (name : String) :
    Except SymbolError Symbol × Grammar :=
  let (answer, symbols) := grammar.symbols.register kind name
  (answer, { grammar with symbols })

/-- The result of a registration for those who give up when it is refused. -/
def granted : Except SymbolError Symbol × Grammar → Except SymbolError (Symbol × Grammar)
  | (.ok symbol, grammar) => .ok (symbol, grammar)
  | (.error cause, _) => .error cause

/-- The terminal symbol with a name, registered now if it was not before. -/
def terminal (grammar : Grammar) (name : String) : Except SymbolError (Symbol × Grammar) :=
  granted (grammar.register .terminal name)

/-- The phrase symbol with a name, registered now if it was not before. -/
def phrase (grammar : Grammar) (name : String) : Except SymbolError (Symbol × Grammar) :=
  granted (grammar.register .phrase name)

/-- Puts a word into a category, and tells which category it leaves. -/
def classify (grammar : Grammar) (word : String) (category : Symbol) : Option Symbol × Grammar :=
  (grammar.lexicon[word]?, { grammar with lexicon := grammar.lexicon.insert word category })

def addProduction (grammar : Grammar) (production : Production) : Grammar :=
  { grammar with productions := grammar.productions.push production }

end Grammar

end ChartParsing
