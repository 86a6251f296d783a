/-!
Contract: grammar symbols.

Owns the two kinds of symbol and the reserved ones. A terminal symbol is a category of words, a
phrase symbol a category of word sequences; the number of a symbol alone decides which it is.
-/

set_option autoImplicit false

namespace ChartParsing

/-- A grammar symbol, known by its number. -/
structure Symbol where
  id : Nat
deriving DecidableEq, Repr

/-- The two kinds of symbol. -/
inductive SymbolKind where
  | terminal
  | phrase
deriving DecidableEq, Repr

/-- The word for a kind of symbol in messages. -/
def SymbolKind.name : SymbolKind → String
  | .terminal => "terminal"
  | .phrase => "phrase"

namespace Symbol

/-- The smallest number of a phrase symbol; all numbers below it are terminal. -/
def phraseBase : Nat := 1048576

/-- Whether a symbol is a category of word sequences. -/
def isPhrase (symbol : Symbol) : Bool :=
  phraseBase ≤ symbol.id

def isTerminal (symbol : Symbol) : Bool :=
  !symbol.isPhrase

def kind (symbol : Symbol) : SymbolKind :=
  if symbol.isPhrase then .phrase else .terminal

/-- The terminal symbol that matches no word at all. -/
def empty : Symbol := ⟨0⟩

/-- The terminal symbol that matches any single word; also the category of unlisted words. -/
def unknown : Symbol := ⟨1⟩

def root : Symbol := ⟨phraseBase⟩

end Symbol

end ChartParsing
