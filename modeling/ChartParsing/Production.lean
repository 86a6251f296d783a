import ChartParsing.Symbol

/-!
Contract: what a chart row can be a row of.

Owns the productions of a grammar and the three kinds of rule: a production, a word (or no word)
matched by a terminal symbol, and the seed, which expects one sentence. A dot position of a rule
counts the constituents matched so far.
-/

set_option autoImplicit false

namespace ChartParsing

/-- A production of a grammar: its head is made of the symbols of its body, in order. -/
structure Production where
  head : Symbol
  body : List Symbol
  weight : Int
  note : String
deriving DecidableEq, Repr

/-- What is being matched. -/
inductive Rule where
  /-- A production of the grammar. -/
  | phrase (production : Production)
  /-- A match of a terminal symbol: with a word, or with the empty text where no word is matched. -/
  | terminal (category : Symbol) (word : String)
  /-- The rule that expects the root symbol once. -/
  | seed
deriving DecidableEq, Repr

namespace Rule

/-- The symbol that a match of the rule is a constituent of. -/
def head : Rule → Symbol
  | .phrase production => production.head
  | .terminal category _ => category
  | .seed => .root

/-- The weight of the rule; only productions have one that counts. -/
def weight : Rule → Int
  | .phrase production => production.weight
  | _ => 0

/-- The note on the rule; only productions have one. -/
def note : Rule → String
  | .phrase production => production.note
  | _ => ""

def body : Rule → List Symbol
  | .phrase production => production.body
  | _ => []

def word? : Rule → Option String
  | .terminal _ word => some word
  | _ => none

def isPhrase : Rule → Bool
  | .phrase _ => true
  | _ => false

def isTerminal : Rule → Bool
  | .terminal _ _ => true
  | _ => false

def isSeed : Rule → Bool
  | .seed => true
  | _ => false

/-- How many constituents a full match has. The word of a terminal match counts as one. -/
def arity : Rule → Nat
  | .phrase production => production.body.length
  | .terminal _ _ => 1
  | .seed => 1

/-- The symbol expected at a dot position. A terminal match never expects any. -/
def symbolAt? (dot : Nat) : Rule → Option Symbol
  | .phrase production => production.body[dot]?
  | .terminal _ _ => none
  | .seed => if dot = 0 then some .root else none

end Rule

end ChartParsing
