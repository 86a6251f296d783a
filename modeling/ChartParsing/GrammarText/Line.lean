/-!
Contract: the lines a grammar text is made of.

Owns the two kinds of line: a rule line `HEAD -> A B [weight] {note} | C ...` gives a phrase
category its alternatives, and a lexicon line `CATEGORY : word word ...` puts words into a terminal
category. Which characters spell them is the reader's matter.
-/

set_option autoImplicit false

namespace ChartParsing.GrammarText

/-- One alternative of a rule line: the symbols it is made of, and the weight and the note that may
follow them. -/
structure Alternative where
  symbols : List String
  weight : Option Int
  note : Option String
deriving DecidableEq, Repr

/-- A line that says something about the grammar. -/
inductive Line where
  | rule (head : String) (alternatives : List Alternative)
  | lexicon (category : String) (words : List String)
deriving DecidableEq, Repr

/-- A line together with its place in the text, counted from 1. -/
structure NumberedLine where
  number : Nat
  line : Line
deriving DecidableEq, Repr

end ChartParsing.GrammarText
