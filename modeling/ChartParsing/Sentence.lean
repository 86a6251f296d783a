/-!
Contract: what a parse reads.

Owns the sentence as a parse sees it: its words, and the positions at which asking for the word
raises the stop flag of the running parse.
-/

set_option autoImplicit false

namespace ChartParsing

/-- A sentence to be parsed. -/
structure Sentence where
  words : List String
  /-- Whether the parse is to be stopped when it asks for the word at a position. -/
  stopsAt : Nat → Bool := fun _ => false

/-- Whether asking for the word at a position raises the stop flag. There is no word to ask for at
the end of the sentence. -/
def Sentence.raisesStop (sentence : Sentence) (position : Nat) : Bool :=
  position < sentence.words.length && sentence.stopsAt position

end ChartParsing
