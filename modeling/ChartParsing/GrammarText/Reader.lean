import ChartParsing.GrammarText.Line
import ChartParsing.GrammarText.Part
import ChartParsing.Text.Alphanumeric
import ChartParsing.Text.Blank

/-!
Contract: reading one line of a grammar text.

Owns the spelling of lines. A name is a run of letters, numerals and a few signs, as long as it can
be. Between the parts of a line stand spaces and tabs only; the words of a lexicon line are runs
without white space. A weight is a signed decimal number in brackets, a note is any text without a
closing brace in braces.

A text that is no lexicon line is read as a rule line. A line fails where its parts do, or at whatever
is left at its end.
-/

set_option autoImplicit false

namespace ChartParsing.GrammarText

open ChartParsing.Text

/-! ### Names and words -/

/-- The signs that a name may hold: `_`, `-`, `$`, `.`, `,`, the single quote, the backtick, `&`,
`*`, `+` and `/`. -/
def nameSigns : List Char :=
  ['_', '-', '$', '.', ',', '\x27', '\x60', '&', '*', '+', '/']

def isNameChar (character : Char) : Bool :=
  isAlphanumeric character || nameSigns.contains character

def name : Part String := run isNameChar

def word : Part String := run fun character => !isBlank character

/-! ### Weights and notes -/

def IsWeight (value : Int) : Prop :=
  -2147483648 ≤ value ∧ value ≤ 2147483647

instance (value : Int) : Decidable (IsWeight value) := by
  unfold IsWeight
  infer_instance

def decimalValue (digits : List Char) : Nat :=
  digits.foldl (fun value digit => 10 * value + (digit.toNat - '0'.toNat)) 0

/-- A decimal number, perhaps with a minus sign. -/
def integer : Part Int := do
  let sign ← (literal ['-']).optional
  let digits ← run Char.isDigit
  let magnitude : Int := decimalValue digits.toList
  pure (if sign.isSome then -magnitude else magnitude)

def weight : Part Int := do
  literal ['[']
  spacing
  let value ← integer.checked fun value => if IsWeight value then some value else none
  spacing
  literal [']']
  pure value

def note : Part String := do
  literal ['\x7b']
  let text ← upTo '\x7d'
  literal ['\x7d']
  pure text

/-! ### Lines -/

/-- The symbols, the weight and the note of an alternative. -/
def alternative : Part Alternative := do
  let symbols ← items gap name
  let weight ← (spaced weight).optional
  let note ← (spaced note).optional
  pure ⟨symbols, weight, note⟩

def ruleLine : Part Line := do
  let head ← name
  spacing
  literal ['-', '>']
  spacing
  let alternatives ← items bar alternative
  pure (.rule head alternatives)

def lexiconLine : Part Line := do
  let category ← name
  spacing
  literal [':']
  spacing
  let words ← anyItems gap word
  pure (.lexicon category words)

def grammarLine : Part Line := do
  let line ← lexiconLine.orElse ruleLine
  spacing
  pure line

/-- Reads a whole line. The error is the text that is left where the line fails. -/
def readLine (text : List Char) : Except (List Char) Line :=
  match grammarLine.read text with
  | .error left => .error left
  | .ok (line, []) => .ok line
  | .ok (_, left) => .error left

end ChartParsing.GrammarText
