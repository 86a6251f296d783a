import ChartParsing.GrammarText.Reader
import ChartParsing.Text.Lines
import ChartParsing.Text.Quoted

/-!
Contract: the lines of a whole grammar text.

Owns which physical lines count: a line is read without the white space at its ends, and one that is
empty then, or begins with `#`, says nothing. Owns the report of the first line that cannot be read.
-/

set_option autoImplicit false

namespace ChartParsing.GrammarText

open ChartParsing.Text

/-- The place at which a line cannot be read on. -/
structure SyntaxFault where
  /-- The line, counted from 1. -/
  line : Nat
  /-- The byte at which reading fails, counted from 1 in the line without the white space at its
  ends. -/
  column : Nat
  /-- The beginning of what stands there. -/
  found : String
deriving DecidableEq, Repr

def SyntaxFault.message (fault : SyntaxFault) : String :=
  s!"syntax error on line {fault.line}, column {fault.column}: unexpected {quoted fault.found}"

/-- How much of the unread text a report shows. -/
def foundLength : Nat := 16

/-- The number of bytes of a text in UTF-8. -/
def byteLength : List Char → Nat
  | [] => 0
  | char :: others => char.utf8Size + byteLength others

/-- Whether a line, without the white space at its ends, says something about the grammar. -/
def isSignificant : List Char → Bool
  | [] => false
  | first :: _ => first ≠ '#'

/-- The report of a line that fails with the given text left. -/
def SyntaxFault.ofRest (number : Nat) (text rest : List Char) : SyntaxFault where
  line := number
  column := byteLength text - byteLength rest + 1
  found := String.ofList (rest.take foundLength)

/-- Reads numbered lines in order, up to the first that fails. -/
def readNumbered : List (Nat × List Char) → Except SyntaxFault (List NumberedLine)
  | [] => .ok []
  | (number, raw) :: others =>
    let text := trim raw
    if isSignificant text then
      match readLine text with
      | .error rest => .error (SyntaxFault.ofRest number text rest)
      | .ok line =>
        match readNumbered others with
        | .error fault => .error fault
        | .ok lines => .ok (⟨number, line⟩ :: lines)
    else readNumbered others

def readDocument (text : List Char) : Except SyntaxFault (List NumberedLine) :=
  readNumbered (numberedLines text)

end ChartParsing.GrammarText
