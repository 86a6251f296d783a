/-!
Contract: the physical lines of a text.

Owns: cutting a text after each line feed. A carriage return right before a line feed belongs to
the line break; any other carriage return stays in its line. A text that ends in a line feed has no
empty line after it.
-/

set_option autoImplicit false

namespace ChartParsing.Text

/-- The characters of a line read so far, newest first, without a carriage return at their end. -/
def withoutReturn : List Char → List Char
  | '\r' :: earlier => earlier
  | earlier => earlier

/-- The lines of a text whose current line has begun with the given characters, newest first. -/
def linesFrom (current : List Char) : List Char → List (List Char)
  | [] => if current.isEmpty then [] else [current.reverse]
  | character :: rest =>
    if character = '\n' then (withoutReturn current).reverse :: linesFrom [] rest
    else linesFrom (character :: current) rest

/-- The lines of a text, without their line breaks. -/
def lines (text : List Char) : List (List Char) :=
  linesFrom [] text

/-- The lines of a text, each with its number; the first line has number 1. -/
def numberedLines (text : List Char) : List (Nat × List Char) :=
  (lines text).zipIdx 1 |>.map fun (line, number) => (number, line)

end ChartParsing.Text
