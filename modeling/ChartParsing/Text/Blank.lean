import ChartParsing.Text.Intervals

/-!
Contract: white space, as the Unicode property `White_Space` delimits it.

Owns: the class of blank characters and the removal of blanks at both ends of a text.
-/

set_option autoImplicit false

namespace ChartParsing.Text

def blankIntervals : Intervals := [
    (0x9, 0xD), (0x20, 0x20), (0x85, 0x85), (0xA0, 0xA0), (0x1680, 0x1680), (0x2000, 0x200A),
    (0x2028, 0x2029), (0x202F, 0x202F), (0x205F, 0x205F), (0x3000, 0x3000)]

def isBlank (character : Char) : Bool :=
  blankIntervals.contains character.toNat

def trimStart (text : List Char) : List Char :=
  text.dropWhile isBlank

def trimStop (text : List Char) : List Char :=
  (text.reverse.dropWhile isBlank).reverse

def trim (text : List Char) : List Char :=
  trimStop (trimStart text)

end ChartParsing.Text
