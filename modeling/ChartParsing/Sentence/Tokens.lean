import ChartParsing.Text.Blank

/-!
Contract: the words of a line of running text.

Owns the cutting of a text into tokens: blanks separate tokens and belong to none, each punctuation
character is a token of its own, and every longest run of other characters is one token.
-/

set_option autoImplicit false

namespace ChartParsing.Sentence

open ChartParsing.Text

def punctuation : List Char := [',', '.', ';', ':', '!', '?', '\x22', '(', ')']

/-- Whether a character is a token of its own. -/
def isPunctuation (character : Char) : Bool :=
  punctuation.contains character

/-- The token made of the characters collected so far, newest first, if there are any. -/
def collected : List Char → List String
  | [] => []
  | newest :: older => [String.ofList (newest :: older).reverse]

/-- The tokens of a text whose current token has begun with the given characters, newest first. -/
def tokensFrom (current : List Char) : List Char → List String
  | [] => collected current
  | character :: rest =>
    if isBlank character then collected current ++ tokensFrom [] rest
    else if isPunctuation character then
      collected current ++ String.ofList [character] :: tokensFrom [] rest
    else tokensFrom (character :: current) rest

/-- The tokens of a text. -/
def tokens (text : String) : List String :=
  tokensFrom [] text.toList

def spaced (words : List String) : String :=
  " ".intercalate words

end ChartParsing.Sentence
