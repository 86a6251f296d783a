import ChartParsing.Text.Unshown

/-!
Contract: the quoted form in which messages and row descriptions show a text.

Owns: the escapes. A double quote and a backslash are preceded by a backslash; line feed, carriage
return, tab and NUL have short escapes; any other character that cannot be shown on its own is
written by its code point in lower-case hexadecimal. A single quote stays as it is.
-/

set_option autoImplicit false

namespace ChartParsing.Text

/-- The escape of a character by its code point, without leading zeros. -/
def codePointEscape (character : Char) : List Char :=
  ['\\', 'u', '\x7b'] ++ Nat.toDigits 16 character.toNat ++ ['\x7d']

def quotedChar (character : Char) : List Char :=
  match character with
  | '"' => ['\\', '"']
  | '\\' => ['\\', '\\']
  | '\n' => ['\\', 'n']
  | '\r' => ['\\', 'r']
  | '\t' => ['\\', 't']
  | '\x00' => ['\\', '0']
  | _ => if isUnshown character then codePointEscape character else [character]

def quoted (text : String) : String :=
  String.ofList ('"' :: text.toList.flatMap quotedChar ++ ['"'])

end ChartParsing.Text
