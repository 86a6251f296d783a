import ChartParsing.GrammarText.Reader
import Mathlib.Data.Nat.Digits.Defs

/-!
Contract: the grammar of the lines of a grammar text.

Owns the forms that a line can have, without regard to how a line is read: each form holds every part
of a line, the spacing included, and is the spelling of one text and the meaning of one line. The parts
carry their own well-formedness, so every value is the form of a line.

A rule line is a name, spacing, an arrow and alternatives with bars between them. An alternative is a
list of names, then perhaps a weight, then perhaps a note. A lexicon line is a name, a colon and a list
of words.
-/

set_option autoImplicit false

namespace ChartParsing.GrammarText

open ChartParsing.Text

/-! ### Characters -/

/-- A text of at least one character, all of one class. -/
@[ext]
structure Run (inClass : Char → Bool) where
  text : List Char
  nonempty : text ≠ []
  inside : ∀ character ∈ text, inClass character = true

/-- Spacing between two parts, or none. -/
@[ext]
structure Spaces where
  text : List Char
  inside : ∀ character ∈ text, isSpacing character = true

def noSpaces : Spaces :=
  ⟨[], List.forall_mem_nil _⟩

def isWordChar (character : Char) : Bool :=
  !isBlank character

abbrev NameForm := Run isNameChar

abbrev WordForm := Run isWordChar

/-- Spacing that may not be left out. -/
abbrev Gap := Run isSpacing

/-! ### Alternatives -/

/-- The text of a part that may be absent. -/
def optionalText {Form : Type} (text : Form → List Char) : Option Form → List Char
  | none => []
  | some form => text form

/-- The text of the further parts of a list, each after what separates it from the one before. -/
def furtherText {Between Form : Type} (between : Between → List Char) (text : Form → List Char) :
    List (Between × Form) → List Char
  | [] => []
  | (separation, form) :: others =>
    between separation ++ (text form ++ furtherText between text others)

/-- A decimal number, perhaps with a minus sign. -/
@[ext]
structure NumberForm where
  negative : Bool
  digits : Run Char.isDigit

namespace NumberForm

def sign (number : NumberForm) : List Char :=
  if number.negative then ['-'] else []

def text (number : NumberForm) : List Char :=
  number.sign ++ number.digits.text

def magnitude (number : NumberForm) : Nat :=
  Nat.ofDigits 10 (number.digits.text.reverse.map fun digit => digit.toNat - '0'.toNat)

def value (number : NumberForm) : Int :=
  if number.negative then -(number.magnitude : Int) else number.magnitude

end NumberForm

/-- A weight in brackets, after spacing. -/
@[ext]
structure WeightForm where
  before : Spaces
  inside : Spaces
  number : NumberForm
  behind : Spaces
  bounded : IsWeight number.value

def WeightForm.text (weight : WeightForm) : List Char :=
  weight.before.text ++
    '[' :: (weight.inside.text ++ (weight.number.text ++ (weight.behind.text ++ [']'])))

/-- A note in braces, after spacing. It may hold anything but a closing brace. -/
@[ext]
structure NoteForm where
  before : Spaces
  note : List Char
  unclosed : '\x7d' ∉ note

def NoteForm.text (note : NoteForm) : List Char :=
  note.before.text ++ '\x7b' :: (note.note ++ ['\x7d'])

@[ext]
structure AlternativeForm where
  first : NameForm
  others : List (Gap × NameForm)
  weight : Option WeightForm
  note : Option NoteForm

namespace AlternativeForm

/-- What follows the names of an alternative. -/
def tail (form : AlternativeForm) : List Char :=
  optionalText WeightForm.text form.weight ++ optionalText NoteForm.text form.note

def text (form : AlternativeForm) : List Char :=
  form.first.text ++ (furtherText Run.text Run.text form.others ++ form.tail)

def alternative (form : AlternativeForm) : Alternative where
  symbols := String.ofList form.first.text ::
    form.others.map fun other => String.ofList other.2.text
  weight := form.weight.map fun weight => weight.number.value
  note := form.note.map fun note => String.ofList note.note

end AlternativeForm

/-! ### Lines -/

/-- A bar between two alternatives, with the spacing around it. -/
@[ext]
structure BarForm where
  before : Spaces
  behind : Spaces

def BarForm.text (bar : BarForm) : List Char :=
  bar.before.text ++ '|' :: bar.behind.text

@[ext]
structure RuleForm where
  head : NameForm
  beforeArrow : Gap
  afterArrow : Spaces
  first : AlternativeForm
  others : List (BarForm × AlternativeForm)
  trailing : Spaces

namespace RuleForm

/-- The alternatives, and the spacing at the end of the line. -/
def alternativesText (form : RuleForm) : List Char :=
  form.first.text ++ (furtherText BarForm.text AlternativeForm.text form.others ++ form.trailing.text)

def text (form : RuleForm) : List Char :=
  form.head.text ++
    (form.beforeArrow.text ++ '-' :: '>' :: (form.afterArrow.text ++ form.alternativesText))

def line (form : RuleForm) : Line :=
  .rule (String.ofList form.head.text)
    (form.first.alternative :: form.others.map fun other => other.2.alternative)

end RuleForm

/-- The words of a lexicon line, and the spacing at the end of the line. -/
@[ext]
structure WordsForm where
  first : WordForm
  others : List (Gap × WordForm)
  trailing : Spaces

namespace WordsForm

def text (form : WordsForm) : List Char :=
  form.first.text ++ (furtherText Run.text Run.text form.others ++ form.trailing.text)

def words (form : WordsForm) : List String :=
  String.ofList form.first.text :: form.others.map fun other => String.ofList other.2.text

end WordsForm

/-- A lexicon line. When it has no words, the spacing at its end is the spacing after its colon. -/
@[ext]
structure LexiconForm where
  category : NameForm
  beforeColon : Spaces
  afterColon : Spaces
  words : Option WordsForm

namespace LexiconForm

def text (form : LexiconForm) : List Char :=
  form.category.text ++
    (form.beforeColon.text ++
      ':' :: (form.afterColon.text ++ optionalText WordsForm.text form.words))

def line (form : LexiconForm) : Line :=
  .lexicon (String.ofList form.category.text) ((form.words.map WordsForm.words).getD [])

end LexiconForm

inductive LineForm where
  | rule (form : RuleForm)
  | lexicon (form : LexiconForm)

namespace LineForm

/-- The text that a form spells. -/
def text : LineForm → List Char
  | rule form => form.text
  | lexicon form => form.text

/-- What a line of the form says. -/
def line : LineForm → Line
  | rule form => form.line
  | lexicon form => form.line

end LineForm

end ChartParsing.GrammarText
