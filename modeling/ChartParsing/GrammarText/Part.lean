/-!
Contract: the parts that a line of a grammar text is read in.

Owns parts as readers of a character list, and what is made of them: parts one after the other, runs of
characters of one class, lists of items with separators between them, and parts that may be absent. A
part answers with its value and the text behind it, or with the text at which it fails; either is an end
of the text it is given. So a sequence fails where the first of its parts fails. What may be absent, or
repeated, is given up without a trace when it does not fit: the text before it is left to what follows.
-/

set_option autoImplicit false

namespace ChartParsing.GrammarText

/-- A part of a line. Reading it answers with its value and the text behind it, or with the text at which
it fails. -/
structure Part (α : Type) where
  read : List Char → Except (List Char) (α × List Char)
  rest_suffix : ∀ {text rest : List Char} {value : α}, read text = .ok (value, rest) → rest <:+ text
  fault_suffix : ∀ {text left : List Char}, read text = .error left → left <:+ text

namespace Part

/-! ### Sequences -/

/-- The part that takes nothing. -/
def nothing {α : Type} (value : α) : Part α where
  read text := .ok (value, text)
  rest_suffix := by
    intro text rest other found
    obtain ⟨rfl, rfl⟩ := Prod.mk.inj (Except.ok.inj found)
    exact List.suffix_refl text
  fault_suffix := by
    intro text left failed
    cases failed

/-- A part, and what is read behind it. -/
def followedBy {α β : Type} (first : Part α) (next : α → Part β) : Part β where
  read text :=
    match first.read text with
    | .error left => .error left
    | .ok (value, rest) => (next value).read rest
  rest_suffix := by
    intro text rest value found
    cases firstRead : first.read text with
    | error left =>
      rw [firstRead] at found
      cases found
    | ok pair =>
      rw [firstRead] at found
      exact ((next pair.1).rest_suffix found).trans (first.rest_suffix firstRead)
  fault_suffix := by
    intro text left failed
    cases firstRead : first.read text with
    | error firstLeft =>
      rw [firstRead] at failed
      exact Except.error.inj failed ▸ first.fault_suffix firstRead
    | ok pair =>
      rw [firstRead] at failed
      exact ((next pair.1).fault_suffix failed).trans (first.rest_suffix firstRead)

instance : Monad Part where
  pure := nothing
  bind := followedBy

theorem read_bind {α β : Type} (first : Part α) (next : α → Part β) (text : List Char) :
    (first >>= next).read text =
      match first.read text with
      | .error left => .error left
      | .ok (value, rest) => (next value).read rest :=
  rfl

/-- What is read in sequence was read one after the other. -/
theorem exists_of_read_bind {α β : Type} {first : Part α} {next : α → Part β} {text rest : List Char}
    {value : β} (found : (first >>= next).read text = .ok (value, rest)) :
    ∃ firstValue middle, first.read text = .ok (firstValue, middle) ∧
      (next firstValue).read middle = .ok (value, rest) := by
  rw [read_bind] at found
  cases firstRead : first.read text with
  | error left =>
    rw [firstRead] at found
    cases found
  | ok pair =>
    rw [firstRead] at found
    exact ⟨pair.1, pair.2, rfl, found⟩

/-! ### Choices -/

/-- What is made of the value of a part, unless the value is refused. A refusal stands where the part
begins. -/
def checked {α β : Type} (part : Part α) (check? : α → Option β) : Part β where
  read text :=
    match part.read text with
    | .error left => .error left
    | .ok (value, rest) =>
      match check? value with
      | none => .error text
      | some result => .ok (result, rest)
  rest_suffix := by
    intro text rest value found
    split at found
    case h_1 => cases found
    case h_2 read =>
      split at found
      case h_1 => cases found
      case h_2 =>
        rw [← (Prod.mk.inj (Except.ok.inj found)).2]
        exact part.rest_suffix read
  fault_suffix := by
    intro text left failed
    split at failed
    case h_1 read => exact Except.error.inj failed ▸ part.fault_suffix read
    case h_2 read =>
      split at failed
      case h_1 => exact Except.error.inj failed ▸ List.suffix_refl text
      case h_2 => cases failed

/-- A part that may be absent. -/
def optional {α : Type} (part : Part α) : Part (Option α) where
  read text :=
    match part.read text with
    | .error _ => .ok (none, text)
    | .ok (value, rest) => .ok (some value, rest)
  rest_suffix := by
    intro text rest value found
    split at found
    case h_1 => exact (Prod.mk.inj (Except.ok.inj found)).2 ▸ List.suffix_refl text
    case h_2 read => exact (Prod.mk.inj (Except.ok.inj found)).2 ▸ part.rest_suffix read
  fault_suffix := by
    intro text left failed
    split at failed
    case h_1 => cases failed
    case h_2 => cases failed

/-- A part, or another one when it does not fit. Where neither does, the other one tells the place. -/
def orElse {α : Type} (part other : Part α) : Part α where
  read text :=
    match part.read text with
    | .error _ => other.read text
    | .ok (value, rest) => .ok (value, rest)
  rest_suffix := by
    intro text rest value found
    split at found
    case h_1 => exact other.rest_suffix found
    case h_2 read => exact (Prod.mk.inj (Except.ok.inj found)).2 ▸ part.rest_suffix read
  fault_suffix := by
    intro text left failed
    split at failed
    case h_1 => exact other.fault_suffix failed
    case h_2 => cases failed

end Part

/-! ### Characters -/

/-- The characters that separate the parts of a line. -/
def isSpacing (character : Char) : Bool :=
  character = ' ' || character = '\t'

def skipSpacing (text : List Char) : List Char :=
  text.dropWhile isSpacing

/-- Any number of spacing characters. -/
def spacing : Part Unit where
  read text := .ok ((), skipSpacing text)
  rest_suffix := by
    intro text rest value found
    rw [← (Prod.mk.inj (Except.ok.inj found)).2]
    exact List.dropWhile_suffix isSpacing
  fault_suffix := by
    intro text left failed
    cases failed

/-- A part with any spacing before it. -/
def spaced {α : Type} (part : Part α) : Part α := do
  spacing
  part

/-- Given characters, in order. -/
def literal (sign : List Char) : Part Unit where
  read text := if sign.isPrefixOf text then .ok ((), text.drop sign.length) else .error text
  rest_suffix := by
    intro text rest value found
    split at found
    case isTrue =>
      rw [← (Prod.mk.inj (Except.ok.inj found)).2]
      exact List.drop_suffix _ _
    case isFalse => cases found
  fault_suffix := by
    intro text left failed
    split at failed
    case isTrue => cases failed
    case isFalse => exact Except.error.inj failed ▸ List.suffix_refl text

/-- The longest run of characters of one class, which must not be empty. -/
def run (inClass : Char → Bool) : Part String where
  read text :=
    match text.takeWhile inClass with
    | [] => .error text
    | taken => .ok (String.ofList taken, text.dropWhile inClass)
  rest_suffix := by
    intro text rest value found
    split at found
    case h_1 => cases found
    case h_2 =>
      rw [← (Prod.mk.inj (Except.ok.inj found)).2]
      exact List.dropWhile_suffix inClass
  fault_suffix := by
    intro text left failed
    split at failed
    case h_1 => exact Except.error.inj failed ▸ List.suffix_refl text
    case h_2 => cases failed

/-- All characters before the first one of a kind, or all there are. -/
def upTo (sign : Char) : Part String where
  read text := .ok (String.ofList (text.takeWhile (· ≠ sign)), text.dropWhile (· ≠ sign))
  rest_suffix := by
    intro text rest value found
    rw [← (Prod.mk.inj (Except.ok.inj found)).2]
    exact List.dropWhile_suffix _
  fault_suffix := by
    intro text left failed
    cases failed

/-! ### Lists -/

/-- What stands between two items of a list, and is never empty. -/
structure Separator where
  part : Part Unit
  length_lt : ∀ {text rest : List Char}, part.read text = .ok ((), rest) → rest.length < text.length

/-- At least one spacing character, and all that follow. -/
def gap : Separator where
  part := do
    let _ ← run isSpacing
    pure ()
  length_lt := by
    intro text rest passed
    obtain ⟨taken, middle, taking, same⟩ := Part.exists_of_read_bind passed
    obtain rfl := (Prod.mk.inj (Except.ok.inj same)).2
    simp only [run] at taking
    split at taking
    case h_1 => cases taking
    case h_2 some =>
      have whole := congrArg List.length (List.takeWhile_append_dropWhile (p := isSpacing) (l := text))
      have shorter := List.length_pos_iff.2 some
      rw [List.length_append, (Prod.mk.inj (Except.ok.inj taking)).2] at whole
      omega

/-- The bar between the alternatives of a rule line, with any spacing around it. -/
def bar : Separator where
  part := do
    spacing
    literal ['|']
    spacing
  length_lt := by
    intro text rest passed
    obtain ⟨_, atBar, before, passedBar⟩ := Part.exists_of_read_bind passed
    obtain ⟨_, behindBar, taking, behind⟩ := Part.exists_of_read_bind passedBar
    have noLonger := (spacing.rest_suffix before).length_le
    have alsoNoLonger := (spacing.rest_suffix behind).length_le
    simp only [literal] at taking
    split at taking
    case isTrue isPrefix =>
      have longer := (List.isPrefixOf_iff_prefix.1 isPrefix).length_le
      have shorter := congrArg List.length (Prod.mk.inj (Except.ok.inj taking)).2
      rw [List.length_drop, List.length_singleton] at shorter
      rw [List.length_singleton] at longer
      omega
    case isFalse => cases taking

/-- Further items, each after a separator. The list stops before the first separator that no item
follows. -/
def furtherItems {α : Type} (separator : Separator) (item : Part α) (text : List Char) :
    List α × List Char :=
  match _passed : separator.part.read text with
  | .error _ => ([], text)
  | .ok ((), afterSeparator) =>
    match _found : item.read afterSeparator with
    | .error _ => ([], text)
    | .ok (first, afterFirst) =>
      let (others, rest) := furtherItems separator item afterFirst
      (first :: others, rest)
termination_by text.length
decreasing_by
  have shorter := separator.length_lt _passed
  have noLonger := (item.rest_suffix _found).length_le
  omega

/-- Further items leave an end of the text they are read from. -/
theorem furtherItems_suffix {α : Type} (separator : Separator) (item : Part α) (text : List Char) :
    (furtherItems separator item text).2 <:+ text := by
  fun_induction furtherItems separator item text with
  | case1 text => exact List.suffix_refl text
  | case2 text => exact List.suffix_refl text
  | case3 text afterSeparator passed first afterFirst found others rest same inductionHypothesis =>
    rw [same] at inductionHypothesis
    exact inductionHypothesis.trans
      ((item.rest_suffix found).trans (separator.part.rest_suffix passed))

/-- The items of a list behind its first one. -/
def further {α : Type} (separator : Separator) (item : Part α) : Part (List α) where
  read text := .ok (furtherItems separator item text)
  rest_suffix := by
    intro text rest value found
    have suffix := furtherItems_suffix separator item text
    rw [Except.ok.inj found] at suffix
    exact suffix
  fault_suffix := by
    intro text left failed
    cases failed

/-- A list of at least one item. -/
def items {α : Type} (separator : Separator) (item : Part α) : Part (List α) := do
  let first ← item
  let others ← further separator item
  pure (first :: others)

/-- A list of any number of items. -/
def anyItems {α : Type} (separator : Separator) (item : Part α) : Part (List α) := do
  let listed ← (items separator item).optional
  pure (listed.getD [])

end ChartParsing.GrammarText
