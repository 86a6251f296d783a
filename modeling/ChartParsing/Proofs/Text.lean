import ChartParsing.Text.Blank
import ChartParsing.Text.Lines
import Mathlib.Data.List.TakeWhile

/-!
Contract: the characters of texts.

Owns which characters are left of a text when it is cut into lines and when the white space at the ends
of a line is removed. There is no line feed in a line, and the lines of a text that ends in a line feed
stay the same when more text follows.
-/

set_option autoImplicit false

namespace ChartParsing.Text

theorem ofList_ne_empty {text : List Char} (nonempty : text ≠ []) : String.ofList text ≠ "" := by
  rw [← String.ofList_nil]
  exact fun same => nonempty (String.ofList_injective same)

theorem withoutReturn_suffix (current : List Char) : withoutReturn current <:+ current := by
  unfold withoutReturn
  split
  · exact List.suffix_cons _ _
  · exact List.suffix_refl _

theorem newline_not_mem_of_mem_linesFrom {current text line : List Char} (clean : '\n' ∉ current)
    (member : line ∈ linesFrom current text) : '\n' ∉ line := by
  induction text generalizing current with
  | nil =>
    unfold linesFrom at member
    split at member
    · exact absurd member List.not_mem_nil
    · rw [List.mem_singleton.1 member, List.mem_reverse]
      exact clean
  | cons character rest inductionHypothesis =>
    unfold linesFrom at member
    split at member
    case isTrue =>
      rcases List.mem_cons.1 member with rfl | later
      · rw [List.mem_reverse]
        exact fun inLine => clean ((withoutReturn_suffix current).mem inLine)
      · exact inductionHypothesis List.not_mem_nil later
    case isFalse inside =>
      refine inductionHypothesis ?_ member
      rw [List.mem_cons]
      exact not_or.2 ⟨Ne.symm inside, clean⟩

/-- There is no line feed in a line. -/
theorem newline_not_mem_of_mem_lines {text line : List Char} (member : line ∈ lines text) :
    '\n' ∉ line :=
  newline_not_mem_of_mem_linesFrom List.not_mem_nil member

theorem linesFrom_append_newline (current before rest : List Char) :
    linesFrom current (before ++ '\n' :: rest) =
      linesFrom current (before ++ ['\n']) ++ lines rest := by
  induction before generalizing current with
  | nil => simp [linesFrom, lines]
  | cons character others inductionHypothesis =>
    simp only [List.cons_append, linesFrom]
    split
    case isTrue => rw [inductionHypothesis, List.cons_append]
    case isFalse => rw [inductionHypothesis]

/-- A text that ends in a line feed, or is empty, keeps its lines when more text follows. -/
theorem lines_append {first : List Char}
    (ends : first = [] ∨ ∃ before, first = before ++ ['\n']) (second : List Char) :
    lines (first ++ second) = lines first ++ lines second := by
  rcases ends with rfl | ⟨before, rfl⟩
  · rfl
  · rw [List.append_assoc]
    exact linesFrom_append_newline [] before second

theorem map_numberedLines (text : List Char) : (numberedLines text).map Prod.snd = lines text := by
  rw [numberedLines, List.map_map]
  exact List.zipIdx_map_fst 1 (lines text)

theorem trim_subset (text : List Char) : trim text ⊆ text := by
  intro character member
  have inReverse := (List.dropWhile_suffix isBlank).mem (List.mem_reverse.1 member)
  exact (List.dropWhile_suffix isBlank).mem (List.mem_reverse.1 inReverse)

/-- Only blanks are trimmed away altogether. -/
theorem trim_eq_nil_iff {text : List Char} :
    trim text = [] ↔ ∀ character ∈ text, isBlank character = true := by
  constructor
  · intro nothing
    have rest : ∀ character ∈ trimStart text, isBlank character = true := by
      have dropped := List.reverse_eq_nil_iff.1 nothing
      intro character member
      exact List.dropWhile_eq_nil_iff.1 dropped character (List.mem_reverse.2 member)
    apply List.dropWhile_eq_nil_iff.1
    cases begins : text.dropWhile isBlank with
    | nil => rfl
    | cons first others =>
      have notBlank := List.head?_dropWhile_not isBlank text
      have blank := rest first (by rw [trimStart, begins]; exact List.mem_cons_self)
      rw [begins] at notBlank
      exact absurd (notBlank.symm.trans blank) Bool.false_ne_true
  · intro blank
    rw [trim, trimStart, List.dropWhile_eq_nil_iff.2 blank]
    rfl

end ChartParsing.Text
