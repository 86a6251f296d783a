import ChartParsing.Proofs.Text
import ChartParsing.Sentence.Tokens

/-!
Contract: the tokens of a text.

Owns what a token is: a punctuation character, or a run of characters that are neither blank nor
punctuation. Every token of a text is one of these.
-/

set_option autoImplicit false

namespace ChartParsing.Sentence

open ChartParsing.Text

/-- A character that is neither blank nor a token of its own. -/
def IsPlain (character : Char) : Prop :=
  isBlank character = false ∧ isPunctuation character = false

def IsToken (word : String) : Prop :=
  (∃ mark, isPunctuation mark = true ∧ word = String.ofList [mark]) ∨
    word ≠ "" ∧ ∀ character ∈ word.toList, IsPlain character

theorem isBlank_of_isPunctuation {character : Char} (mark : isPunctuation character = true) :
    isBlank character = false := by
  have none : punctuation.all fun character => !isBlank character := by decide
  have member : character ∈ punctuation := List.contains_iff_mem.1 mark
  simpa using List.all_eq_true.1 none character member

theorem IsToken.isBlank_eq_false {word : String} (isToken : IsToken word) :
    ∀ character ∈ word.toList, isBlank character = false := by
  intro character member
  rcases isToken with ⟨mark, isMark, rfl⟩ | ⟨_, plain⟩
  · rw [String.toList_ofList, List.mem_singleton] at member
    rw [member]
    exact isBlank_of_isPunctuation isMark
  · exact (plain character member).1

theorem IsToken.ne_empty {word : String} (isToken : IsToken word) : word ≠ "" := by
  rcases isToken with ⟨mark, _, rfl⟩ | ⟨nonempty, _⟩
  · exact ofList_ne_empty (List.cons_ne_nil _ _)
  · exact nonempty

/-- There is no punctuation in a token behind its first character, and nothing if that is
punctuation. -/
theorem IsToken.exists_cons {word : String} (isToken : IsToken word) :
    ∃ first others, word.toList = first :: others ∧
      (∀ character ∈ others, isPunctuation character = false) ∧
      (isPunctuation first = true → others = []) := by
  rcases isToken with ⟨mark, _, rfl⟩ | ⟨nonempty, plain⟩
  · exact ⟨mark, [], String.toList_ofList, fun _ absent => absurd absent List.not_mem_nil,
      fun _ => rfl⟩
  · cases spelling : word.toList with
    | nil => exact absurd (String.toList_eq_nil_iff.1 spelling) nonempty
    | cons first others =>
      rw [spelling] at plain
      refine ⟨first, others, rfl,
        fun character member => (plain character (List.mem_cons_of_mem _ member)).2, fun mark => ?_⟩
      exact absurd ((plain first List.mem_cons_self).2.symm.trans mark) Bool.false_ne_true

theorem isToken_of_mem_collected {current : List Char} {word : String}
    (plain : ∀ character ∈ current, IsPlain character) (member : word ∈ collected current) :
    IsToken word := by
  cases current with
  | nil => exact absurd member List.not_mem_nil
  | cons newest older =>
    obtain rfl := List.mem_singleton.1 member
    refine .inr ⟨?_, fun character inWord => ?_⟩
    · exact ofList_ne_empty (List.reverse_ne_nil_iff.2 (List.cons_ne_nil _ _))
    · rw [String.toList_ofList, List.mem_reverse] at inWord
      exact plain character inWord

theorem isToken_of_mem_tokensFrom {current text : List Char} {word : String}
    (plain : ∀ character ∈ current, IsPlain character) (member : word ∈ tokensFrom current text) :
    IsToken word := by
  induction text generalizing current with
  | nil => exact isToken_of_mem_collected plain member
  | cons character rest inductionHypothesis =>
    have nothing : ∀ character ∈ ([] : List Char), IsPlain character :=
      fun _ absent => absurd absent List.not_mem_nil
    unfold tokensFrom at member
    split at member
    case isTrue =>
      rcases List.mem_append.1 member with now | later
      · exact isToken_of_mem_collected plain now
      · exact inductionHypothesis nothing later
    case isFalse notBlank =>
      split at member
      case isTrue mark =>
        rcases List.mem_append.1 member with now | next
        · exact isToken_of_mem_collected plain now
        · rcases List.mem_cons.1 next with rfl | later
          · exact .inl ⟨character, mark, rfl⟩
          · exact inductionHypothesis nothing later
      case isFalse notMark =>
        refine inductionHypothesis (fun other inCurrent => ?_) member
        rcases List.mem_cons.1 inCurrent with rfl | earlier
        · exact ⟨Bool.eq_false_iff.2 notBlank, Bool.eq_false_iff.2 notMark⟩
        · exact plain other earlier

theorem isToken_of_mem_tokens {text word : String} (member : word ∈ tokens text) : IsToken word :=
  isToken_of_mem_tokensFrom (fun _ absent => absurd absent List.not_mem_nil) member

end ChartParsing.Sentence
