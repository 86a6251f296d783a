import ChartParsing.Proofs.Grammar.Loading
import ChartParsing.Proofs.GrammarText.Lines
import ChartParsing.Proofs.GrammarText.Reordering
import ChartParsing.Proofs.Text

/-!
Contract: what a text can spell.

Owns what the names and the productions of a grammar have in common if it is loaded from a text. A name
is a run of name characters. An alternative of a line names at least one symbol, so every production has
a constituent; a production without any can only be added by other means. A weight is in its range, and
a note has no closing brace and no line feed.
-/

set_option autoImplicit false

namespace ChartParsing

open GrammarText

namespace GrammarText

/-- A text of name characters, at least one. -/
def IsName (name : String) : Prop :=
  name ≠ "" ∧ ∀ character ∈ name.toList, isNameChar character = true

/-- A text that can stand between braces in one line. -/
def IsNote (note : String) : Prop :=
  '\x7d' ∉ note.toList ∧ '\n' ∉ note.toList

instance (name : String) : Decidable (IsName name) :=
  decidable_of_iff (name ≠ "" ∧ name.toList.all isNameChar = true) (by
    rw [IsName, List.all_eq_true])

instance (note : String) : Decidable (IsNote note) :=
  inferInstanceAs (Decidable ('\x7d' ∉ note.toList ∧ '\n' ∉ note.toList))

/-! ## Forms -/

theorem NameForm.isName (form : NameForm) : IsName (String.ofList form.text) := by
  refine ⟨Text.ofList_ne_empty form.nonempty, ?_⟩
  rw [String.toList_ofList]
  exact form.inside

theorem text_subset_furtherText {Between Form : Type} (between : Between → List Char)
    (text : Form → List Char) {others : List (Between × Form)} {other : Between × Form}
    (member : other ∈ others) : text other.2 ⊆ furtherText between text others := by
  induction others with
  | nil => exact absurd member List.not_mem_nil
  | cons first rest inductionHypothesis =>
    rw [furtherText]
    rcases List.mem_cons.1 member with rfl | later
    · exact List.subset_append_of_subset_right _ (List.subset_append_left _ _)
    · exact List.subset_append_of_subset_right _
        (List.subset_append_of_subset_right _ (inductionHypothesis later))

/-- What an alternative that is spelled in a line can be. -/
structure Alternative.Spelled (alternative : Alternative) : Prop where
  symbols_ne_nil : alternative.symbols ≠ []
  names : ∀ name ∈ alternative.symbols, IsName name
  weight : ∀ weight, alternative.weight = some weight → IsWeight weight
  note : ∀ note, alternative.note = some note → IsNote note

theorem AlternativeForm.spelled {form : AlternativeForm} (clean : '\n' ∉ form.text) :
    form.alternative.Spelled where
  symbols_ne_nil := List.cons_ne_nil _ _
  names := by
    intro name member
    rcases List.mem_cons.1 member with rfl | later
    · exact NameForm.isName form.first
    · obtain ⟨other, _, rfl⟩ := List.mem_map.1 later
      exact NameForm.isName other.2
  weight := by
    intro weight isWeight
    obtain ⟨weightForm, _, rfl⟩ := Option.map_eq_some_iff.1 isWeight
    exact weightForm.bounded
  note := by
    intro note isNote
    obtain ⟨noteForm, isForm, rfl⟩ := Option.map_eq_some_iff.1 isNote
    rw [IsNote, String.toList_ofList]
    refine ⟨noteForm.unclosed, fun ends => clean ?_⟩
    simp [AlternativeForm.text, AlternativeForm.tail, isForm, optionalText, NoteForm.text, ends]

/-- Every alternative of a line is spelled in the text of the line. -/
theorem LineForm.exists_alternativeForm (form : LineForm) {pair : String × Alternative}
    (isSaid : pair ∈ form.line.said) :
    ∃ alternative : AlternativeForm, alternative.alternative = pair.2 ∧
      alternative.text ⊆ form.text := by
  cases form with
  | lexicon form => exact absurd isSaid List.not_mem_nil
  | rule form =>
    have within : form.alternativesText ⊆ form.text := by
      intro character member
      simp [RuleForm.text, member]
    obtain ⟨alternative, member, rfl⟩ := List.mem_map.1 isSaid
    rcases List.mem_cons.1 member with rfl | later
    · exact ⟨form.first, rfl, List.Subset.trans (List.subset_append_left _ _) within⟩
    · obtain ⟨other, listed, rfl⟩ := List.mem_map.1 later
      refine ⟨other.2, rfl, ?_⟩
      have inOthers := text_subset_furtherText BarForm.text AlternativeForm.text listed
      exact fun _ inText => within
        (List.mem_append_right _ (List.mem_append_left _ (inOthers inText)))

theorem LineForm.isName_of_named {form : LineForm} {kind : SymbolKind} {name : String}
    (named : form.line.named kind = some name) : IsName name := by
  cases form with
  | rule form =>
    cases kind with
    | terminal => exact nomatch named
    | phrase => exact Option.some.inj named ▸ NameForm.isName form.head
  | lexicon form =>
    cases kind with
    | terminal => exact Option.some.inj named ▸ NameForm.isName form.category
    | phrase => exact nomatch named

/-! ## Lines of a text -/

section Document

variable {text : List Char} {lines : List NumberedLine} (read : readDocument text = .ok lines)

include read

/-- Every line that is read from a text has a form, which spells no line feed. -/
theorem exists_form_of_readDocument {numbered : NumberedLine} (member : numbered ∈ lines) :
    ∃ form : LineForm, form.line = numbered.line ∧ '\n' ∉ form.text := by
  have readings := (readDocument_iff text _).1 ⟨lines, read, rfl⟩
  have isReading : some numbered.line ∈ (significantLines text).map lineOf? := by
    rw [readings]
    exact List.mem_map_of_mem (List.mem_map_of_mem member)
  obtain ⟨significant, listed, reading⟩ := List.mem_map.1 isReading
  obtain ⟨form, rfl, same⟩ := exists_form_of_readLine (lineOf?_eq_some_iff.1 reading)
  obtain ⟨raw, inText, trimmed⟩ := List.mem_map.1 (List.mem_filter.1 listed).1
  refine ⟨form, same, fun inLine => ?_⟩
  rw [← trimmed] at inLine
  exact Text.newline_not_mem_of_mem_lines inText (Text.trim_subset raw inLine)

theorem spelled_of_said {pair : String × Alternative} (isSaid : pair ∈ said lines) :
    pair.2.Spelled := by
  obtain ⟨numbered, member, inLine⟩ := List.mem_flatMap.1 isSaid
  obtain ⟨form, same, clean⟩ := exists_form_of_readDocument read member
  rw [← same] at inLine
  obtain ⟨alternative, isAlternative, within⟩ := form.exists_alternativeForm inLine
  rw [← isAlternative]
  exact AlternativeForm.spelled fun inText => clean (within inText)

theorem isName_of_mem_named {kind : SymbolKind} {name : String} (member : name ∈ named lines kind) :
    IsName name := by
  obtain ⟨numbered, listed, isNamed⟩ := List.mem_filterMap.1 member
  obtain ⟨form, same, _⟩ := exists_form_of_readDocument read listed
  rw [← same] at isNamed
  exact LineForm.isName_of_named isNamed

theorem isName_of_mem_symbolNames {kind : SymbolKind} {name : String}
    (member : name ∈ symbolNames lines kind) : IsName name := by
  have reserved : ∀ name ∈ SymbolTable.reserved.names .terminal ++ SymbolTable.reserved.names .phrase,
      IsName name := by decide +kernel
  cases kind with
  | terminal =>
    rcases mem_lexicalNames.1 member with isReserved | isNamed
    · exact reserved name (List.mem_append_left _ isReserved)
    · exact isName_of_mem_named read isNamed
  | phrase =>
    rcases (mem_phraseNames.1 member).1 with isReserved | isNamed | inBody
    · exact reserved name (List.mem_append_right _ isReserved)
    · exact isName_of_mem_named read isNamed
    · obtain ⟨pair, isSaid, isSymbol⟩ := List.mem_flatMap.1 inBody
      exact (spelled_of_said read isSaid).names name isSymbol

end Document

end GrammarText

/-! ## Grammars -/

theorem Describes.exists_madeOf {lines : List NumberedLine} {loading : Loading}
    (describes : Describes lines loading) {production : Production}
    (member : production ∈ loading.grammar.productions.toList) :
    ∃ pair ∈ said lines, MadeOf loading.grammar.symbols pair.2 production := by
  have listed : production ∈ loading.grammar.productionsOf production.head :=
    Grammar.mem_productionsOf.2 ⟨member, rfl⟩
  obtain ⟨head, _, named⟩ :=
    describes.productive production.head (List.ne_nil_of_mem listed)
  obtain ⟨alternative, isAlternative, made⟩ :=
    exists_related (describes.productions head production.head named).flip listed
  obtain ⟨pair, isSaid, rfl⟩ := List.mem_map.1 isAlternative
  exact ⟨pair, (List.mem_filter.1 isSaid).1, made⟩

/-- What a production of a text can be. -/
structure Grammar.SpelledProduction (grammar : Grammar) (production : Production) : Prop where
  head : IsName (grammar.categoryName production.head)
  body_ne_nil : production.body ≠ []
  weight : IsWeight production.weight
  note : IsNote production.note

/-- What a grammar of a text can be: the categories of its words have names, and so have the reserved
ones, and its productions are those of a text. -/
structure Grammar.Spelled (grammar : Grammar) : Prop where
  empty : IsName (grammar.categoryName .empty)
  unknown : IsName (grammar.categoryName .unknown)
  words : ∀ word, IsName (grammar.categoryName (grammar.wordCategory word))
  productions : ∀ production ∈ grammar.productions.toList, grammar.SpelledProduction production

section Loaded

variable {lines : List NumberedLine} {loading : Loading} {text : List Char}

theorem Describes.isName_categoryName (describes : Describes lines loading)
    (read : readDocument text = .ok lines) {name : String} {symbol : Symbol}
    (found : loading.grammar.symbols.symbol? name = some symbol) :
    IsName (loading.grammar.categoryName symbol) := by
  rw [Grammar.categoryName_of_symbol? found]
  exact isName_of_mem_symbolNames read
    ((describes.names symbol.kind name).1 (SymbolTable.mem_names_of_symbol? found))

theorem Describes.spelledProduction (describes : Describes lines loading)
    (read : readDocument text = .ok lines) {production : Production}
    (member : production ∈ loading.grammar.productions.toList) :
    loading.grammar.SpelledProduction production := by
  have listed : production ∈ loading.grammar.productionsOf production.head :=
    Grammar.mem_productionsOf.2 ⟨member, rfl⟩
  obtain ⟨head, _, found⟩ := describes.productive production.head (List.ne_nil_of_mem listed)
  obtain ⟨pair, isSaid, made⟩ := describes.exists_madeOf member
  have spelled := spelled_of_said read isSaid
  refine ⟨describes.isName_categoryName read found, fun bodiless => ?_, ?_, ?_⟩
  · have noNames := made.body
    rw [bodiless, List.map_nil, List.map_eq_nil_iff] at noNames
    exact spelled.symbols_ne_nil noNames
  · rw [made.weight]
    cases isWeight : pair.2.weight with
    | none => decide
    | some weight => exact spelled.weight weight isWeight
  · rw [made.note]
    cases isNote : pair.2.note with
    | none => decide
    | some note => exact spelled.note note isNote

theorem Grammar.spelled_of_load {text : String} (loaded : Grammar.load text = .ok loading) :
    loading.grammar.Spelled := by
  obtain ⟨lines, read, _, describes⟩ := exists_describes_of_load loaded
  have named (name : String) {symbol : Symbol}
      (isReserved : SymbolTable.reserved.symbol? name = some symbol) :
      IsName (loading.grammar.categoryName symbol) :=
    describes.isName_categoryName read (describes.reserved.symbol? isReserved)
  have unknown : IsName (loading.grammar.categoryName .unknown) := named "UNKNOWN" rfl
  refine ⟨named "EMPTY" rfl, unknown, fun word => ?_, fun production =>
    describes.spelledProduction read⟩
  cases categorised : categoryOf? (entries lines) word with
  | none =>
    rw [describes.unlisted word categorised]
    exact unknown
  | some category => exact describes.isName_categoryName read (describes.listed word category categorised)

/-- No production that is loaded from a text has an empty body. -/
theorem Grammar.body_ne_nil_of_load {text : String} (loaded : Grammar.load text = .ok loading)
    {production : Production} (member : production ∈ loading.grammar.productions.toList) :
    production.body ≠ [] :=
  ((Grammar.spelled_of_load loaded).productions production member).body_ne_nil

end Loaded

end ChartParsing
