import ChartParsing.Proofs.Analysis
import ChartParsing.Proofs.Grammar.Spelling
import ChartParsing.Proofs.Sentence.Tokens
import ChartParsing.Proofs.Tree.Nodes

/-!
Contract: what the trees of texts can show.

Owns what every node of a tree is if the grammar is loaded from a text and the words are the tokens of a
text. A node without children shows a token or nothing behind the name of its category. Any other is
labelled with the name of its category and has a weight in range and a note.
-/

set_option autoImplicit false

namespace ChartParsing

open GrammarText

/-- A name is told from what follows it, unless that goes on with a name character. -/
theorem GrammarText.IsName.append_inj {name other : String} (isName : IsName name)
    (alsoName : IsName other) {rest left : List Char} (ends : Ends isNameChar rest)
    (alsoEnds : Ends isNameChar left) (same : name.toList ++ rest = other.toList ++ left) :
    name = other ∧ rest = left := by
  obtain ⟨sameName, sameRest⟩ := append_inj_of_ends isName.2 alsoName.2 ends alsoEnds same
  exact ⟨String.toList_injective sameName, sameRest⟩

theorem GrammarText.IsName.exists_cons {name : String} (isName : IsName name) :
    ∃ first others, name.toList = first :: others ∧ isNameChar first = true := by
  cases spelling : name.toList with
  | nil => exact absurd (String.toList_eq_nil_iff.1 spelling) isName.1
  | cons first others =>
    refine ⟨first, others, rfl, isName.2 first ?_⟩
    rw [spelling]
    exact List.mem_cons_self

namespace Tree

theorem ends_labelMark (label : String) {rest : List Char} (ends : Ends isNameChar rest) :
    Ends isNameChar (labelMark label ++ rest) := by
  unfold labelMark
  split
  · exact ends
  · exact ends_cons (by decide)

/-- What a node can be. -/
inductive SpelledNode : Tree → Prop where
  | leaf {label category : String} (named : IsName category)
      (labelled : label = "" ∨ Sentence.IsToken label) : SpelledNode ⟨label, category, 0, "", []⟩
  | inner {category note : String} {weight : Int} {children : List Tree} (named : IsName category)
      (inner : children ≠ []) (inRange : IsWeight weight) (noted : IsNote note) :
      SpelledNode ⟨category, category, weight, note, children⟩

end Tree

section Derivations

variable {grammar : Grammar} {words : List String}

theorem Grammar.SpelledProduction.tree {production : Production}
    (spelled : grammar.SpelledProduction production) {children : List Tree} (inner : children ≠ []) :
    (production.tree grammar children).SpelledNode :=
  .inner spelled.head inner spelled.weight spelled.note

theorem Grammar.Spelled.isName_of_fits (spelled : grammar.Spelled) {text : String} {symbol : Symbol}
    (fits : grammar.wordCategory text = symbol ∨ symbol = .unknown) :
    IsName (grammar.categoryName symbol) := by
  rcases fits with rfl | rfl
  · exact spelled.words text
  · exact spelled.unknown

theorem Derivation.everywhere_trees (spelled : grammar.Spelled)
    (tokens : ∀ word ∈ words, Sentence.IsToken word) {symbols : List Symbol} {start stop : Nat}
    (derivation : Derivation grammar words symbols start stop) :
    ∀ tree ∈ derivation.trees, tree.Everywhere Tree.SpelledNode := by
  induction derivation with
  | done position => exact fun tree member => absurd member List.not_mem_nil
  | word text isTerminal stands fits others inductionHypothesis =>
    have isToken := tokens text (List.mem_of_getElem? stands)
    refine List.forall_mem_cons.2 ⟨.leaf ?_ rfl, inductionHypothesis⟩
    exact .leaf (spelled.isName_of_fits fits) (.inr isToken)
  | nothing others inductionHypothesis =>
    refine List.forall_mem_cons.2 ⟨.leaf ?_ rfl, inductionHypothesis⟩
    exact .leaf spelled.empty (.inl rfl)
  | phrase production isPhrase listed parts others first second =>
    have isSpelled := spelled.productions production (Grammar.mem_productionsOf.1 listed).1
    have inner : parts.trees ≠ [] := by
      rw [← List.length_pos_iff, parts.length_trees, List.length_pos_iff]
      exact isSpelled.body_ne_nil
    exact List.forall_mem_cons.2 ⟨.node (isSpelled.tree inner) first, second⟩

end Derivations

/-- Every node of the trees of a parse is spelled if the grammar is that of a text and the words are the
tokens of one. -/
theorem Session.everywhere_of_mem_trees {text : String} {loading : Loading}
    (loaded : Grammar.load text = .ok loading) {session : Session}
    (sameGrammar : session.parser.grammar = loading.grammar) {threshold : Threshold}
    {sentence : Sentence} {input : String} (tokens : sentence.words = Sentence.tokens input)
    {trees : List Tree} (answered : (session.parse threshold sentence).analysis = .trees trees) :
    ∀ tree ∈ trees, tree.Everywhere Tree.SpelledNode := by
  intro tree member
  have spelled : session.parser.grammar.Spelled := sameGrammar ▸ Grammar.spelled_of_load loaded
  obtain ⟨productions, found⟩ := session.exists_answered_of_trees threshold answered
  obtain ⟨production, listed, parts, rfl⟩ := exists_related found.derived.flip member
  have isRoot : Symbol.root.isPhrase = true := by decide
  obtain ⟨whole, wholeTrees⟩ :=
    Derivation.exists_of_parts isRoot ((found.mem_iff production).1 listed).1 parts
  have isToken : ∀ word ∈ sentence.words, Sentence.IsToken word := by
    rw [tokens]
    exact fun _ => Sentence.isToken_of_mem_tokens
  exact whole.everywhere_trees spelled isToken _ (wholeTrees ▸ List.mem_singleton_self _)

/-- A text in which a note looks like a weight, and the beginning of another note. -/
def markedText : String :=
  "ROOT -> UNKNOWN UNKNOWN [2] \x7ba [2] \x7b\x7d"

/-- The parser of that text. -/
def marked : Parser where
  grammar := .addProduction .empty ⟨.root, [.unknown, .unknown], 2, "a [2] \x7b"⟩
  covered := by decide +kernel

theorem load_marked : Grammar.load markedText = .ok ⟨marked.grammar, #[]⟩ := by
  have read : readDocument markedText.toList =
      .ok [⟨1, .rule "ROOT" [⟨["UNKNOWN", "UNKNOWN"], some 2, some "a [2] \x7b"⟩]⟩] := by
    decide +kernel
  unfold Grammar.load
  rw [read]
  rfl

/-- The tree of a sentence of two brackets. -/
def markedTree : Tree :=
  ⟨"ROOT", "ROOT", 2, "a [2] \x7b", [⟨"(", "UNKNOWN", 0, "", []⟩, ⟨")", "UNKNOWN", 0, "", []⟩]⟩

theorem parse_marked :
    ((Session.start marked).parse .off ⟨Sentence.tokens "()", fun _ => false⟩).analysis =
      .trees [markedTree] := by
  decide +kernel

end ChartParsing
