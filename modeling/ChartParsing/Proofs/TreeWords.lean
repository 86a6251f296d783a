import ChartParsing.Proofs.Grammar.Spelling
import ChartParsing.Proofs.Soundness

/-!
Contract: the words that a tree reports.

Owns how the words of a tree compare with the words of the sentence. A node without children reports
its label. The node of a production with an empty body has no children either, so it reports the name
of its phrase like a word. The words of a tree are those of the sentence exactly if there are no such
names, which is so for every grammar that is loaded from a text.
-/

set_option autoImplicit false

namespace ChartParsing

namespace Tree

theorem words_of_children_eq_nil {tree : Tree} (leaf : tree.children = []) :
    tree.words = if tree.label = "" then [] else [tree.label] := by
  obtain ⟨label, category, weight, note, children⟩ := tree
  obtain rfl : children = [] := leaf
  simp only [words, String.isEmpty_iff]

theorem words_of_children_ne_nil {tree : Tree} (inner : tree.children ≠ []) :
    tree.words = wordsOfAll tree.children := by
  obtain ⟨label, category, weight, note, children⟩ := tree
  cases children with
  | nil => exact absurd rfl inner
  | cons first others => simp only [words, wordsOfAll]

theorem wordsOfAll_singleton (tree : Tree) : wordsOfAll [tree] = tree.words := by
  rw [wordsOfAll, wordsOfAll, List.append_nil]

end Tree

/-! ## Reports -/

/-- What is reported of matched words: all of them in order, with names at any places between. -/
structure Reports (reported matched names : List String) : Prop where
  inOrder : matched.Sublist reported
  others : reported.Perm (matched ++ names)

namespace Reports

theorem nothing : Reports [] [] [] :=
  ⟨.refl [], .refl []⟩

theorem matched (words : List String) : Reports words words [] :=
  ⟨.refl words, .of_eq (List.append_nil words).symm⟩

theorem names (names : List String) : Reports names [] names :=
  ⟨List.nil_sublist names, .refl names⟩

theorem append {reported matched names reported' matched' names' : List String}
    (first : Reports reported matched names) (second : Reports reported' matched' names') :
    Reports (reported ++ reported') (matched ++ matched') (names ++ names') where
  inOrder := first.inOrder.append second.inOrder
  others := by
    refine (first.others.append second.others).trans ?_
    rw [List.append_assoc, List.append_assoc]
    exact (List.perm_append_comm_assoc names matched' names').append_left matched

theorem eq_iff {reported matched names : List String} (reports : Reports reported matched names) :
    reported = matched ↔ names = [] := by
  have lengths := reports.others.length_eq
  rw [List.length_append] at lengths
  constructor
  · intro same
    rw [same] at lengths
    exact List.length_eq_zero_iff.1 (by omega)
  · intro noNames
    rw [noNames, List.length_nil, Nat.add_zero] at lengths
    exact (reports.inOrder.eq_of_length lengths.symm).symm

end Reports

/-! ## The words of a derivation -/

/-- The names that trees report of productions with empty bodies. An empty name is not reported. -/
def Grammar.reportedNames (grammar : Grammar) (productions : List Production) : List String :=
  (productions.map fun production => grammar.categoryName production.head).filter (· ≠ "")

theorem Grammar.reportedNames_append (grammar : Grammar) (first second : List Production) :
    grammar.reportedNames (first ++ second) =
      grammar.reportedNames first ++ grammar.reportedNames second := by
  rw [reportedNames, List.map_append, List.filter_append]
  rfl

namespace Derivation

variable {grammar : Grammar} {words : List String}

/-- The productions with empty bodies that a derivation uses, from left to right. -/
def bodiless {symbols : List Symbol} {start stop : Nat} :
    Derivation grammar words symbols start stop → List Production
  | done _ => []
  | word _ _ _ _ others => others.bodiless
  | nothing others => others.bodiless
  | phrase production _ _ parts others =>
    (if production.body = [] then [production] else parts.bodiless) ++ others.bodiless

/-- A production with a body reports what its constituents report, one without reports its name. -/
theorem reports_tree {production : Production} {start stop : Nat}
    (parts : Derivation grammar words production.body start stop)
    (reports : Reports (Tree.wordsOfAll parts.trees) (words.extract start stop)
      (grammar.reportedNames parts.bodiless)) :
    Reports (production.tree grammar parts.trees).words (words.extract start stop)
      (grammar.reportedNames (if production.body = [] then [production] else parts.bodiless)) := by
  by_cases bodiless : production.body = []
  · have noTrees : parts.trees = [] := by
      rw [← List.length_eq_zero_iff, parts.length_trees, bodiless, List.length_nil]
    have noWords : words.extract start stop = [] := by
      have matched := reports.inOrder
      rw [noTrees, Tree.wordsOfAll] at matched
      exact List.sublist_nil.1 matched
    rw [if_pos bodiless, noWords, Tree.words_of_children_eq_nil noTrees]
    have named : grammar.reportedNames [production] =
        if grammar.categoryName production.head = "" then []
        else [grammar.categoryName production.head] := by
      by_cases nameless : grammar.categoryName production.head = "" <;>
        simp [Grammar.reportedNames, nameless]
    rw [named]
    exact .names _
  · have someTrees : parts.trees ≠ [] := by
      rw [← List.length_pos_iff, parts.length_trees, List.length_pos_iff]
      exact bodiless
    rw [if_neg bodiless, Tree.words_of_children_ne_nil someTrees]
    exact reports

/-- The trees of a derivation report the words of its span in order, and the names of the productions
with empty bodies. -/
theorem reports (spelled : ∀ text ∈ words, text ≠ "") {symbols : List Symbol} {start stop : Nat}
    (derivation : Derivation grammar words symbols start stop) :
    Reports (Tree.wordsOfAll derivation.trees) (words.extract start stop)
      (grammar.reportedNames derivation.bodiless) := by
  induction derivation with
  | done position =>
    rw [extract_self]
    exact .nothing
  | @word symbol rest start stop text isTerminal stands fits others inductionHypothesis =>
    have leaf : (grammar.leaf symbol text).words = [text] :=
      (Tree.words_of_children_eq_nil rfl).trans (if_neg (spelled text (List.mem_of_getElem? stands)))
    rw [trees, Tree.wordsOfAll, leaf,
      ← extract_append words (Nat.le_succ start) others.start_le_stop, extract_singleton stands]
    exact (Reports.matched [text]).append inductionHypothesis
  | nothing others inductionHypothesis =>
    have leaf : (grammar.leaf .empty "").words = [] :=
      (Tree.words_of_children_eq_nil rfl).trans (if_pos rfl)
    rw [trees, Tree.wordsOfAll, leaf, List.nil_append]
    exact inductionHypothesis
  | phrase production isPhrase listed parts others first second =>
    rw [trees, Tree.wordsOfAll, bodiless, Grammar.reportedNames_append,
      ← extract_append words parts.start_le_stop others.start_le_stop]
    exact (parts.reports_tree first).append second

theorem bodiless_eq_nil (bodies : ∀ production ∈ grammar.productions.toList, production.body ≠ [])
    {symbols : List Symbol} {start stop : Nat}
    (derivation : Derivation grammar words symbols start stop) : derivation.bodiless = [] := by
  induction derivation with
  | done position => rfl
  | word text isTerminal stands fits others inductionHypothesis => exact inductionHypothesis
  | nothing others inductionHypothesis => exact inductionHypothesis
  | phrase production isPhrase listed parts others first second =>
    have some := bodies production (Grammar.mem_productionsOf.1 listed).1
    rw [bodiless, if_neg some, first, second, List.append_nil]

end Derivation

/-! ## The words of the trees of a parse -/

namespace Session

/-- The tree of a parse reports every word of the sentence once and in order, and besides them the
names of the phrases that were matched by productions with empty bodies. So its words are the sentence
exactly if there are no such names; a grammar that is loaded from a text has no such productions. -/
theorem words_of_mem_trees (session : Session) (threshold : Threshold) (sentence : Sentence)
    (spelled : ∀ text ∈ sentence.words, text ≠ "") {trees : List Tree} {tree : Tree}
    (answered : (session.parse threshold sentence).analysis = .trees trees)
    (member : tree ∈ trees) :
    (∃ whole : Derivation session.parser.grammar sentence.words [.root] 0 sentence.words.length,
      whole.trees = [tree] ∧
        Reports tree.words sentence.words
          (session.parser.grammar.reportedNames whole.bodiless) ∧
        (tree.words = sentence.words ↔
          session.parser.grammar.reportedNames whole.bodiless = [])) ∧
    ∀ text loading, Grammar.load text = .ok loading → session.parser.grammar = loading.grammar →
      tree.words = sentence.words := by
  obtain ⟨productions, found⟩ := session.exists_answered_of_trees threshold answered
  obtain ⟨production, listed, parts, shown⟩ := exists_related found.derived.flip member
  have isRoot : Symbol.root.isPhrase = true := by decide
  obtain ⟨whole, wholeTrees⟩ :=
    Derivation.exists_of_parts isRoot ((found.mem_iff production).1 listed).1 parts
  rw [← shown] at wholeTrees
  have reports := whole.reports spelled
  rw [wholeTrees, Tree.wordsOfAll_singleton, extract_zero, List.take_length] at reports
  refine ⟨⟨whole, wholeTrees, reports, reports.eq_iff⟩, ?_⟩
  intro text loading loaded sameGrammar
  have bodies : ∀ production ∈ session.parser.grammar.productions.toList, production.body ≠ [] := by
    intro production listed
    rw [sameGrammar] at listed
    exact Grammar.body_ne_nil_of_load loaded listed
  rw [reports.eq_iff, whole.bodiless_eq_nil bodies]
  rfl

/-- The parser of a grammar in which a phrase is matched by a production with an empty body. -/
def optionalBefore : Parser where
  grammar :=
    let registered := ((Grammar.empty.phrase "OPT").toOption).getD (.root, .empty)
    (registered.2.addProduction ⟨.root, [registered.1, .unknown], 0, ""⟩).addProduction
      ⟨registered.1, [], 0, ""⟩
  covered := by decide +kernel

def optionalBeforeTree : Tree :=
  ⟨"ROOT", "ROOT", 0, "", [⟨"OPT", "OPT", 0, "", []⟩, ⟨"hello", "UNKNOWN", 0, "", []⟩]⟩

theorem parse_optionalBefore :
    ((start optionalBefore).parse .off ⟨["hello"], fun _ => false⟩).analysis =
      .trees [optionalBeforeTree] := by
  decide +kernel

/-- The name of the phrase is reported as if it were a word of the sentence. -/
theorem optionalBefore_reports_name :
    ((start optionalBefore).parse .off ⟨["hello"], fun _ => false⟩).analysis =
        .trees [optionalBeforeTree] ∧
      optionalBeforeTree.words = ["OPT", "hello"] ∧ optionalBeforeTree.words ≠ ["hello"] := by
  have words : optionalBeforeTree.words = ["OPT", "hello"] := rfl
  refine ⟨parse_optionalBefore, words, ?_⟩
  rw [words]
  decide

/-- A text with the grammar of `nestedFirst`. -/
def nestedFirstText : String := "ROOT -> NP EMPTY UNKNOWN [3] \x7bw\x7d\nNP -> UNKNOWN [-1]\n"

theorem load_nestedFirst : Grammar.load nestedFirstText = .ok ⟨nestedFirst.grammar, #[]⟩ := by
  have read : GrammarText.readDocument nestedFirstText.toList =
      .ok [⟨1, .rule "ROOT" [⟨["NP", "EMPTY", "UNKNOWN"], some 3, some "w"⟩]⟩,
        ⟨2, .rule "NP" [⟨["UNKNOWN"], some (-1), none⟩]⟩] := by
    decide +kernel
  unfold Grammar.load
  rw [read]
  rfl

/-- The name of a production with an empty body is reported besides the word. The trees of a grammar that
is loaded from a text report the words alone, also with an empty match between them. -/
theorem words_of_optionalBefore_and_nestedFirst :
    ((∀ text ∈ ["hello"], text ≠ "") ∧
      ((start optionalBefore).parse .off ⟨["hello"], fun _ => false⟩).analysis =
        .trees [optionalBeforeTree] ∧
      ∃ whole : Derivation optionalBefore.grammar ["hello"] [.root] 0 1,
        whole.trees = [optionalBeforeTree] ∧
          Reports optionalBeforeTree.words ["hello"]
            (optionalBefore.grammar.reportedNames whole.bodiless) ∧
          (optionalBeforeTree.words = ["hello"] ↔
            optionalBefore.grammar.reportedNames whole.bodiless = [])) ∧
    ((∀ text ∈ ["x", "y"], text ≠ "") ∧
      ((start nestedFirst).parse .off ⟨["x", "y"], fun _ => false⟩).analysis =
        .trees [nestedFirstTree] ∧
      Grammar.load nestedFirstText = .ok ⟨nestedFirst.grammar, #[]⟩ ∧
      nestedFirstTree.words = ["x", "y"]) := by
  constructor
  · have spelled : ∀ text ∈ ["hello"], text ≠ "" := by decide
    exact ⟨spelled, parse_optionalBefore, (words_of_mem_trees (start optionalBefore) .off
      ⟨["hello"], fun _ => false⟩ spelled parse_optionalBefore (List.mem_singleton_self _)).1⟩
  · have spelled : ∀ text ∈ ["x", "y"], text ≠ "" := by decide
    have words := words_of_mem_trees (start nestedFirst) .off ⟨["x", "y"], fun _ => false⟩ spelled
      parse_nestedFirst (List.mem_singleton_self _)
    exact ⟨spelled, parse_nestedFirst, load_nestedFirst, words.2 _ _ load_nestedFirst rfl⟩

end Session

end ChartParsing
