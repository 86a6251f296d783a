import ChartParsing.Proofs.PairedTrees
import ChartParsing.Proofs.Tree.Nodes

/-!
Contract: grammars that differ in weights and notes.

Owns the comparison of the parses of two grammars whose productions have the same heads and bodies in the
same order. Weights and notes take part in the equality of productions, which the charts ask for. As long
as the productions of one head are equal in one grammar exactly where they are in the other, the charts
are alike, so that the trees without weights and notes are the same ones. Only the weights of the
productions of the root symbol decide their order.
-/

set_option autoImplicit false

namespace ChartParsing

/-- Grammars that differ at most in the weights and the notes of their productions. -/
structure Rescored (grammar other : Grammar) : Prop where
  names : ∀ symbol, grammar.symbols.name? symbol = other.symbols.name? symbol
  words : ∀ word : String, grammar.lexicon[word]? = other.lexicon[word]?
  bodies : ∀ head,
    (grammar.productionsOf head).map Production.body = (other.productionsOf head).map Production.body
  /-- Productions of one head are equal at the same places of the two grammars. -/
  repeats : ∀ (head : Symbol) (first second : Nat),
    (grammar.productionsOf head)[first]? = (grammar.productionsOf head)[second]? ↔
      (other.productionsOf head)[first]? = (other.productionsOf head)[second]?

namespace Rescored

open Charts

variable {grammar other : Grammar}

theorem categoryName (rescored : Rescored grammar other) (symbol : Symbol) :
    grammar.categoryName symbol = other.categoryName symbol := by
  rw [Grammar.categoryName, Grammar.categoryName, rescored.names]

theorem wordCategory (rescored : Rescored grammar other) (word : String) :
    grammar.wordCategory word = other.wordCategory word := by
  rw [Grammar.wordCategory, Grammar.wordCategory, rescored.words]

/-- Productions that stand at the same place among those of their head. -/
def Placed (grammar other : Grammar) (production production' : Production) : Prop :=
  ∃ (head : Symbol) (index : Nat), (grammar.productionsOf head)[index]? = some production ∧
    (other.productionsOf head)[index]? = some production'

section Placed

variable {production production' : Production}

theorem Placed.head (placed : Placed grammar other production production') :
    production.head = production'.head := by
  obtain ⟨head, index, here, there⟩ := placed
  have ⟨_, isHead⟩ := Grammar.mem_productionsOf.1 (List.mem_of_getElem? here)
  have ⟨_, isHead'⟩ := Grammar.mem_productionsOf.1 (List.mem_of_getElem? there)
  rw [isHead, isHead']

theorem Placed.agree {α : Type} {property : Production → α}
    (placed : Placed grammar other production production')
    (same : (grammar.productionsOf production.head).map property =
      (other.productionsOf production.head).map property) :
    property production = property production' := by
  obtain ⟨head, index, here, there⟩ := placed
  obtain ⟨_, rfl⟩ := Grammar.mem_productionsOf.1 (List.mem_of_getElem? here)
  have found := congrArg (·[index]?) same
  simpa [here, there] using found

theorem Placed.symm (placed : Placed grammar other production production') :
    Placed other grammar production' production := by
  obtain ⟨head, index, here, there⟩ := placed
  exact ⟨head, index, there, here⟩

end Placed

theorem symm (rescored : Rescored grammar other) : Rescored other grammar where
  names := fun symbol => (rescored.names symbol).symm
  words := fun word => (rescored.words word).symm
  bodies := fun head => (rescored.bodies head).symm
  repeats := fun head first second => (rescored.repeats head first second).symm

theorem placed_unique (rescored : Rescored grammar other) {production first second : Production}
    (placed : Placed grammar other production first)
    (also : Placed grammar other production second) : first = second := by
  obtain ⟨head, index, here, there⟩ := placed
  obtain ⟨head', index', alsoHere, alsoThere⟩ := also
  obtain ⟨_, rfl⟩ := Grammar.mem_productionsOf.1 (List.mem_of_getElem? here)
  obtain ⟨_, rfl⟩ := Grammar.mem_productionsOf.1 (List.mem_of_getElem? alsoHere)
  have same := (rescored.repeats production.head index index').1 (here.trans alsoHere.symm)
  exact Option.some.inj (there.symm.trans (same.trans alsoThere))

theorem placed_biUnique (rescored : Rescored grammar other) :
    Relator.BiUnique (Placed grammar other) :=
  ⟨fun _ _ _ first second => rescored.symm.placed_unique first.symm second.symm,
    fun _ _ _ first second => rescored.placed_unique first second⟩

theorem placed_productionsOf (rescored : Rescored grammar other) {head head' : Symbol}
    (same : head = head') :
    List.Forall₂ (Placed grammar other) (grammar.productionsOf head) (other.productionsOf head') := by
  subst same
  have lengths := congrArg List.length (rescored.bodies head)
  rw [List.length_map, List.length_map] at lengths
  refine List.forall₂_of_length_eq_of_get lengths fun index inside inside' => ?_
  exact ⟨head, index, List.getElem?_eq_getElem inside, List.getElem?_eq_getElem inside'⟩

/-- Productions stand for those at the same places. -/
def pairing (rescored : Rescored grammar other) : Pairing grammar other where
  symbol := Eq
  production := Placed grammar other
  symbol_biUnique := Pairing.biUnique_eq
  production_biUnique := rescored.placed_biUnique
  isPhrase := congrArg Symbol.isPhrase
  root := rfl
  empty := rfl
  unknown := rfl
  head := Placed.head
  body := fun placed => Pairing.forall₂_eq_of_eq (placed.agree (rescored.bodies _))
  productionsOf := rescored.placed_productionsOf

/-- A sentence read with either grammar. -/
def lockstep (rescored : Rescored grammar other) (sentence : Sentence) :
    Lockstep grammar other sentence sentence :=
  rescored.pairing.lockstep sentence rescored.wordCategory

section Rows

variable {sentence : Sentence} {charts charts' : Charts} {build build' : Row → Tree}

/-- Trees of rows that are alike are the same but for weights and notes, if their children are. -/
theorem grows (rescored : Rescored grammar other) :
    (rescored.lockstep sentence).Grows fun tree tree' => tree.stripped = tree'.stripped := by
  intro row row' alike children children' each
  have below : children.map Tree.stripped = children'.map Tree.stripped := by
    rw [← List.forall₂_eq_eq_eq, List.forall₂_map_left_iff, List.forall₂_map_right_iff]
    exact each
  have label : row.rule.label grammar = row'.rule.label other := by
    have rules := alike.item.rule
    generalize row.rule = rule at rules
    generalize row'.rule = rule' at rules
    cases rules with
    | seed => exact rescored.categoryName .root
    | phrase placed =>
      exact (rescored.categoryName _).trans (congrArg other.categoryName (Placed.head placed))
    | word same stands stands' => exact Option.some.inj (stands.symm.trans stands')
    | nothing => rfl
  have category : grammar.categoryName row.rule.head = other.categoryName row'.rule.head := by
    rw [rescored.categoryName]
    exact congrArg other.categoryName alike.item.rule.head
  rw [Row.treeOver, Row.treeOver, Tree.stripped, Tree.stripped, Tree.strippedAll_eq_map,
    Tree.strippedAll_eq_map, label, category, below]

theorem stripped_roots (rescored : Rescored grammar other)
    (rebuilt : (rescored.lockstep sentence).Rebuilt charts charts' build build') :
    List.Forall₂ (fun tree tree' => tree.stripped = tree'.stripped ∧
      ((grammar.productionsOf .root).map Production.weight =
        (other.productionsOf .root).map Production.weight → tree.weight = tree'.weight))
      ((rootRows sentence.words charts).map build) ((rootRows sentence.words charts').map build') := by
  refine rebuilt.related_trees rescored.grows.inherits fun row isRoot row' isRoot' alike stripped => ?_
  obtain ⟨member, production, head, whole⟩ := rebuilt.sound.mem_rootRows.1 isRoot
  obtain ⟨member', production', _, whole'⟩ := rebuilt.sound'.mem_rootRows.1 isRoot'
  refine ⟨stripped, fun weights => ?_⟩
  rw [rebuilt.reconstructs.weight_eq member, rebuilt.reconstructs'.weight_eq member']
  have rules := alike.item.rule
  rw [whole, whole'] at rules
  rw [whole, whole']
  cases rules with
  | phrase placed =>
    rw [← head] at weights
    exact Placed.agree placed weights

end Rows

/-! ## Grammars without repeated productions -/

/-- The head and the body of a production. -/
def shape (production : Production) : Symbol × List Symbol :=
  (production.head, production.body)

theorem map_body_productionsOf (grammar : Grammar) (head : Symbol) :
    (grammar.productionsOf head).map Production.body =
      ((grammar.productions.toList.map shape).filter fun shape => shape.1 = head).map Prod.snd := by
  rw [List.filter_map, List.map_map]
  rfl

/-- Grammars without repeated productions differ at most in weights and notes if they have the same names
and words, and productions of the same heads and bodies in the same order. -/
theorem of_nodup (names : ∀ symbol, grammar.symbols.name? symbol = other.symbols.name? symbol)
    (words : ∀ word : String, grammar.lexicon[word]? = other.lexicon[word]?)
    (shapes : grammar.productions.toList.map shape = other.productions.toList.map shape)
    (distinct : grammar.productions.toList.Nodup) (distinct' : other.productions.toList.Nodup) :
    Rescored grammar other := by
  have bodies (head : Symbol) : (grammar.productionsOf head).map Production.body =
      (other.productionsOf head).map Production.body := by
    rw [map_body_productionsOf, map_body_productionsOf, shapes]
  refine ⟨names, words, bodies, fun head first second => ?_⟩
  have lengths : (grammar.productionsOf head).length = (other.productionsOf head).length := by
    simpa using congrArg List.length (bodies head)
  have nodup : (grammar.productionsOf head).Nodup := distinct.filter _
  have nodup' : (other.productionsOf head).Nodup := distinct'.filter _
  rw [getElem?_eq_getElem?_iff_of_nodup nodup, getElem?_eq_getElem?_iff_of_nodup nodup', lengths]

end Rescored

namespace Session

/-- Weights and notes only rank. If only these differ between two grammars, the trees of a sentence are
the same ones without them, and are in the same order if the productions of the root symbol have the same
weights. Only a word that raises the stop flag keeps a sentence from its trees, in both grammars then. -/
theorem parse_rescored (session session' : Session) (threshold threshold' : Threshold)
    (sentence : Sentence) (rescored : Rescored session.parser.grammar session'.parser.grammar) :
    ((session.parse threshold sentence).analysis = .cancelled ∧
      (session'.parse threshold' sentence).analysis = .cancelled ∧
        ∃ position, sentence.raisesStop position = true) ∨
    ∃ trees trees', (session.parse threshold sentence).analysis = .trees trees ∧
      (session'.parse threshold' sentence).analysis = .trees trees' ∧
      (trees.map Tree.stripped).Perm (trees'.map Tree.stripped) ∧
      ((session.parser.grammar.productionsOf .root).map Production.weight =
          (session'.parser.grammar.productionsOf .root).map Production.weight →
        trees.map Tree.stripped = trees'.map Tree.stripped) := by
  rcases (rescored.lockstep sentence).parse_rebuilt rfl rfl threshold threshold' with
    cancelled | ⟨charts, charts', build, build', rebuilt, answered, answered'⟩
  · exact .inl cancelled
  have roots := rescored.stripped_roots rebuilt
  refine .inr ⟨_, _, answered, answered', ?_, fun weights => ?_⟩
  · have same : ((Charts.rootRows sentence.words charts).map build).map Tree.stripped =
        ((Charts.rootRows sentence.words charts').map build').map Tree.stripped := by
      rw [← List.forall₂_eq_eq_eq, List.forall₂_map_left_iff, List.forall₂_map_right_iff]
      exact roots.imp fun _ _ related => related.1
    exact ((Tree.ranked_perm _).map _).trans ((List.Perm.of_eq same).trans
      ((Tree.ranked_perm _).symm.map _))
  · rw [← List.forall₂_eq_eq_eq, List.forall₂_map_left_iff, List.forall₂_map_right_iff]
    refine (Tree.related_ranked roots ?_).imp fun _ _ related => related.1
    exact fun tree tree' related => related.2 weights

/-! ## A word, alone or with nothing behind it -/

/-- A parser that prefers the word alone to the word with nothing behind it. -/
def preferringAlone : Parser where
  grammar := (Grammar.empty.addProduction ⟨.root, [.unknown], 2, "alone"⟩).addProduction
    ⟨.root, [.unknown, .empty], 1, ""⟩
  covered := by decide +kernel

/-- A parser that prefers the word with nothing behind it. -/
def preferringFollowed : Parser where
  grammar := (Grammar.empty.addProduction ⟨.root, [.unknown], 1, ""⟩).addProduction
    ⟨.root, [.unknown, .empty], 2, "followed"⟩
  covered := by decide +kernel

theorem rescored_preferringAlone :
    Rescored preferringAlone.grammar preferringFollowed.grammar :=
  .of_nodup (fun _ => rfl) (fun _ => rfl) (by decide +kernel) (by decide +kernel)
    (by decide +kernel)

def aloneTree (weight : Int) (note : String) : Tree :=
  ⟨"ROOT", "ROOT", weight, note, [⟨"x", "UNKNOWN", 0, "", []⟩]⟩

def followedTree (weight : Int) (note : String) : Tree :=
  ⟨"ROOT", "ROOT", weight, note, [⟨"x", "UNKNOWN", 0, "", []⟩, ⟨"", "EMPTY", 0, "", []⟩]⟩

theorem parse_preferringAlone :
    ((start preferringAlone).parse .off { words := ["x"] }).analysis =
      .trees [aloneTree 2 "alone", followedTree 1 ""] := by
  unfold parse Charts.rankedTrees?
  rw [Tree.ranked_eq_insertionSort]
  decide +kernel

theorem parse_preferringFollowed :
    ((start preferringFollowed).parse .off { words := ["x"] }).analysis =
      .trees [followedTree 2 "followed", aloneTree 1 ""] := by
  unfold parse Charts.rankedTrees?
  rw [Tree.ranked_eq_insertionSort]
  decide +kernel

/-! ## A word below another category -/

/-- The symbol of a phrase category besides the root symbol. -/
def innerSymbol : Symbol := ⟨Symbol.phraseBase + 1⟩

/-- A parser whose trees of a word have equal weights. -/
def notedOutside : Parser where
  grammar := (((Grammar.empty.register .phrase "INNER").2.addProduction
    ⟨.root, [innerSymbol], 2, "outer"⟩).addProduction ⟨.root, [.unknown, .empty], 2, ""⟩).addProduction
    ⟨innerSymbol, [.unknown], 0, ""⟩
  covered := by decide +kernel

/-- A parser that differs from it in notes and in a weight below the root. -/
def notedInside : Parser where
  grammar := (((Grammar.empty.register .phrase "INNER").2.addProduction
    ⟨.root, [innerSymbol], 2, ""⟩).addProduction ⟨.root, [.unknown, .empty], 2, ""⟩).addProduction
    ⟨innerSymbol, [.unknown], 5, "inner"⟩
  covered := by decide +kernel

theorem rescored_notedOutside : Rescored notedOutside.grammar notedInside.grammar :=
  .of_nodup (fun _ => rfl) (fun _ => rfl) (by decide +kernel) (by decide +kernel)
    (by decide +kernel)

def nestedTree (note : String) (weight : Int) (innerNote : String) : Tree :=
  ⟨"ROOT", "ROOT", 2, note,
    [⟨"INNER", "INNER", weight, innerNote, [⟨"x", "UNKNOWN", 0, "", []⟩]⟩]⟩

theorem parse_notedOutside :
    ((start notedOutside).parse .off { words := ["x"] }).analysis =
      .trees [nestedTree "outer" 0 "", followedTree 2 ""] := by
  unfold parse Charts.rankedTrees?
  rw [Tree.ranked_eq_insertionSort]
  decide +kernel

theorem parse_notedInside :
    ((start notedInside).parse .off { words := ["x"] }).analysis =
      .trees [nestedTree "" 5 "inner", followedTree 2 ""] := by
  unfold parse Charts.rankedTrees?
  rw [Tree.ranked_eq_insertionSort]
  decide +kernel

/-- Other weights of the productions of the root symbol put the trees in another order; other notes and
other weights of other productions do not. -/
theorem parse_rescored_preferring_and_noted :
    (Rescored preferringAlone.grammar preferringFollowed.grammar ∧
      ((start preferringAlone).parse .off { words := ["x"] }).analysis =
        .trees [aloneTree 2 "alone", followedTree 1 ""] ∧
      ((start preferringFollowed).parse .off { words := ["x"] }).analysis =
        .trees [followedTree 2 "followed", aloneTree 1 ""] ∧
      ([aloneTree 2 "alone", followedTree 1 ""].map Tree.stripped).Perm
        ([followedTree 2 "followed", aloneTree 1 ""].map Tree.stripped) ∧
      [aloneTree 2 "alone", followedTree 1 ""].map Tree.stripped ≠
        [followedTree 2 "followed", aloneTree 1 ""].map Tree.stripped) ∧
    (Rescored notedOutside.grammar notedInside.grammar ∧
      (notedOutside.grammar.productionsOf .root).map Production.weight =
        (notedInside.grammar.productionsOf .root).map Production.weight ∧
      ((start notedOutside).parse .off { words := ["x"] }).analysis =
        .trees [nestedTree "outer" 0 "", followedTree 2 ""] ∧
      ((start notedInside).parse .off { words := ["x"] }).analysis =
        .trees [nestedTree "" 5 "inner", followedTree 2 ""] ∧
      [nestedTree "outer" 0 "", followedTree 2 ""].map Tree.stripped =
        [nestedTree "" 5 "inner", followedTree 2 ""].map Tree.stripped) := by
  constructor
  · refine ⟨rescored_preferringAlone, parse_preferringAlone, parse_preferringFollowed, ?_,
      by decide +kernel⟩
    rcases parse_rescored (start preferringAlone) (start preferringFollowed) .off .off
      { words := ["x"] } rescored_preferringAlone with
      ⟨cancelled, _⟩ | ⟨trees, trees', answered, answered', permuted, _⟩
    · exact nomatch cancelled.symm.trans parse_preferringAlone
    · obtain rfl := Analysis.trees.inj (answered.symm.trans parse_preferringAlone)
      obtain rfl := Analysis.trees.inj (answered'.symm.trans parse_preferringFollowed)
      exact permuted
  · have weights : (notedOutside.grammar.productionsOf .root).map Production.weight =
        (notedInside.grammar.productionsOf .root).map Production.weight := by decide +kernel
    refine ⟨rescored_notedOutside, weights, parse_notedOutside, parse_notedInside, ?_⟩
    rcases parse_rescored (start notedOutside) (start notedInside) .off .off { words := ["x"] }
      rescored_notedOutside with
      ⟨cancelled, _⟩ | ⟨trees, trees', answered, answered', _, kept⟩
    · exact nomatch cancelled.symm.trans parse_notedOutside
    · obtain rfl := Analysis.trees.inj (answered.symm.trans parse_notedOutside)
      obtain rfl := Analysis.trees.inj (answered'.symm.trans parse_notedInside)
      exact kept weights

end Session

end ChartParsing
