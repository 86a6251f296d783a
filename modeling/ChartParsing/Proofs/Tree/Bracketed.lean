import ChartParsing.Proofs.Tree.Spelling

/-!
Contract: reading the bracketed form.

Owns why the bracketed form of trees tells everything but their weights and notes. A word may be a
bracket itself, so the brackets need not balance. But a bracket that is a word stands before the one that
closes its node, and a bracket that opens a node stands before the name of its category.
-/

set_option autoImplicit false

namespace ChartParsing

open GrammarText

namespace Sentence

variable {word other : String} {rest left : List Char}

/-- A token is told from the closing bracket behind it, also if it is one itself. -/
theorem IsToken.append_inj (isToken : IsToken word) (alsoToken : IsToken other)
    (same : word.toList ++ ')' :: rest = other.toList ++ ')' :: left) :
    word = other ∧ rest = left := by
  obtain ⟨first, others, spelling, unmarked, _⟩ := isToken.exists_cons
  obtain ⟨first', others', spelling', unmarked', _⟩ := alsoToken.exists_cons
  rw [spelling, spelling'] at same
  obtain ⟨sameFirst, sameOthers⟩ := List.cons.inj same
  have closes {text : List Char} : Ends (fun character => !isPunctuation character) (')' :: text) :=
    ends_cons (by decide)
  obtain ⟨behind, after⟩ := append_inj_of_ends
    (fun character member => by rw [unmarked character member]; rfl)
    (fun character member => by rw [unmarked' character member]; rfl) closes closes sameOthers
  refine ⟨String.toList_injective ?_, (List.cons.inj after).2⟩
  rw [spelling, spelling', sameFirst, behind]

/-- A token that begins with an opening bracket is nothing else. -/
theorem IsToken.eq_of_opening (isToken : IsToken word)
    (same : word.toList ++ rest = '(' :: left) : rest = left := by
  obtain ⟨first, others, spelling, _, alone⟩ := isToken.exists_cons
  rw [spelling] at same
  obtain ⟨rfl, sameOthers⟩ := List.cons.inj same
  rw [alone (by decide)] at sameOthers
  exact sameOthers

end Sentence

namespace Tree

/-- A node that can be read back: a leaf shows a token or nothing behind its category, and any other is
labelled with its category. -/
inductive Bracketable : Tree → Prop where
  | leaf {label category note : String} {weight : Int} (named : IsName category)
      (labelled : label = "" ∨ Sentence.IsToken label) :
      Bracketable ⟨label, category, weight, note, []⟩
  | inner {category note : String} {weight : Int} {children : List Tree} (named : IsName category)
      (inner : children ≠ []) : Bracketable ⟨category, category, weight, note, children⟩

theorem SpelledNode.bracketable {tree : Tree} (spelled : tree.SpelledNode) : tree.Bracketable := by
  cases spelled with
  | leaf named labelled => exact .leaf named labelled
  | inner named inner _ _ => exact .inner named inner

/-! ## The text of a node -/

theorem toList_bracketedAll_cons (tree : Tree) (others : List Tree) :
    (bracketedAll (tree :: others)).toList =
      ' ' :: (tree.bracketed.toList ++ (bracketedAll others).toList) := by
  simp [bracketedAll]

/-- What a node shows behind its category. -/
def behindCategory (tree : Tree) : List Char :=
  if tree.isLeaf then labelMark tree.label else (bracketedAll tree.children).toList

theorem behindCategory_of_inner {children : List Tree} (inner : children ≠ [])
    (label category : String) (weight : Int) (note : String) :
    behindCategory ⟨label, category, weight, note, children⟩ = (bracketedAll children).toList := by
  simp [behindCategory, isLeaf, inner]

theorem ends_behindCategory (tree : Tree) (rest : List Char) :
    Ends isNameChar (tree.behindCategory ++ ')' :: rest) := by
  have closes : Ends isNameChar (')' :: rest) := ends_cons (by decide)
  unfold behindCategory
  split
  · exact ends_labelMark _ closes
  · cases tree.children with
    | nil => exact closes
    | cons child others =>
      rw [toList_bracketedAll_cons]
      exact ends_cons (by decide)

section Node

variable {tree other : Tree} {rest left : List Char} (bracketable : tree.Bracketable)

include bracketable

theorem Bracketable.isName : IsName tree.category := by
  cases bracketable with
  | leaf named labelled => exact named
  | inner named inner => exact named

theorem Bracketable.toList_append (rest : List Char) :
    tree.bracketed.toList ++ rest =
      '(' :: (tree.category.toList ++ (tree.behindCategory ++ ')' :: rest)) := by
  cases bracketable with
  | leaf named labelled =>
    simp [bracketed, bracketedAll, toList_caption_of_leaf, behindCategory, isLeaf]
  | inner named inner =>
    simp [bracketed, caption_of_inner inner, behindCategory_of_inner inner]

/-- The text of a node begins with a bracket and a name. -/
theorem Bracketable.exists_opening :
    ∃ first more, tree.bracketed.toList = '(' :: first :: more ∧ isNameChar first = true := by
  obtain ⟨first, others, spelling, isFirst⟩ := bracketable.isName.exists_cons
  have split := bracketable.toList_append []
  rw [List.append_nil, spelling] at split
  exact ⟨first, _, split, isFirst⟩

/-- The text of a node tells its category. -/
theorem Bracketable.append_inj (alsoBracketable : other.Bracketable)
    (same : tree.bracketed.toList ++ rest = other.bracketed.toList ++ left) :
    tree.category = other.category ∧
      tree.behindCategory ++ ')' :: rest = other.behindCategory ++ ')' :: left := by
  rw [bracketable.toList_append, alsoBracketable.toList_append] at same
  exact bracketable.isName.append_inj alsoBracketable.isName (ends_behindCategory _ _)
    (ends_behindCategory _ _) (List.cons.inj same).2

end Node

/-! ## Telling trees from their text -/

variable {rest left : List Char}

/-- What a leaf shows behind its category is no text of children: a bracket that is a word closes its
node, and one that opens a node stands before a name. -/
theorem labelMark_ne_bracketedAll {label : String} (labelled : label = "" ∨ Sentence.IsToken label)
    {tree : Tree} (bracketable : tree.Bracketable) {others : List Tree} :
    labelMark label ++ ')' :: rest ≠ (bracketedAll (tree :: others)).toList ++ ')' :: left := by
  intro same
  rw [toList_bracketedAll_cons] at same
  rcases labelled with rfl | isToken
  · exact absurd (List.cons.inj same).1 (by decide)
  · obtain ⟨first, more, opening, isFirst⟩ := bracketable.exists_opening
    rw [labelMark, if_neg isToken.ne_empty, opening] at same
    have closing := isToken.eq_of_opening (List.cons.inj same).2
    rw [← (List.cons.inj closing).1] at isFirst
    exact absurd isFirst (by decide)

theorem labelMark_append_inj {label label' : String}
    (labelled : label = "" ∨ Sentence.IsToken label)
    (labelled' : label' = "" ∨ Sentence.IsToken label')
    (same : labelMark label ++ ')' :: rest = labelMark label' ++ ')' :: left) :
    label = label' ∧ rest = left := by
  rcases labelled with rfl | isToken <;> rcases labelled' with rfl | isToken'
  · exact ⟨rfl, (List.cons.inj same).2⟩
  · rw [labelMark, if_pos rfl, labelMark, if_neg isToken'.ne_empty] at same
    exact absurd (List.cons.inj same).1 (by decide)
  · rw [labelMark, if_neg isToken.ne_empty, labelMark, if_pos rfl] at same
    exact absurd (List.cons.inj same).1 (by decide)
  · rw [labelMark, if_neg isToken.ne_empty, labelMark, if_neg isToken'.ne_empty] at same
    exact isToken.append_inj isToken' (List.cons.inj same).2

/-- The text of a tree tells where it ends, and the tree up to its weights and notes. -/
def BracketsTell (tree : Tree) : Prop :=
  ∀ (other : Tree) (rest left : List Char), other.Everywhere Bracketable →
    tree.bracketed.toList ++ rest = other.bracketed.toList ++ left →
      tree.stripped = other.stripped ∧ rest = left

theorem bracketedAll_append_inj {trees others : List Tree} (tell : ∀ tree ∈ trees, tree.BracketsTell)
    (everywhere : ∀ tree ∈ others, tree.Everywhere Bracketable)
    (same : (bracketedAll trees).toList ++ ')' :: rest = (bracketedAll others).toList ++ ')' :: left) :
    trees.map stripped = others.map stripped ∧ rest = left := by
  induction trees generalizing others with
  | nil =>
    cases others with
    | nil => exact ⟨rfl, (List.cons.inj same).2⟩
    | cons other others' =>
      rw [toList_bracketedAll_cons] at same
      exact absurd (List.cons.inj same).1 (by decide)
  | cons tree trees' inductionHypothesis =>
    cases others with
    | nil =>
      rw [toList_bracketedAll_cons] at same
      exact absurd (List.cons.inj same).1 (by decide)
    | cons other others' =>
      obtain ⟨tellFirst, tellOthers⟩ := List.forall_mem_cons.1 tell
      obtain ⟨first, further⟩ := List.forall_mem_cons.1 everywhere
      rw [toList_bracketedAll_cons, toList_bracketedAll_cons, List.cons_append, List.cons_append,
        List.append_assoc, List.append_assoc] at same
      obtain ⟨sameTree, behind⟩ := tellFirst other _ _ first (List.cons.inj same).2
      obtain ⟨sameTrees, sameRest⟩ := inductionHypothesis tellOthers further behind
      exact ⟨by rw [List.map_cons, List.map_cons, sameTree, sameTrees], sameRest⟩

theorem Everywhere.bracketsTell {tree : Tree} (everywhere : tree.Everywhere Bracketable) :
    tree.BracketsTell := by
  induction everywhere with
  | @node tree here below tell =>
    intro other rest left alsoEverywhere same
    have alsoHere := alsoEverywhere.here
    have alsoBelow := alsoEverywhere.children
    obtain ⟨sameCategory, behind⟩ := here.append_inj alsoHere same
    cases here with
    | leaf named labelled =>
      cases alsoHere with
      | leaf named' labelled' =>
        obtain rfl := sameCategory
        obtain ⟨rfl, sameRest⟩ := labelMark_append_inj labelled labelled' behind
        exact ⟨rfl, sameRest⟩
      | inner named' inner' =>
        rw [behindCategory_of_inner inner'] at behind
        obtain ⟨child, others, rfl⟩ := List.exists_cons_of_ne_nil inner'
        have childHere := (alsoBelow child List.mem_cons_self).here
        exact absurd behind (labelMark_ne_bracketedAll labelled childHere)
    | inner named inner =>
      rw [behindCategory_of_inner inner] at behind
      cases alsoHere with
      | leaf named' labelled' =>
        obtain ⟨child, others, rfl⟩ := List.exists_cons_of_ne_nil inner
        have childHere := (below child List.mem_cons_self).here
        exact absurd behind.symm (labelMark_ne_bracketedAll labelled' childHere)
      | inner named' inner' =>
        obtain rfl := sameCategory
        rw [behindCategory_of_inner inner'] at behind
        obtain ⟨sameChildren, sameRest⟩ := bracketedAll_append_inj tell alsoBelow behind
        refine ⟨?_, sameRest⟩
        rw [stripped, stripped, strippedAll_eq_map, strippedAll_eq_map, sameChildren]

/-! ## Whole outputs -/

theorem toList_writtenAll_bracketed_cons (tree : Tree) (others : List Tree) :
    (writtenAll .bracketed (tree :: others)).toList =
      tree.bracketed.toList ++ '\n' :: (writtenAll .bracketed others).toList := by
  simp [writtenAll, written, linesIn]

theorem stripped_of_writtenAll_bracketed {trees others : List Tree}
    (everywhere : ∀ tree ∈ trees, tree.Everywhere Bracketable)
    (alsoEverywhere : ∀ tree ∈ others, tree.Everywhere Bracketable)
    (same : (writtenAll .bracketed trees).toList = (writtenAll .bracketed others).toList) :
    trees.map stripped = others.map stripped := by
  have notEmpty (tree : Tree) (others : List Tree) :
      (writtenAll .bracketed (tree :: others)).toList ≠ (writtenAll .bracketed []).toList := by
    rw [toList_writtenAll_bracketed_cons]
    exact List.append_ne_nil_of_right_ne_nil _ (List.cons_ne_nil _ _)
  induction trees generalizing others with
  | nil =>
    cases others with
    | nil => rfl
    | cons other others' => exact absurd same.symm (notEmpty other others')
  | cons tree trees' inductionHypothesis =>
    cases others with
    | nil => exact absurd same (notEmpty tree trees')
    | cons other others' =>
      obtain ⟨first, further⟩ := List.forall_mem_cons.1 everywhere
      obtain ⟨alsoFirst, alsoFurther⟩ := List.forall_mem_cons.1 alsoEverywhere
      rw [toList_writtenAll_bracketed_cons, toList_writtenAll_bracketed_cons] at same
      obtain ⟨sameTree, behind⟩ := first.bracketsTell other _ _ alsoFirst same
      have sameTrees := inductionHypothesis further alsoFurther (List.cons.inj behind).2
      rw [List.map_cons, List.map_cons, sameTree, sameTrees]

/-- Trees that are written the same in brackets are the same up to their weights and notes. The trees of
a grammar text and of the tokens of a text are among those. -/
theorem bracketed_readable :
    (∀ trees others : List Tree, (∀ tree ∈ trees, tree.Everywhere Bracketable) →
      (∀ tree ∈ others, tree.Everywhere Bracketable) →
      writtenAll .bracketed trees = writtenAll .bracketed others →
      trees.length = others.length ∧ trees.map stripped = others.map stripped) ∧
    ∀ (text input : String) (loading : Loading) (session : Session) (threshold : Threshold)
      (stopsAt : Nat → Bool) (trees : List Tree), Grammar.load text = .ok loading →
      session.parser.grammar = loading.grammar →
      (session.parse threshold ⟨Sentence.tokens input, stopsAt⟩).analysis = .trees trees →
      ∀ tree ∈ trees, tree.Everywhere Bracketable := by
  constructor
  · intro trees others everywhere alsoEverywhere same
    have sameStripped := stripped_of_writtenAll_bracketed everywhere alsoEverywhere
      (congrArg String.toList same)
    refine ⟨?_, sameStripped⟩
    simpa using congrArg List.length sameStripped
  · intro text input loading session threshold stopsAt trees loaded sameGrammar answered tree member
    exact (Session.everywhere_of_mem_trees loaded sameGrammar rfl answered tree member).mono
      fun _ => SpelledNode.bracketable

/-- The tree of two brackets, with another weight and note. -/
def unmarkedTree : Tree :=
  { markedTree with weight := 0, note := "" }

theorem bracketable_unmarkedTree : unmarkedTree.Everywhere Bracketable := by
  have named {name : String} (isName : IsName name) {label : String}
      (isToken : Sentence.IsToken label) :
      Everywhere Bracketable ⟨label, name, 0, "", []⟩ :=
    .leaf (.leaf isName (.inr isToken)) rfl
  have word : IsName "UNKNOWN" := by decide
  refine .node (.inner (by decide) (List.cons_ne_nil _ _)) (List.forall_mem_cons.2 ⟨?_, ?_⟩)
  · exact named word (.inl ⟨'(', by decide, rfl⟩)
  · exact List.forall_mem_singleton.2 (named word (.inl ⟨')', by decide, rfl⟩))

/-- Words that are brackets. -/
theorem bracketed_brackets :
    Grammar.load markedText = .ok ⟨marked.grammar, #[]⟩ ∧
      ((Session.start marked).parse .off ⟨Sentence.tokens "()", fun _ => false⟩).analysis =
        .trees [markedTree] ∧
      (∀ tree ∈ [markedTree], tree.Everywhere Bracketable) ∧
      (∀ tree ∈ [unmarkedTree], tree.Everywhere Bracketable) ∧
      writtenAll .bracketed [markedTree] = writtenAll .bracketed [unmarkedTree] ∧
      [markedTree].length = [unmarkedTree].length ∧
      [markedTree].map stripped = [unmarkedTree].map stripped := by
  have returned := bracketed_readable.2 markedText "()" _ (Session.start marked) .off
    (fun _ => false) [markedTree] load_marked rfl parse_marked
  have other : ∀ tree ∈ [unmarkedTree], tree.Everywhere Bracketable :=
    List.forall_mem_singleton.2 bracketable_unmarkedTree
  have same : writtenAll .bracketed [markedTree] = writtenAll .bracketed [unmarkedTree] := by
    decide +kernel
  exact ⟨load_marked, parse_marked, returned, other, same,
    bracketed_readable.1 _ _ returned other same⟩

example : writtenAll .bracketed [markedTree] = "(ROOT (UNKNOWN () (UNKNOWN )))\n" := by
  decide +kernel

end Tree

end ChartParsing
