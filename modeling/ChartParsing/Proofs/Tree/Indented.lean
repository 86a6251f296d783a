import ChartParsing.Proofs.Tree.Spelling
import Std.Data.String.ToInt

/-!
Contract: reading the indented form.

Owns why the indented form of trees tells all of them. The line of a node ends at the first line feed,
and the lines of its children are those that follow with a wider margin. So a leaf and a phrase with the
same line, such as a word that looks like a weight and a weight, differ in what follows. Of a phrase, the
line tells the category, which holds no space, then the weight up to its bracket, then the note up to the
end.
-/

set_option autoImplicit false

namespace ChartParsing.Tree

open GrammarText

/-- A node that can be read back: a leaf has no more than a word behind its category, and any other is
labelled with its category and has a weight and a note. -/
inductive Indentable : Tree → Prop where
  | leaf {label category : String} (named : IsName category)
      (unbroken : ∀ character ∈ label.toList, Text.isBlank character = false) :
      Indentable ⟨label, category, 0, "", []⟩
  | inner {category note : String} {weight : Int} {children : List Tree} (named : IsName category)
      (inner : children ≠ []) (inRange : IsWeight weight) (noted : IsNote note) :
      Indentable ⟨category, category, weight, note, children⟩

theorem SpelledNode.indentable {tree : Tree} (spelled : tree.SpelledNode) : tree.Indentable := by
  cases spelled with
  | leaf named labelled =>
    refine .leaf named ?_
    rcases labelled with rfl | isToken
    · exact fun character member => absurd member List.not_mem_nil
    · exact isToken.isBlank_eq_false
  | inner named inner inRange noted => exact .inner named inner inRange noted

/-! ## Weights and notes -/

theorem toList_weightMark {weight : Int} (marked : weight ≠ 0) :
    (weightMark weight).toList = ' ' :: '[' :: (weight.repr.toList ++ [']']) := by
  have shown : weightMark weight = " [" ++ weight.repr ++ "]" := if_neg marked
  simp [shown]

theorem toList_noteMark {note : String} (marked : note ≠ "") :
    (noteMark note).toList = ' ' :: '\x7b' :: (note.toList ++ ['\x7d']) := by
  simp [noteMark, marked]

theorem noteMark_inj {note note' : String}
    (same : (noteMark note).toList = (noteMark note').toList) : note = note' := by
  by_cases marked : note = "" <;> by_cases marked' : note' = ""
  · rw [marked, marked']
  · rw [marked, toList_noteMark marked'] at same
    exact nomatch same
  · rw [marked', toList_noteMark marked] at same
    exact nomatch same
  · rw [toList_noteMark marked, toList_noteMark marked'] at same
    have behind := (List.cons.inj (List.cons.inj same).2).2
    exact String.toList_injective (List.append_cancel_right behind)

theorem mem_repr {weight : Int} {character : Char} (member : character ∈ weight.repr.toList) :
    character = '-' ∨ character.isDigit = true := by
  have digits {number : Nat} (member : character ∈ number.repr.toList) :
      character.isDigit = true := by
    rw [Nat.toList_repr] at member
    exact Nat.isDigit_of_mem_toDigits (by decide) (by decide) member
  cases weight with
  | ofNat number => exact .inr (digits member)
  | negSucc number =>
    have split : (Int.negSucc number).repr.toList = '-' :: (number + 1).repr.toList :=
      String.toList_append
    rw [split] at member
    exact (List.mem_cons.1 member).imp id digits

/-- A weight does not look like a note. -/
theorem weightMark_append_ne_noteMark {weight : Int} (marked : weight ≠ 0) (text : List Char)
    (note : String) : (weightMark weight).toList ++ text ≠ (noteMark note).toList := by
  intro same
  rw [toList_weightMark marked] at same
  by_cases unmarked : note = ""
  · rw [unmarked] at same
    exact nomatch same
  · rw [toList_noteMark unmarked] at same
    exact absurd (List.cons.inj (List.cons.inj same).2).1 (by decide)

theorem marks_inj {weight weight' : Int} {note note' : String}
    (same : (weightMark weight).toList ++ (noteMark note).toList =
      (weightMark weight').toList ++ (noteMark note').toList) : weight = weight' ∧ note = note' := by
  by_cases marked : weight = 0 <;> by_cases marked' : weight' = 0
  · rw [marked, marked'] at same
    exact ⟨marked.trans marked'.symm, noteMark_inj (List.append_cancel_left same)⟩
  · rw [marked] at same
    exact absurd same.symm (weightMark_append_ne_noteMark marked' _ _)
  · rw [marked'] at same
    exact absurd same (weightMark_append_ne_noteMark marked _ _)
  · have closing {weight : Int} : ']' ∉ weight.repr.toList := by
      intro member
      exact absurd (mem_repr member) (by decide)
    simp only [toList_weightMark marked, toList_weightMark marked', List.cons_append,
      List.append_assoc, List.nil_append] at same
    obtain ⟨sameWeight, sameNote⟩ :=
      append_cons_inj closing closing (List.cons.inj (List.cons.inj same).2).2
    exact ⟨Int.repr_inj.1 (String.toList_injective sameWeight), noteMark_inj sameNote⟩

/-! ## The line of a node -/

/-- The line of a node, without its margin. -/
def headline (tree : Tree) : List Char :=
  tree.caption.toList ++ ((weightMark tree.weight).toList ++ (noteMark tree.note).toList)

theorem headline_leaf (label category : String) :
    headline ⟨label, category, 0, "", []⟩ = category.toList ++ labelMark label := by
  rw [headline, toList_caption_of_leaf]
  exact List.append_nil _

theorem headline_inner {children : List Tree} (inner : children ≠ []) (category : String)
    (weight : Int) (note : String) :
    headline ⟨category, category, weight, note, children⟩ =
      category.toList ++ ((weightMark weight).toList ++ (noteMark note).toList) := by
  rw [headline, caption_of_inner inner]

theorem ends_marks (weight : Int) (note : String) :
    Ends isNameChar ((weightMark weight).toList ++ (noteMark note).toList) := by
  by_cases weighted : weight = 0
  · by_cases noted : note = ""
    · rw [weighted, noted]
      exact ends_nil
    · rw [weighted, toList_noteMark noted]
      exact ends_cons (by decide)
  · rw [toList_weightMark weighted]
    exact ends_cons (by decide)

theorem newline_not_mem_marks (weight : Int) {note : String} (isNote : IsNote note) :
    '\n' ∉ (weightMark weight).toList ++ (noteMark note).toList := by
  have inWeight : '\n' ∉ (weightMark weight).toList := by
    by_cases weighted : weight = 0
    · rw [weighted]
      decide
    · have inNumber : '\n' ∉ weight.repr.toList :=
        fun member => absurd (mem_repr member) (by decide)
      simp [toList_weightMark weighted, inNumber]
  have inNote : '\n' ∉ (noteMark note).toList := by
    by_cases noted : note = ""
    · rw [noted]
      decide
    · simp [toList_noteMark noted, isNote.2]
  exact fun member => (List.mem_append.1 member).elim inWeight inNote

/-- The line of a node is its category, and marks in which there is no line feed. -/
theorem Indentable.exists_headline {tree : Tree} (indentable : tree.Indentable) :
    IsName tree.category ∧ ∃ marks, tree.headline = tree.category.toList ++ marks ∧ '\n' ∉ marks := by
  cases indentable with
  | leaf named unbroken =>
    refine ⟨named, _, headline_leaf _ _, fun member => ?_⟩
    unfold labelMark at member
    split at member
    · exact absurd member List.not_mem_nil
    · have inLabel := (List.mem_cons.1 member).resolve_left (by decide)
      exact absurd (unbroken _ inLabel) (by decide)
  | inner named inner _ noted =>
    exact ⟨named, _, headline_inner inner _ _ _, newline_not_mem_marks _ noted⟩

theorem Indentable.newline_not_mem {tree : Tree} (indentable : tree.Indentable) :
    '\n' ∉ tree.headline := by
  obtain ⟨named, marks, split, clean⟩ := indentable.exists_headline
  rw [split]
  intro member
  rcases List.mem_append.1 member with inName | inMarks
  · exact absurd (named.2 _ inName) (by decide)
  · exact clean inMarks

theorem labelMark_inj {label label' : String} (same : labelMark label = labelMark label') :
    label = label' := by
  unfold labelMark at same
  split at same <;> split at same
  case isTrue.isTrue unlabelled unlabelled' => rw [unlabelled, unlabelled']
  case isTrue.isFalse => exact nomatch same
  case isFalse.isTrue => exact nomatch same
  case isFalse.isFalse => exact String.toList_injective (List.cons.inj same).2

/-- The line of a node and its children tell the node. -/
theorem Indentable.eq_of_headline {tree other : Tree} (indentable : tree.Indentable)
    (alsoIndentable : other.Indentable) (sameChildren : tree.children = other.children)
    (same : tree.headline = other.headline) : tree = other := by
  cases indentable with
  | @leaf label category named unbroken =>
    cases alsoIndentable with
    | leaf named' unbroken' =>
      have ends (label : String) : Ends isNameChar (labelMark label) := by
        simpa using ends_labelMark label ends_nil
      rw [headline_leaf, headline_leaf] at same
      obtain ⟨rfl, behind⟩ := named.append_inj named' (ends _) (ends _) same
      rw [labelMark_inj behind]
    | inner named' inner' => exact absurd sameChildren.symm inner'
  | inner named inner inRange noted =>
    cases alsoIndentable with
    | leaf named' unbroken' => exact absurd sameChildren inner
    | inner named' inner' inRange' noted' =>
      obtain rfl := sameChildren
      rw [headline_inner inner, headline_inner inner'] at same
      obtain ⟨rfl, marks⟩ := named.append_inj named' (ends_marks _ _) (ends_marks _ _) same
      obtain ⟨rfl, rfl⟩ := marks_inj marks
      rfl

/-! ## Margins -/

/-- The lines of a tree whose root has some depth, as one text. -/
def indentedAt (depth : Nat) (tree : Tree) : String :=
  String.join (linesAt depth tree)

/-- The lines of trees whose roots have one depth, as one text. -/
def indentedAllAt (depth : Nat) (trees : List Tree) : String :=
  String.join (linesAllAt depth trees)

theorem indentedAllAt_cons (depth : Nat) (tree : Tree) (others : List Tree) :
    indentedAllAt depth (tree :: others) = indentedAt depth tree ++ indentedAllAt depth others :=
  String.join_append

theorem toList_indentedAt (depth : Nat) (tree : Tree) :
    (indentedAt depth tree).toList =
      List.replicate (2 * depth) ' ' ++
        (tree.headline ++ '\n' :: (indentedAllAt (depth + 1) tree.children).toList) := by
  obtain ⟨label, category, weight, note, children⟩ := tree
  simp [indentedAt, indentedAllAt, linesAt, headline, margin]

theorem toList_indentedAllAt_cons (depth : Nat) (tree : Tree) (others : List Tree) :
    (indentedAllAt depth (tree :: others)).toList =
      (indentedAt depth tree).toList ++ (indentedAllAt depth others).toList := by
  rw [indentedAllAt_cons, String.toList_append]

/-- A text does not go on with a node of some depth, or below. -/
def Outside (depth : Nat) (rest : List Char) : Prop :=
  rest = [] ∨ ¬ List.replicate (2 * depth) ' ' <+: rest

theorem Outside.succ {depth : Nat} {rest : List Char} (outside : Outside depth rest) :
    Outside (depth + 1) rest := by
  refine outside.imp id fun notMargin isMargin => notMargin ?_
  rw [Nat.mul_succ, List.replicate_add] at isMargin
  exact (List.prefix_append _ _).trans isMargin

/-- The margin of a node is no wider than its depth asks for. -/
theorem Indentable.outside_succ {tree : Tree} (indentable : tree.Indentable) (depth : Nat)
    (rest : List Char) : Outside (depth + 1) ((indentedAt depth tree).toList ++ rest) := by
  refine .inr fun isMargin => ?_
  obtain ⟨named, marks, split, _⟩ := indentable.exists_headline
  obtain ⟨first, others, spelling, isFirst⟩ := named.exists_cons
  rw [Nat.mul_succ, List.replicate_add, toList_indentedAt, split, spelling, List.append_assoc,
    List.prefix_append_right_inj] at isMargin
  have isSpace : ' ' = first := (List.cons_prefix_cons.1 isMargin).1
  rw [← isSpace] at isFirst
  exact absurd isFirst (by decide)

theorem not_outside (depth : Nat) (tree : Tree) (rest : List Char) :
    ¬ Outside depth ((indentedAt depth tree).toList ++ rest) := by
  rw [toList_indentedAt, List.append_assoc]
  rintro (nothing | notMargin)
  · simp at nothing
  · exact notMargin (List.prefix_append _ _)

/-! ## Telling trees from their lines -/

/-- The lines of a tree tell where they end, and the tree, if what follows is not below it. -/
def LinesTell (tree : Tree) : Prop :=
  ∀ (other : Tree) (depth : Nat) (rest left : List Char), other.Everywhere Indentable →
    Outside (depth + 1) rest → Outside (depth + 1) left →
      (indentedAt depth tree).toList ++ rest = (indentedAt depth other).toList ++ left →
        tree = other ∧ rest = left

theorem indentedAllAt_append_inj {trees others : List Tree} {depth : Nat} {rest left : List Char}
    (tell : ∀ tree ∈ trees, tree.LinesTell) (everywhere : ∀ tree ∈ trees, tree.Everywhere Indentable)
    (alsoEverywhere : ∀ tree ∈ others, tree.Everywhere Indentable) (outside : Outside depth rest)
    (alsoOutside : Outside depth left)
    (same : (indentedAllAt depth trees).toList ++ rest =
      (indentedAllAt depth others).toList ++ left) : trees = others ∧ rest = left := by
  have outsideLater {trees : List Tree} (everywhere : ∀ tree ∈ trees, tree.Everywhere Indentable)
      {rest : List Char} (outside : Outside depth rest) :
      Outside (depth + 1) ((indentedAllAt depth trees).toList ++ rest) := by
    cases trees with
    | nil => exact outside.succ
    | cons tree others =>
      rw [toList_indentedAllAt_cons, List.append_assoc]
      exact (everywhere tree List.mem_cons_self).here.outside_succ depth _
  induction trees generalizing others with
  | nil =>
    cases others with
    | nil => exact ⟨rfl, same⟩
    | cons other others' =>
      rw [toList_indentedAllAt_cons, List.append_assoc] at same
      have goesOn : rest = _ := same
      rw [goesOn] at outside
      exact absurd outside (not_outside depth other _)
  | cons tree trees' inductionHypothesis =>
    obtain ⟨first, further⟩ := List.forall_mem_cons.1 everywhere
    cases others with
    | nil =>
      rw [toList_indentedAllAt_cons, List.append_assoc] at same
      have goesOn : left = _ := same.symm
      rw [goesOn] at alsoOutside
      exact absurd alsoOutside (not_outside depth tree _)
    | cons other others' =>
      obtain ⟨alsoFirst, alsoFurther⟩ := List.forall_mem_cons.1 alsoEverywhere
      obtain ⟨tellFirst, tellOthers⟩ := List.forall_mem_cons.1 tell
      rw [toList_indentedAllAt_cons, toList_indentedAllAt_cons, List.append_assoc,
        List.append_assoc] at same
      obtain ⟨rfl, behind⟩ := tellFirst other depth _ _ alsoFirst (outsideLater further outside)
        (outsideLater alsoFurther alsoOutside) same
      obtain ⟨rfl, sameRest⟩ := inductionHypothesis tellOthers further alsoFurther behind
      exact ⟨rfl, sameRest⟩

theorem Everywhere.linesTell {tree : Tree} (everywhere : tree.Everywhere Indentable) :
    tree.LinesTell := by
  induction everywhere with
  | @node tree here below tell =>
    intro other depth rest left alsoEverywhere outside alsoOutside same
    have alsoHere := alsoEverywhere.here
    rw [toList_indentedAt, toList_indentedAt, List.append_assoc, List.append_assoc, List.append_assoc,
      List.append_assoc] at same
    obtain ⟨sameLine, behind⟩ := append_cons_inj here.newline_not_mem alsoHere.newline_not_mem
      (List.append_cancel_left same)
    obtain ⟨sameChildren, sameRest⟩ := indentedAllAt_append_inj tell below alsoEverywhere.children
      outside alsoOutside behind
    exact ⟨here.eq_of_headline alsoHere sameChildren sameLine, sameRest⟩

/-! ## Whole outputs -/

theorem writtenAll_indented (trees : List Tree) :
    writtenAll .indented trees = indentedAllAt 0 trees := by
  induction trees with
  | nil => rfl
  | cons tree others inductionHypothesis =>
    rw [writtenAll, inductionHypothesis, indentedAllAt_cons]
    rfl

/-- Trees that are written the same in lines are the same. The trees of a grammar text and of the tokens
of a text are among those. -/
theorem indented_readable :
    (∀ trees others : List Tree, (∀ tree ∈ trees, tree.Everywhere Indentable) →
      (∀ tree ∈ others, tree.Everywhere Indentable) →
      writtenAll .indented trees = writtenAll .indented others → trees = others) ∧
    ∀ (text input : String) (loading : Loading) (session : Session) (threshold : Threshold)
      (stopsAt : Nat → Bool) (trees : List Tree), Grammar.load text = .ok loading →
      session.parser.grammar = loading.grammar →
      (session.parse threshold ⟨Sentence.tokens input, stopsAt⟩).analysis = .trees trees →
      ∀ tree ∈ trees, tree.Everywhere Indentable := by
  constructor
  · intro trees others everywhere alsoEverywhere same
    rw [writtenAll_indented, writtenAll_indented] at same
    have tell : ∀ tree ∈ trees, tree.LinesTell :=
      fun tree member => (everywhere tree member).linesTell
    have sameText : (indentedAllAt 0 trees).toList ++ [] = (indentedAllAt 0 others).toList ++ [] := by
      rw [same]
    exact (indentedAllAt_append_inj tell everywhere alsoEverywhere (.inl rfl) (.inl rfl) sameText).1
  · intro text input loading session threshold stopsAt trees loaded sameGrammar answered tree member
    exact (Session.everywhere_of_mem_trees loaded sameGrammar rfl answered tree member).mono
      fun _ => SpelledNode.indentable

/-- A note that looks like a weight and the beginning of a note. -/
theorem indented_markedTree :
    let spelled : Tree := ⟨"ROOT", "ROOT", 2, "a [2] \x7b",
      [⟨"(", "UNKNOWN", 0, "", []⟩, ⟨")", "UNKNOWN", 0, "", []⟩]⟩
    Grammar.load markedText = .ok ⟨marked.grammar, #[]⟩ ∧
      ((Session.start marked).parse .off ⟨Sentence.tokens "()", fun _ => false⟩).analysis =
        .trees [markedTree] ∧
      (∀ tree ∈ [markedTree], tree.Everywhere Indentable) ∧
      (∀ tree ∈ [spelled], tree.Everywhere Indentable) ∧
      writtenAll .indented [markedTree] = writtenAll .indented [spelled] ∧
      [markedTree] = [spelled] := by
  have returned := indented_readable.2 markedText "()" _ (Session.start marked) .off
    (fun _ => false) [markedTree] load_marked rfl parse_marked
  exact ⟨load_marked, parse_marked, returned, returned, rfl,
    indented_readable.1 _ _ returned returned rfl⟩

example : writtenAll .indented [markedTree] =
    "ROOT [2] \x7ba [2] \x7b\x7d\n  UNKNOWN (\n  UNKNOWN )\n" := by
  decide +kernel

end ChartParsing.Tree
