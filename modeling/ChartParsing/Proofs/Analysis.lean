import ChartParsing.Proofs.Chart.Timing
import ChartParsing.Session
import Mathlib.Data.List.Forall2
import Mathlib.Data.Set.List

/-!
Contract: the trees that a parse comes to.

Owns the analysis of a sentence in terms of the rows of its charts: there is one tree for each
production of the root symbol that has a complete row over the whole sentence, and that tree is the
tree of a derivation. A parse that is not cancelled always comes to such trees.
-/

set_option autoImplicit false

namespace ChartParsing

namespace Charts

variable {grammar : Grammar} {words : List String} {charts : Charts}

def wholeItem (words : List String) (production : Production) : Item :=
  ⟨.phrase production, production.body.length, 0, words.length⟩

theorem Sound.isRootOver_iff (sound : charts.Sound grammar words) {row : Row}
    (member : row ∈ charts.rows.toList) :
    isRootOver words.length row = true ↔
      ∃ production, production.head = .root ∧ row.toItem = wholeItem words production := by
  have small := (sound.possible row member).dot
  obtain ⟨⟨rule, dot, start, stop⟩, id, parents, origin⟩ := row
  cases rule with
  | terminal category word => simp [isRootOver, wholeItem, Rule.isPhrase]
  | seed => simp [isRootOver, wholeItem, Rule.isPhrase]
  | phrase production =>
    simp only [Rule.arity] at small
    simp only [isRootOver, wholeItem, Rule.isPhrase, Rule.head, Item.isComplete, Rule.arity,
      Bool.and_eq_true, decide_eq_true_eq, Item.mk.injEq, Rule.phrase.injEq]
    constructor
    · rintro ⟨⟨⟨⟨_, isRoot⟩, full⟩, first⟩, last⟩
      exact ⟨production, of_decide_eq_true isRoot, rfl,
        Nat.le_antisymm small (of_decide_eq_true full), first, last⟩
    · rintro ⟨other, isRoot, rfl, full, first, last⟩
      exact ⟨⟨⟨⟨trivial, decide_eq_true isRoot⟩, decide_eq_true (Nat.le_of_eq full.symm)⟩, first⟩,
        last⟩

/-- The trees of a parse, listed with the productions that they are made by. Each production of the
root symbol with a complete row over the sentence has exactly one tree. -/
structure Analysed (grammar : Grammar) (words : List String) (condition : Item → Symbol → Prop)
    (charts : Charts) (productions : List Production) (trees : List Tree) : Prop where
  distinct : productions.Nodup
  mem_iff : ∀ production, production ∈ productions ↔
    production ∈ grammar.productionsOf .root ∧ charts.Has (wholeItem words production)
  derived : List.Forall₂ (fun production tree =>
    ∃ parts : Derivation grammar words production.body 0 words.length,
      tree = production.tree grammar parts.trees ∧
        parts.EachEmpty condition (.phrase production) 0 0) productions trees

theorem Stands.derived {condition : Item → Symbol → Prop} {forest : Array Tree} {row : Row}
    {production : Production} (stands : Stands grammar words condition forest row)
    (whole : row.toItem = wholeItem words production)
    (shown : ∃ tree, forest[row.id]? = some tree ∧ row.tree? grammar forest = some tree) :
    ∃ parts : Derivation grammar words production.body 0 words.length,
      forest[row.id]? = some (production.tree grammar parts.trees) ∧
        parts.EachEmpty condition (.phrase production) 0 0 := by
  obtain ⟨item, id, parents, origin⟩ := row
  obtain rfl : item = wholeItem words production := whole
  have matched := stands.parts rfl
  change ∃ parts : Derivation grammar words (production.body.take production.body.length) 0
      words.length,
    parents.reverse.map (fun parent => forest[parent]?) = parts.trees.map some ∧
      parts.EachEmpty condition (.phrase production) 0 0 at matched
  rw [List.take_length] at matched
  obtain ⟨parts, children, each⟩ := matched
  obtain ⟨tree, placed, shows⟩ := shown
  obtain ⟨others, found, rfl⟩ := Row.tree?_eq_some_iff.1 shows
  obtain rfl : others = parts.trees :=
    List.map_injective_iff.2 (Option.some_injective _) (found.symm.trans children)
  exact ⟨parts, placed, each⟩

theorem exists_productions {rows : List Row}
    (whole : ∀ row ∈ rows, ∃ production, row.toItem = wholeItem words production) :
    ∃ productions : List Production,
      productions.map (wholeItem words) = rows.map Row.toItem := by
  have inRange : rows.map Row.toItem ∈ Set.range (List.map (wholeItem words)) := by
    rw [Set.range_list_map]
    intro item listed
    obtain ⟨row, member, rfl⟩ := List.mem_map.1 listed
    obtain ⟨production, same⟩ := whole row member
    exact ⟨production, same.symm⟩
  exact inRange

theorem wholeItem_injective (words : List String) : Function.Injective (wholeItem words) := by
  intro left right same
  exact Rule.phrase.inj (congrArg Item.rule same)

/-! ## The ranked trees -/

def rootRows (words : List String) (charts : Charts) : List Row :=
  (charts.rowsAt words.length).filter (isRootOver words.length)

def treeIn (grammar : Grammar) (forest : Array Tree) (row : Row) : Tree :=
  (forest[row.id]?).getD (row.treeOver grammar [])

def rankedRootRows (grammar : Grammar) (words : List String) (charts : Charts)
    (forest : Array Tree) : List Row :=
  (rootRows words charts).mergeSort fun left right =>
    ((treeIn grammar forest left).rank (treeIn grammar forest right)).isLE

theorem map_rankedRootRows (grammar : Grammar) (words : List String) (charts : Charts)
    (forest : Array Tree) :
    (rankedRootRows grammar words charts forest).map (treeIn grammar forest) =
      Tree.ranked ((rootRows words charts).map (treeIn grammar forest)) := by
  apply List.map_mergeSort
  intro left _ right _
  rfl

theorem Sound.mem_rootRows (sound : charts.Sound grammar words) {row : Row} :
    row ∈ rootRows words charts ↔ row ∈ charts.rows.toList ∧
      ∃ production, production.head = .root ∧ row.toItem = wholeItem words production := by
  rw [rootRows, List.mem_filter, sound.mem_rowsAt]
  constructor
  · rintro ⟨⟨member, _⟩, isRoot⟩
    exact ⟨member, (sound.isRootOver_iff member).1 isRoot⟩
  · rintro ⟨member, isRoot⟩
    refine ⟨⟨member, ?_⟩, (sound.isRootOver_iff member).2 isRoot⟩
    obtain ⟨production, _, whole⟩ := isRoot
    exact congrArg Item.stop whole

theorem Sound.rankedTrees?_eq (sound : charts.Sound grammar words) {forest : Array Tree}
    (built : charts.forest? grammar = some forest)
    (shown : ∀ row ∈ charts.rows.toList, ∃ tree,
      forest[row.id]? = some tree ∧ row.tree? grammar forest = some tree) :
    charts.rankedTrees? grammar =
      some ((rankedRootRows grammar words charts forest).map (treeIn grammar forest)) := by
  have inside : words.length < charts.length := by
    rw [sound.length_eq]
    exact Nat.lt_succ_self _
  have last : charts.length - 1 = words.length := by
    rw [sound.length_eq]
    rfl
  have found : (rootRows words charts).mapM (fun row => forest[row.id]?) =
      some ((rootRows words charts).map (treeIn grammar forest)) := by
    rw [mapM_eq_some_iff, List.map_map]
    refine List.map_congr_left fun row member => ?_
    obtain ⟨tree, placed, _⟩ := shown row (sound.mem_rootRows.1 member).1
    simp [treeIn, placed]
  rw [map_rankedRootRows]
  rw [rootRows] at found
  simp [rankedTrees?, last, sound.coherent.roots?_eq inside, built, found, rootRows]

theorem Sound.nodup_items_rootRows (sound : charts.Sound grammar words) :
    ((rootRows words charts).map Row.toItem).Nodup := by
  rw [rootRows, sound.placed]
  exact sound.distinct.sublist ((List.filter_sublist.trans List.filter_sublist).map _)

theorem Sound.exists_rootRow_iff (sound : charts.Sound grammar words) {production : Production} :
    (∃ row ∈ rootRows words charts, row.toItem = wholeItem words production) ↔
      production ∈ grammar.productionsOf .root ∧ charts.Has (wholeItem words production) := by
  constructor
  · rintro ⟨row, member, whole⟩
    obtain ⟨stored, other, isRoot, same⟩ := sound.mem_rootRows.1 member
    obtain rfl := wholeItem_injective words (whole.symm.trans same)
    have fits := (sound.possible row stored).rule
    rw [whole] at fits
    cases fits with
    | phrase listed => exact ⟨Grammar.mem_productionsOf.2 ⟨listed, isRoot⟩, row, stored, whole⟩
  · rintro ⟨listed, row, stored, whole⟩
    have isRoot := (Grammar.mem_productionsOf.1 listed).2
    exact ⟨row, sound.mem_rootRows.2 ⟨stored, production, isRoot, whole⟩, whole⟩

theorem rankedRootRows_perm (grammar : Grammar) (words : List String) (charts : Charts)
    (forest : Array Tree) :
    (rankedRootRows grammar words charts forest).Perm (rootRows words charts) :=
  List.mergeSort_perm _ _

/-- The trees of the ranked rows of whole analyses are those of derivations. -/
theorem Sound.derived_rankedRootRows (sound : charts.Sound grammar words)
    {condition : Item → Symbol → Prop} (met : charts.MeetOnEmpty condition) {forest : Array Tree}
    (shown : ∀ row ∈ charts.rows.toList, ∃ tree,
      forest[row.id]? = some tree ∧ row.tree? grammar forest = some tree)
    {productions : List Production}
    (items : productions.map (wholeItem words) =
      (rankedRootRows grammar words charts forest).map Row.toItem) :
    List.Forall₂ (fun production tree =>
      ∃ parts : Derivation grammar words production.body 0 words.length,
        tree = production.tree grammar parts.trees ∧
          parts.EachEmpty condition (.phrase production) 0 0)
      productions ((rankedRootRows grammar words charts forest).map (treeIn grammar forest)) := by
  have perRow : List.Forall₂ (fun item tree => ∀ production, item = wholeItem words production →
      ∃ parts : Derivation grammar words production.body 0 words.length,
        tree = production.tree grammar parts.trees ∧
          parts.EachEmpty condition (.phrase production) 0 0)
      ((rankedRootRows grammar words charts forest).map Row.toItem)
      ((rankedRootRows grammar words charts forest).map (treeIn grammar forest)) := by
    rw [List.forall₂_map_left_iff, List.forall₂_map_right_iff, List.forall₂_same]
    intro row member production whole
    have isRootRow := (rankedRootRows_perm grammar words charts forest).mem_iff.1 member
    have stored := (sound.mem_rootRows.1 isRootRow).1
    have stands := sound.stands met shown row stored
    obtain ⟨parts, placed, each⟩ := stands.derived whole (shown row stored)
    exact ⟨parts, by simp [treeIn, placed], each⟩
  rw [← items, List.forall₂_map_left_iff] at perRow
  exact perRow.imp fun _ _ derived => derived _ rfl

/-- Sound charts always have ranked trees, one for each production with a row over the sentence. -/
theorem Sound.exists_analysed (sound : charts.Sound grammar words)
    {condition : Item → Symbol → Prop} (met : charts.MeetOnEmpty condition) :
    ∃ productions trees, charts.rankedTrees? grammar = some trees ∧
      Analysed grammar words condition charts productions trees := by
  obtain ⟨forest, built, shown⟩ := sound.exists_forest
  have permuted := rankedRootRows_perm grammar words charts forest
  obtain ⟨productions, items⟩ : ∃ productions : List Production,
      productions.map (wholeItem words) =
        (rankedRootRows grammar words charts forest).map Row.toItem := by
    refine exists_productions fun row member => ?_
    obtain ⟨_, production, _, whole⟩ := sound.mem_rootRows.1 (permuted.mem_iff.1 member)
    exact ⟨production, whole⟩
  refine ⟨productions, _, sound.rankedTrees?_eq built shown, ?_, ?_, ?_⟩
  · have distinct := (permuted.map Row.toItem).nodup_iff.2 sound.nodup_items_rootRows
    rw [← items] at distinct
    exact distinct.of_map
  · intro production
    rw [← sound.exists_rootRow_iff, ← List.mem_map_of_injective (wholeItem_injective words), items,
      List.mem_map]
    exact exists_congr fun row => and_congr_left fun _ => permuted.mem_iff
  · exact sound.derived_rankedRootRows met shown items

end Charts

/-! ## What a parse comes to -/

namespace Session

open Construction

/-- The trees that a parse comes to, listed with the productions that they are made by: those that
derive the sentence with every constituent without words in time. -/
structure Answered (grammar : Grammar) (sentence : Sentence) (productions : List Production)
    (trees : List Tree) : Prop where
  distinct : productions.Nodup
  mem_iff : ∀ production, production ∈ productions ↔
    production ∈ grammar.productionsOf .root ∧
      ∃ parts : Derivation grammar sentence.words production.body 0 sentence.words.length,
        parts.EachEmpty (InTime grammar sentence) (.phrase production) 0 0
  derived : List.Forall₂ (fun production tree =>
    ∃ parts : Derivation grammar sentence.words production.body 0 sentence.words.length,
      tree = production.tree grammar parts.trees) productions trees

theorem Answered.trees_ne_nil_iff {grammar : Grammar} {sentence : Sentence}
    {productions : List Production} {trees : List Tree}
    (answered : Answered grammar sentence productions trees) :
    trees ≠ [] ↔ ∃ production ∈ grammar.productionsOf .root,
      ∃ parts : Derivation grammar sentence.words production.body 0 sentence.words.length,
        parts.EachEmpty (InTime grammar sentence) (.phrase production) 0 0 := by
  rw [← List.length_pos_iff_ne_nil, ← answered.derived.length_eq, List.length_pos_iff_exists_mem]
  exact exists_congr answered.mem_iff

theorem answered_of_analysed {grammar : Grammar} {sentence : Sentence} {charts : Charts}
    {productions : List Production} {trees : List Tree}
    (finished : Finished grammar sentence charts)
    (analysed : Charts.Analysed grammar sentence.words (InTime grammar sentence) charts productions
      trees) : Answered grammar sentence productions trees where
  distinct := analysed.distinct
  mem_iff := by
    intro production
    constructor
    · intro member
      obtain ⟨index, inside, rfl⟩ := List.getElem_of_mem member
      have listed := ((analysed.mem_iff _).1 member).1
      have sameLength := analysed.derived.length_eq
      obtain ⟨parts, _, each⟩ := analysed.derived.get inside (by rwa [← sameLength])
      exact ⟨listed, parts, each⟩
    · rintro ⟨listed, parts, each⟩
      exact (analysed.mem_iff production).2 ⟨listed, finished.saturated.whole listed parts each⟩
  derived := analysed.derived.imp fun _ _ ⟨parts, shown, _⟩ => ⟨parts, shown⟩

/-- A parse is cancelled only if a word raises the stop flag; every other parse comes to trees. -/
theorem parse_cases (session : Session) (threshold : Threshold) (sentence : Sentence) :
    ((session.parse threshold sentence).analysis = .cancelled ∧
      ∃ position, sentence.raisesStop position = true) ∨
    ∃ productions trees, (session.parse threshold sentence).analysis = .trees trees ∧
      Answered session.parser.grammar sentence productions trees := by
  rcases construct_ends session.parser.grammar sentence with ⟨charts, ended⟩ | ⟨ended, raises⟩
  · have finished := finished_of_construct ended
    obtain ⟨productions, trees, ranked, analysed⟩ :=
      finished.sound.exists_analysed finished.meetOnEmpty
    exact .inr ⟨productions, trees, by simp [parse, ended, ranked],
      answered_of_analysed finished analysed⟩
  · exact .inl ⟨by simp [parse, ended], raises⟩

theorem exists_answered_of_trees (session : Session) (threshold : Threshold) {sentence : Sentence}
    {trees : List Tree} (answered : (session.parse threshold sentence).analysis = .trees trees) :
    ∃ productions, Answered session.parser.grammar sentence productions trees := by
  rcases session.parse_cases threshold sentence with
    ⟨cancelled, _⟩ | ⟨productions, others, same, found⟩
  · rw [cancelled] at answered
    exact nomatch answered
  · obtain rfl : others = trees := Analysis.trees.inj (same.symm.trans answered)
    exact ⟨productions, found⟩

end Session

end ChartParsing
