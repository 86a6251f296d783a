import ChartParsing.Proofs.Completeness
import Mathlib.Order.Bounds.Defs

/-!
Contract: the order of trees.

Owns the trees of a parse as the reconstructions of the rows that stand for whole analyses, each of
them once, those of greater weight first and those of one weight in the order of their rows. In a
grammar without empty bodies and empty terminals no production of the root symbol that derives the
sentence is missing, so the first tree is by a heaviest one.
-/

set_option autoImplicit false

namespace ChartParsing

/-! ## The order of weights -/

namespace Tree

theorem rank_isLE_iff {left right : Tree} :
    (left.rank right).isLE = true ↔ right.weight ≤ left.weight :=
  Int.isLE_compare

theorem rank_trans (first second third : Tree) (one : (first.rank second).isLE = true)
    (two : (second.rank third).isLE = true) : (first.rank third).isLE = true := by
  rw [rank_isLE_iff] at one two ⊢
  exact two.trans one

theorem rank_total (left right : Tree) :
    ((left.rank right).isLE || (right.rank left).isLE) = true := by
  rw [Bool.or_eq_true, rank_isLE_iff, rank_isLE_iff]
  exact le_total _ _

theorem ranked_perm (trees : List Tree) : (ranked trees).Perm trees :=
  List.mergeSort_perm trees _

theorem ranked_eq_insertionSort :
    ranked = List.insertionSort fun left right => (left.rank right).isLE = true :=
  funext (mergeSort_eq_insertionSort rank_trans rank_total)

/-- Related trees of equal weights are ranked side by side. -/
theorem related_ranked {related : Tree → Tree → Prop} {trees trees' : List Tree}
    (pairwise : List.Forall₂ related trees trees')
    (weights : ∀ tree tree', related tree tree' → tree.weight = tree'.weight) :
    List.Forall₂ related (ranked trees) (ranked trees') := by
  refine related_mergeSort pairwise fun first first' second second' isFirst isSecond => ?_
  rw [rank, rank, weights first first' isFirst, weights second second' isSecond]

end Tree

namespace Charts

variable {grammar : Grammar} {words : List String} {charts : Charts}

/-! ## Reconstruction -/

/-- Trees for rows, each put together from the trees of the parents of its row, the newest of which
comes first in the row. -/
structure Reconstructs (grammar : Grammar) (charts : Charts) (build : Row → Tree) : Prop where
  build_eq : ∀ row ∈ charts.rows.toList, ∃ parents : List Row,
    row.parents.reverse.map charts.row? = parents.map some ∧
      build row = row.treeOver grammar (parents.map build)

theorem Reconstructs.weight_eq {build : Row → Tree} (reconstructs : Reconstructs grammar charts build)
    {row : Row} (member : row ∈ charts.rows.toList) : (build row).weight = row.rule.weight := by
  obtain ⟨parents, _, same⟩ := reconstructs.build_eq row member
  rw [same]
  rfl

/-- The parents of a row are rows with smaller numbers. -/
theorem Sound.mem_and_lt_of_parents (sound : charts.Sound grammar words) {row : Row}
    (member : row ∈ charts.rows.toList) {parents : List Row}
    (stored : row.parents.reverse.map charts.row? = parents.map some) {parent : Row}
    (isParent : parent ∈ parents) : parent ∈ charts.rows.toList ∧ parent.id < row.id := by
  obtain ⟨id, listed, found⟩ := List.mem_map.1 (stored ▸ List.mem_map_of_mem isParent)
  refine ⟨row?_mem found, ?_⟩
  rw [sound.coherent.numbered found]
  exact sound.parents_lt row member id (List.mem_reverse.1 listed)

/-- There is only one way to reconstruct the trees. -/
theorem Reconstructs.eq_of_mem (sound : charts.Sound grammar words) {build other : Row → Tree}
    (first : Reconstructs grammar charts build) (second : Reconstructs grammar charts other)
    {row : Row} (member : row ∈ charts.rows.toList) : build row = other row := by
  obtain ⟨parents, found, shown⟩ := first.build_eq row member
  obtain ⟨others, alsoFound, alsoShown⟩ := second.build_eq row member
  obtain rfl : parents = others :=
    List.map_injective_iff.2 (Option.some_injective _) (found.symm.trans alsoFound)
  rw [shown, alsoShown]
  refine congrArg _ (List.map_congr_left fun parent isParent => ?_)
  have ⟨alsoMember, smaller⟩ := sound.mem_and_lt_of_parents member found isParent
  exact first.eq_of_mem sound second alsoMember
termination_by row.id

theorem treeIn_eq {forest : Array Tree} {row : Row} {tree : Tree}
    (placed : forest[row.id]? = some tree) : treeIn grammar forest row = tree := by
  rw [treeIn, placed]
  rfl

theorem Sound.reconstructs (sound : charts.Sound grammar words) {forest : Array Tree}
    (shown : ∀ row ∈ charts.rows.toList, ∃ tree,
      forest[row.id]? = some tree ∧ row.tree? grammar forest = some tree) :
    Reconstructs grammar charts (treeIn grammar forest) where
  build_eq := by
    intro row member
    obtain ⟨tree, placed, shows⟩ := shown row member
    obtain ⟨children, found, rfl⟩ := Row.tree?_eq_some_iff.1 shows
    obtain ⟨parents, stored⟩ : ∃ parents : List Row,
        row.parents.reverse.map charts.row? = parents.map some :=
      exists_map_getElem? fun id isParent =>
        (sound.parents_lt row member id (List.mem_reverse.1 isParent)).trans
          (sound.coherent.id_lt member)
    refine ⟨parents, stored, ?_⟩
    rw [treeIn_eq placed]
    refine congrArg _ (List.map_injective_iff.2 (Option.some_injective _) ?_)
    calc children.map some
        = row.parents.reverse.map (fun parent => forest[parent]?) := found.symm
      _ = row.parents.reverse.map fun parent => (charts.row? parent).map (treeIn grammar forest) := by
          refine List.map_congr_left fun id isParent => ?_
          obtain ⟨parent, _, same⟩ := List.mem_map.1 (stored ▸ List.mem_map_of_mem isParent)
          obtain ⟨tree, alsoPlaced, _⟩ := shown parent (row?_mem same.symm)
          rw [← same, Option.map_some, treeIn_eq alsoPlaced, ← alsoPlaced,
            sound.coherent.numbered same.symm]
      _ = (parents.map (treeIn grammar forest)).map some := by
          rw [← Function.comp_def, ← List.map_map, stored, List.map_map, List.map_map]
          rfl

/-! ## Ranking -/

/-- The ranked trees are those of the rows that stand for whole analyses. -/
theorem Sound.exists_reconstructs (sound : charts.Sound grammar words) :
    ∃ build, charts.Reconstructs grammar build ∧
      charts.rankedTrees? grammar = some (Tree.ranked ((rootRows words charts).map build)) := by
  obtain ⟨forest, built, shown⟩ := sound.exists_forest
  refine ⟨treeIn grammar forest, sound.reconstructs shown, ?_⟩
  rw [sound.rankedTrees?_eq built shown, map_rankedRootRows]

/-- The rows that stand for whole analyses, as they are ranked among the rows of the last chart. -/
structure Ranks (charts : Charts) (position : Nat) (ranked : List Row) : Prop where
  /-- The rows of the chart come in the order in which they were added, and no row that stands for a
  whole analysis is in another chart. -/
  chart : ∃ rows, charts.rowsOf? position = some rows ∧
    rows.Pairwise (fun earlier later => earlier.id < later.id) ∧
    rows.filter (isRootOver position) = charts.rows.toList.filter (isRootOver position)
  perm : ranked.Perm (charts.rows.toList.filter (isRootOver position))
  heaviestFirst : ranked.Pairwise fun left right => right.rule.weight ≤ left.rule.weight
  /-- Rows of one weight keep their order. -/
  stable : ∀ weight : Int, ranked.filter (fun row => row.rule.weight = weight) =
    (charts.rows.toList.filter (isRootOver position)).filter fun row => row.rule.weight = weight

theorem Coherent.pairwise_id_lt (coherent : charts.Coherent) :
    charts.rows.toList.Pairwise fun earlier later => earlier.id < later.id := by
  rw [List.pairwise_iff_getElem]
  intro first second inside alsoInside before
  have numbered (index : Nat) (small : index < charts.rows.toList.length) :
      charts.rows.toList[index].id = index := by
    apply coherent.numbered
    rw [row?, ← Array.getElem?_toList]
    exact List.getElem?_eq_getElem small
  rw [numbered first inside, numbered second alsoInside]
  exact before

theorem Sound.rootRows_eq (sound : charts.Sound grammar words) :
    rootRows words charts = charts.rows.toList.filter (isRootOver words.length) := by
  rw [rootRows, sound.placed, List.filter_filter]
  refine List.filter_congr fun row _ => ?_
  simp [isRootOver]

theorem Sound.ranks (sound : charts.Sound grammar words) {forest : Array Tree}
    (shown : ∀ row ∈ charts.rows.toList, ∃ tree,
      forest[row.id]? = some tree ∧ row.tree? grammar forest = some tree) :
    charts.Ranks words.length (rankedRootRows grammar words charts forest) := by
  have weight_eq {row : Row} (member : row ∈ rootRows words charts) :
      (treeIn grammar forest row).weight = row.rule.weight :=
    (sound.reconstructs shown).weight_eq (sound.mem_rootRows.1 member).1
  have trans (first second third : Row) :=
    Tree.rank_trans (treeIn grammar forest first) (treeIn grammar forest second)
      (treeIn grammar forest third)
  have total (first second : Row) :=
    Tree.rank_total (treeIn grammar forest first) (treeIn grammar forest second)
  constructor
  · have inside : words.length < charts.length := by
      rw [sound.length_eq]
      exact Nat.lt_succ_self _
    refine ⟨_, sound.coherent.rowsOf?_eq inside, ?_, sound.rootRows_eq⟩
    rw [sound.placed]
    exact sound.coherent.pairwise_id_lt.sublist List.filter_sublist
  · rw [← sound.rootRows_eq]
    exact rankedRootRows_perm grammar words charts forest
  · refine (List.pairwise_mergeSort trans total (rootRows words charts)).imp_of_mem ?_
    intro left right isLeft isRight ordered
    rw [List.mem_mergeSort] at isLeft isRight
    rwa [Tree.rank_isLE_iff, weight_eq isLeft, weight_eq isRight] at ordered
  · intro weight
    rw [← sound.rootRows_eq]
    apply filter_mergeSort trans total
    intro left isLeft right isRight
    rw [List.mem_filter, decide_eq_true_iff] at isLeft isRight
    rw [Tree.rank_isLE_iff, weight_eq isLeft.1, weight_eq isRight.1, isLeft.2, isRight.2]

end Charts

namespace Session

open Construction

/-- The trees of a parse as the reconstructions of ranked rows. -/
structure Ranked (grammar : Grammar) (sentence : Sentence) (charts : Charts) (ranked : List Row)
    (build : Row → Tree) (trees : List Tree) : Prop where
  finished : construct grammar sentence = .finished charts
  ranks : charts.Ranks sentence.words.length ranked
  reconstructs : charts.Reconstructs grammar build
  trees_eq : trees = ranked.map build

theorem exists_ranked_of_trees (session : Session) (threshold : Threshold) {sentence : Sentence}
    {trees : List Tree} (answered : (session.parse threshold sentence).analysis = .trees trees) :
    ∃ charts ranked build,
      Ranked session.parser.grammar sentence charts ranked build trees := by
  rcases construct_ends session.parser.grammar sentence with ⟨charts, ended⟩ | ⟨ended, _⟩
  · have sound := (finished_of_construct ended).sound
    obtain ⟨forest, built, shown⟩ := sound.exists_forest
    have ranked := sound.rankedTrees?_eq built shown
    simp only [parse, ended, ranked, Analysis.trees.injEq] at answered
    exact ⟨charts, _, _, ended, sound.ranks shown, sound.reconstructs shown, answered.symm⟩
  · simp [parse, ended] at answered

/-- The weights of the root productions of all derivations of a sentence. -/
def rootWeights (grammar : Grammar) (words : List String) : Set Int :=
  {weight | ∃ whole : Derivation grammar words [.root] 0 words.length,
    ∃ tree, whole.trees = [tree] ∧ tree.weight = weight}

section Heaviest

variable {grammar : Grammar} {sentence : Sentence} {trees : List Tree}

theorem Ranked.pairwise {charts : Charts} {ranked : List Row} {build : Row → Tree}
    (isRanked : Ranked grammar sentence charts ranked build trees) :
    trees.Pairwise fun left right => right.weight ≤ left.weight := by
  have weight_eq {row : Row} (member : row ∈ ranked) : (build row).weight = row.rule.weight :=
    isRanked.reconstructs.weight_eq (List.mem_filter.1 (isRanked.ranks.perm.mem_iff.1 member)).1
  rw [isRanked.trees_eq, List.pairwise_map]
  refine isRanked.ranks.heaviestFirst.imp_of_mem fun isLeft isRight ordered => ?_
  rwa [weight_eq isLeft, weight_eq isRight]

/-- No root production of a derivation is missing among the trees. -/
theorem Answered.mem_rootWeights_iff {productions : List Production}
    (answered : Answered grammar sentence productions trees) (wordful : grammar.Wordful)
    {weight : Int} :
    weight ∈ rootWeights grammar sentence.words ↔ ∃ tree ∈ trees, tree.weight = weight := by
  have isPhrase : Symbol.root.isPhrase = true := by decide
  constructor
  · rintro ⟨whole, tree, shown, rfl⟩
    obtain ⟨production, listed, parts, same⟩ := whole.exists_parts isPhrase
    have member := (answered.mem_iff_of_wordful wordful production).2 ⟨listed, ⟨parts⟩⟩
    obtain ⟨other, isTree, others, rfl⟩ := exists_related answered.derived member
    obtain rfl := List.singleton_inj.1 (shown.symm.trans same)
    exact ⟨_, isTree, rfl⟩
  · rintro ⟨tree, isTree, rfl⟩
    obtain ⟨production, member, parts, rfl⟩ := exists_related answered.derived.flip isTree
    obtain ⟨listed, _⟩ := (answered.mem_iff_of_wordful wordful production).1 member
    obtain ⟨whole, shown⟩ := Derivation.exists_of_parts isPhrase listed parts
    exact ⟨whole, _, shown, rfl⟩

end Heaviest

/-- In a grammar without empty bodies and empty terminals, the first tree of a sentence that has a
derivation is by a heaviest production among all derivations. -/
theorem first_heaviest_of_wordful (session : Session) (threshold : Threshold) {sentence : Sentence}
    {trees : List Tree} (answered : (session.parse threshold sentence).analysis = .trees trees)
    (wordful : session.parser.grammar.Wordful)
    (derivable : Nonempty
      (Derivation session.parser.grammar sentence.words [.root] 0 sentence.words.length)) :
    ∃ best others, trees = best :: others ∧
      IsGreatest (rootWeights session.parser.grammar sentence.words) best.weight := by
  have isPhrase : Symbol.root.isPhrase = true := by decide
  obtain ⟨charts, ranked, build, isRanked⟩ := session.exists_ranked_of_trees threshold answered
  obtain ⟨productions, found⟩ := session.exists_answered_of_trees threshold answered
  have mem_iff {weight : Int} :
      weight ∈ rootWeights session.parser.grammar sentence.words ↔
        ∃ tree ∈ trees, tree.weight = weight := found.mem_rootWeights_iff wordful
  obtain ⟨whole⟩ := derivable
  obtain ⟨production, _, parts, shown⟩ := whole.exists_parts isPhrase
  obtain ⟨tree, isTree, _⟩ := mem_iff.1 ⟨whole, _, shown, rfl⟩
  cases trees with
  | nil => exact absurd isTree List.not_mem_nil
  | cons best others =>
    refine ⟨best, others, rfl, mem_iff.2 ⟨best, List.mem_cons_self, rfl⟩, ?_⟩
    intro weight isWeight
    obtain ⟨other, member, rfl⟩ := mem_iff.1 isWeight
    rcases List.mem_cons.1 member with rfl | later
    · exact le_rfl
    · exact (List.pairwise_cons.1 isRanked.pairwise).1 other later

end Session

end ChartParsing
