import ChartParsing.Proofs.Chart.Shape
import ChartParsing.Proofs.Ranking

/-!
Contract: the descent from a tree to the rows below it.

Owns which row each node of a tree is built from. A row is reached from another through its parents,
which have smaller numbers, so the descent ends, also where productions lead back to their own head
over one span. Two complete rows of one rule over one span are the same row, and no row is reached
from itself: a tree never holds an item below itself.
-/

set_option autoImplicit false

namespace ChartParsing

/-- The node at a path, which gives the number of a child at every level. -/
def Tree.nodeAt? : Tree → List Nat → Option Tree
  | tree, [] => some tree
  | tree, index :: path => (tree.children[index]?).bind fun child => child.nodeAt? path

namespace Charts

/-- The row that completed a constituent of a row, counted from the first constituent. -/
def child? (charts : Charts) (row : Row) (index : Nat) : Option Row :=
  (row.parents.reverse[index]?).bind charts.row?

/-- The row that the node at a path is built from, in the tree of a row. -/
def rowUnder? (charts : Charts) : Row → List Nat → Option Row
  | row, [] => some row
  | row, index :: path => (charts.child? row index).bind fun child => charts.rowUnder? child path

/-- A stored row is built from the tree of another, among others. -/
def IsChild (charts : Charts) (child row : Row) : Prop :=
  row ∈ charts.rows.toList ∧ ∃ index, charts.child? row index = some child

variable {grammar : Grammar} {words : List String} {charts : Charts}

theorem rowUnder?_append (row : Row) (path deeper : List Nat) :
    charts.rowUnder? row (path ++ deeper) =
      (charts.rowUnder? row path).bind fun node => charts.rowUnder? node deeper := by
  induction path generalizing row with
  | nil => rfl
  | cons index path inductionHypothesis =>
    rw [List.cons_append, rowUnder?, rowUnder?, Option.bind_assoc]
    exact congrArg _ (funext fun child => inductionHypothesis child)

/-! ## The rows below a row -/

section Descent

variable {row : Row}

theorem Sound.lower_of_child (sound : charts.Sound grammar words) {child : Row} {index : Nat}
    (member : row ∈ charts.rows.toList) (found : charts.child? row index = some child) :
    child ∈ charts.rows.toList ∧ child.id < row.id := by
  obtain ⟨id, isParent, stored⟩ := Option.bind_eq_some_iff.1 found
  have listed := List.mem_reverse.1 (List.mem_of_getElem? isParent)
  refine ⟨row?_mem stored, ?_⟩
  rw [sound.coherent.numbered stored]
  exact sound.parents_lt row member id listed

theorem Sound.complete_of_child (sound : charts.Sound grammar words) {child : Row} {index : Nat}
    (member : row ∈ charts.rows.toList) (found : charts.child? row index = some child) :
    child.isComplete = true := by
  have shaped := sound.shaped row member
  cases isTerminal : row.rule.isTerminal with
  | true =>
    obtain ⟨_, noParents, _⟩ := shaped.matched isTerminal
    rw [child?, noParents] at found
    exact nomatch found
  | false =>
    obtain ⟨_, children, known⟩ := shaped.grown isTerminal
    have entry := congrArg (fun answers => answers[index]?) known.stored
    simp only [List.getElem?_map] at entry
    obtain ⟨id, isParent, stored⟩ := Option.bind_eq_some_iff.1 found
    rw [isParent, Option.map_some, stored] at entry
    obtain ⟨other, listed, same⟩ := Option.map_eq_some_iff.1 entry.symm
    obtain rfl := Option.some.inj same
    exact (known.complete _ (List.mem_of_getElem? listed)).1

theorem Sound.wellFounded_isChild (sound : charts.Sound grammar words) :
    WellFounded charts.IsChild := by
  refine Subrelation.wf ?_ (InvImage.wf Row.id Nat.lt_wfRel.wf)
  rintro child row ⟨member, index, found⟩
  exact (sound.lower_of_child member found).2

/-- What a path leads to below a stored row is a complete row with a smaller number. -/
theorem Sound.lower_of_rowUnder (sound : charts.Sound grammar words) {below : Row} {path : List Nat}
    (member : row ∈ charts.rows.toList) (proper : path ≠ [])
    (found : charts.rowUnder? row path = some below) :
    below ∈ charts.rows.toList ∧ below.id < row.id ∧ below.isComplete = true := by
  induction path generalizing row with
  | nil => exact absurd rfl proper
  | cons index path inductionHypothesis =>
    obtain ⟨child, isChild, further⟩ := Option.bind_eq_some_iff.1 found
    obtain ⟨childMember, lower⟩ := sound.lower_of_child member isChild
    cases path with
    | nil =>
      obtain rfl := Option.some.inj further
      exact ⟨childMember, lower, sound.complete_of_child member isChild⟩
    | cons next path =>
      obtain ⟨belowMember, belowLower, complete⟩ :=
        inductionHypothesis childMember (List.cons_ne_nil next path) further
      exact ⟨belowMember, belowLower.trans lower, complete⟩

theorem Sound.complete_of_rowUnder (sound : charts.Sound grammar words) {node : Row}
    {path : List Nat} (member : row ∈ charts.rows.toList) (complete : row.isComplete = true)
    (found : charts.rowUnder? row path = some node) :
    node ∈ charts.rows.toList ∧ node.isComplete = true := by
  cases path with
  | nil =>
    obtain rfl := Option.some.inj found
    exact ⟨member, complete⟩
  | cons index path =>
    obtain ⟨nodeMember, _, nodeComplete⟩ :=
      sound.lower_of_rowUnder member (List.cons_ne_nil index path) found
    exact ⟨nodeMember, nodeComplete⟩

/-- A complete row is known by its rule and its span. -/
theorem Sound.eq_of_complete (sound : charts.Sound grammar words) {other : Row}
    (member : row ∈ charts.rows.toList) (otherMember : other ∈ charts.rows.toList)
    (complete : row.isComplete = true) (otherComplete : other.isComplete = true)
    (rule : other.rule = row.rule) (start : other.start = row.start) (stop : other.stop = row.stop) :
    other = row := by
  have full : row.dot = row.rule.arity :=
    Nat.le_antisymm (sound.possible row member).dot (of_decide_eq_true complete)
  have otherFull : other.dot = other.rule.arity :=
    Nat.le_antisymm (sound.possible other otherMember).dot (of_decide_eq_true otherComplete)
  have dot : other.dot = row.dot := by rw [otherFull, full, rule]
  have sameItem : other.toItem = row.toItem := by
    show Item.mk other.rule other.dot other.start other.stop = row.toItem
    rw [rule, dot, start, stop]
  exact List.inj_on_of_nodup_map sound.distinct otherMember member sameItem

theorem Sound.not_same_below (sound : charts.Sound grammar words) {node below : Row}
    {path : List Nat} (member : node ∈ charts.rows.toList) (complete : node.isComplete = true)
    (proper : path ≠ []) (found : charts.rowUnder? node path = some below) :
    ¬ (below.rule = node.rule ∧ below.start = node.start ∧ below.stop = node.stop) := by
  rintro ⟨rule, start, stop⟩
  obtain ⟨belowMember, lower, belowComplete⟩ := sound.lower_of_rowUnder member proper found
  have same := sound.eq_of_complete member belowMember complete belowComplete rule start stop
  rw [same] at lower
  exact Nat.lt_irrefl _ lower

end Descent

/-- The node at a path is the tree of the row that the path leads to. -/
theorem Reconstructs.nodeAt?_eq (sound : charts.Sound grammar words) {build : Row → Tree}
    (reconstructs : charts.Reconstructs grammar build) {row : Row}
    (member : row ∈ charts.rows.toList) (path : List Nat) :
    (build row).nodeAt? path = (charts.rowUnder? row path).map build := by
  induction path generalizing row with
  | nil => rfl
  | cons index path inductionHypothesis =>
    obtain ⟨parents, stored, shown⟩ := reconstructs.build_eq row member
    have child : charts.child? row index = parents[index]? := by
      have entry := congrArg (fun answers => answers[index]?) stored
      simp only [List.getElem?_map] at entry
      rw [child?]
      cases isParent : row.parents.reverse[index]? with
      | none =>
        rw [isParent] at entry
        exact (Option.map_eq_none_iff.1 entry.symm).symm
      | some id =>
        rw [isParent] at entry
        obtain ⟨parent, listed, found⟩ := Option.map_eq_some_iff.1 entry.symm
        rw [listed, found, Option.bind_some]
    have children : (build row).children = parents.map build := by
      rw [shown]
      rfl
    rw [Tree.nodeAt?, rowUnder?, children, List.getElem?_map, child]
    cases listed : parents[index]? with
    | none => rfl
    | some parent =>
      exact inductionHypothesis (sound.lower_of_child member (child.trans listed)).1

end Charts

namespace Session

open Construction

/-- At every moment of a parse the parents of a row have smaller numbers than the row, so the descent
through parents ends and every row has exactly one tree. In the trees that a parse comes to, no node
has a node below it that is built from a row of the same rule over the same span. -/
theorem no_item_below_itself (session : Session) (threshold : Threshold) (sentence : Sentence) :
    (∀ steps charts,
      (Progress.advance session.parser.grammar sentence steps (.running (initial sentence))).charts? =
        some charts →
      (∀ id row, charts.row? id = some row → ∀ parent ∈ row.parents, parent < id) ∧
      WellFounded charts.IsChild ∧
      ∃ build forest, charts.Reconstructs session.parser.grammar build ∧
        charts.forest? session.parser.grammar = some forest ∧
        ∀ id row, charts.row? id = some row → forest[id]? = some (build row) ∧
          ∀ other, charts.Reconstructs session.parser.grammar other → other row = build row) ∧
    ∀ trees, (session.parse threshold sentence).analysis = .trees trees →
      ∃ charts ranked build, Ranked session.parser.grammar sentence charts ranked build trees ∧
        ∀ root ∈ ranked, ∀ path,
          (build root).nodeAt? path = (charts.rowUnder? root path).map build ∧
          ∀ node deeper below, charts.rowUnder? root path = some node → deeper ≠ [] →
            charts.rowUnder? root (path ++ deeper) = some below →
            ¬ (below.rule = node.rule ∧ below.start = node.start ∧ below.stop = node.stop) := by
  constructor
  · intro steps charts shown
    have sound := sound_of_advance shown
    obtain ⟨forest, built, trees⟩ := sound.exists_forest
    have reconstructs := sound.reconstructs trees
    refine ⟨?_, sound.wellFounded_isChild, _, forest, reconstructs, built, ?_⟩
    · intro id row found parent isParent
      have smaller := sound.parents_lt row (Charts.row?_mem found) parent isParent
      rwa [sound.coherent.numbered found] at smaller
    · intro id row found
      have member := Charts.row?_mem found
      obtain ⟨tree, placed, _⟩ := trees row member
      refine ⟨?_, fun other alsoReconstructs => alsoReconstructs.eq_of_mem sound reconstructs member⟩
      rw [Charts.treeIn_eq placed, ← placed, sound.coherent.numbered found]
  · intro trees answered
    obtain ⟨charts, ranked, build, isRanked⟩ := session.exists_ranked_of_trees threshold answered
    refine ⟨charts, ranked, build, isRanked, ?_⟩
    have sound := (finished_of_construct isRanked.finished).sound
    intro root isRoot path
    obtain ⟨member, whole⟩ := List.mem_filter.1 (isRanked.ranks.perm.mem_iff.1 isRoot)
    have complete : root.isComplete = true := by
      simp only [Charts.isRootOver, Bool.and_eq_true] at whole
      exact whole.1.1.2
    refine ⟨isRanked.reconstructs.nodeAt?_eq sound member path, ?_⟩
    intro node deeper below found proper foundBelow
    obtain ⟨nodeMember, nodeComplete⟩ := sound.complete_of_rowUnder member complete found
    rw [Charts.rowUnder?_append, found, Option.bind_some] at foundBelow
    exact sound.not_same_below nodeMember nodeComplete proper foundBelow

end Session

end ChartParsing
