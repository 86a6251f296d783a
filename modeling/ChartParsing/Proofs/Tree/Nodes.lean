import ChartParsing.Tree.Written

/-!
Contract: the nodes of trees.

Owns what holds at every node of a tree, trees without their weights and notes, and what a node shows of
itself.
-/

set_option autoImplicit false

namespace ChartParsing.Tree

/-! ## Trees without weights and notes -/

mutual

/-- A tree without its weights and notes. -/
def stripped : Tree → Tree
  | ⟨label, category, _, _, children⟩ => ⟨label, category, 0, "", strippedAll children⟩

def strippedAll : List Tree → List Tree
  | [] => []
  | tree :: others => tree.stripped :: strippedAll others

end

theorem strippedAll_eq_map (trees : List Tree) : strippedAll trees = trees.map stripped := by
  induction trees with
  | nil => rfl
  | cons tree others inductionHypothesis => rw [strippedAll, inductionHypothesis, List.map_cons]

/-! ## Every node -/

/-- A condition on every node of a tree. -/
inductive Everywhere (condition : Tree → Prop) : Tree → Prop where
  | node {tree : Tree} (here : condition tree)
      (below : ∀ child ∈ tree.children, Everywhere condition child) : Everywhere condition tree

variable {condition : Tree → Prop}

theorem Everywhere.leaf {tree : Tree} (here : condition tree) (leaf : tree.children = []) :
    tree.Everywhere condition := by
  refine .node here fun child member => ?_
  rw [leaf] at member
  exact absurd member List.not_mem_nil

theorem Everywhere.mono {weaker : Tree → Prop} (implies : ∀ tree, condition tree → weaker tree)
    {tree : Tree} (everywhere : tree.Everywhere condition) : tree.Everywhere weaker := by
  induction everywhere with
  | node here below inductionHypothesis => exact .node (implies _ here) inductionHypothesis

theorem Everywhere.here {tree : Tree} (everywhere : tree.Everywhere condition) : condition tree := by
  cases everywhere with
  | node here below => exact here

theorem Everywhere.children {tree : Tree} (everywhere : tree.Everywhere condition) :
    ∀ child ∈ tree.children, child.Everywhere condition := by
  cases everywhere with
  | node here below => exact below

/-! ## Captions -/

/-- What a leaf shows behind its category. -/
def labelMark (label : String) : List Char :=
  if label = "" then [] else ' ' :: label.toList

theorem toList_caption_of_leaf (label category : String) (weight : Int) (note : String) :
    (caption ⟨label, category, weight, note, []⟩).toList = category.toList ++ labelMark label := by
  by_cases unlabelled : label = ""
  · simp [caption, isLeaf, labelMark, unlabelled]
  · simp [caption, isLeaf, labelMark, unlabelled]

theorem caption_of_inner {children : List Tree} (inner : children ≠ []) (label category : String)
    (weight : Int) (note : String) :
    caption ⟨label, category, weight, note, children⟩ = label := by
  simp [caption, isLeaf, inner]

end ChartParsing.Tree
