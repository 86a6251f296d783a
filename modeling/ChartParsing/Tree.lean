/-!
Contract: derivation trees.

Owns the tree type, its leaves and words, and the order in which competing trees are ranked. A leaf
stands for a matched word under its terminal category, or for an empty match when its label is
empty; any other node is labelled with its phrase category.
-/

set_option autoImplicit false

namespace ChartParsing

/-- A node of a derivation tree, with the weight and the note of the rule it was made by. -/
structure Tree where
  label : String
  category : String
  weight : Int
  note : String
  children : List Tree
deriving Repr

namespace Tree

def isLeaf (tree : Tree) : Bool :=
  tree.children.isEmpty

mutual

/-- The words under a node, from left to right. Empty matches contribute none. -/
def words : Tree → List String
  | ⟨label, _, _, _, []⟩ => if label.isEmpty then [] else [label]
  | ⟨_, _, _, _, first :: others⟩ => first.words ++ wordsOfAll others

def wordsOfAll : List Tree → List String
  | [] => []
  | tree :: others => tree.words ++ wordsOfAll others

end

mutual

def decideEqual : (left right : Tree) → Decidable (left = right)
  | ⟨label, category, weight, note, children⟩, ⟨label', category', weight', note', children'⟩ =>
    if sameNode : label = label' ∧ category = category' ∧ weight = weight' ∧ note = note' then
      match decideEqualAll children children' with
      | isTrue sameChildren => isTrue (by
          obtain ⟨rfl, rfl, rfl, rfl⟩ := sameNode
          rw [sameChildren])
      | isFalse different => isFalse (by
          intro equal
          exact different (Tree.mk.inj equal).2.2.2.2)
    else isFalse (by
      intro equal
      obtain ⟨sameLabel, sameCategory, sameWeight, sameNote, _⟩ := Tree.mk.inj equal
      exact sameNode ⟨sameLabel, sameCategory, sameWeight, sameNote⟩)

/-- Equality of rows of trees is decided tree by tree. -/
def decideEqualAll : (left right : List Tree) → Decidable (left = right)
  | [], [] => isTrue rfl
  | [], _ :: _ => isFalse (by simp)
  | _ :: _, [] => isFalse (by simp)
  | left :: lefts, right :: rights =>
    match decideEqual left right, decideEqualAll lefts rights with
    | isTrue sameFirst, isTrue sameRest => isTrue (by rw [sameFirst, sameRest])
    | isFalse different, _ => isFalse (by
        intro equal
        exact different (List.cons.inj equal).1)
    | _, isFalse different => isFalse (by
        intro equal
        exact different (List.cons.inj equal).2)

end

instance : DecidableEq Tree := decideEqual

/-- How a tree ranks against another: one with a greater root weight comes first. -/
def rank (left right : Tree) : Ordering :=
  compare right.weight left.weight

/-- Trees with those of greater root weight first; trees of one weight keep their order. -/
def ranked (trees : List Tree) : List Tree :=
  trees.mergeSort fun left right => (left.rank right).isLE

end Tree

end ChartParsing
