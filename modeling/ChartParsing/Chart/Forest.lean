import ChartParsing.Chart.Collection
import ChartParsing.Tree

/-!
Contract: the trees of filled charts.

Owns the trees that the rows stand for, built row by row. The parents of a row have smaller numbers
than the row, so when a row is reached the trees of all its parents are there. A row whose parents
are not there stands for no tree, and neither do the charts it belongs to.
-/

set_option autoImplicit false

namespace ChartParsing

/-- The label of the tree of a row: the matched word, or the category of the rule. -/
def Rule.label (grammar : Grammar) : Rule → String
  | .terminal _ word => word
  | .phrase production => grammar.categoryName production.head
  | .seed => grammar.categoryName .root

/-- The tree of a row, given the trees of the rows before it. The newest parent comes first in a row
and last in its tree. -/
def Row.tree? (grammar : Grammar) (earlier : Array Tree) (row : Row) : Option Tree :=
  (row.parents.reverse.mapM fun parent => earlier[parent]?).map fun children =>
    { label := row.rule.label grammar, category := grammar.categoryName row.rule.head,
      weight := row.rule.weight, note := row.rule.note, children }

namespace Charts

/-- The trees of rows, added to those of the rows before them. -/
def treesOfRows? (grammar : Grammar) : Array Tree → List Row → Option (Array Tree)
  | earlier, [] => some earlier
  | earlier, row :: others =>
    match row.tree? grammar earlier with
    | none => none
    | some tree => treesOfRows? grammar (earlier.push tree) others

def forest? (grammar : Grammar) (charts : Charts) : Option (Array Tree) :=
  treesOfRows? grammar #[] charts.rows.toList

def rankedTrees? (grammar : Grammar) (charts : Charts) : Option (List Tree) :=
  match charts.roots? (charts.length - 1), charts.forest? grammar with
  | some roots, some forest =>
    (roots.mapM fun row => forest[row.id]?).map Tree.ranked
  | _, _ => none

end Charts

end ChartParsing
