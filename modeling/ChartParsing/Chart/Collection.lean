import ChartParsing.Chart.Row
import Std.Data.TreeMap

/-!
Contract: the charts of one sentence.

Owns the store of all rows, in the order in which they were added, and one chart for each position of
the sentence. A chart lists the numbers of its rows and keeps them indexed by placement, so that a row
with a given item is found among the few rows placed alike. An operation on a position, an index or a
number that does not exist answers with nothing.
-/

set_option autoImplicit false

namespace ChartParsing

/-- Where a row lies: its span and its dot. -/
structure Placement where
  start : Nat
  stop : Nat
  dot : Nat
deriving DecidableEq, Repr

/-- Placements in the order of start, stop and dot. -/
def Placement.order : Placement → Placement → Ordering :=
  compareLex (compareOn Placement.start)
    (compareLex (compareOn Placement.stop) (compareOn Placement.dot))

instance : Std.TransCmp Placement.order := by
  unfold Placement.order
  infer_instance

/-- Only a placement is in the place of itself. -/
theorem Placement.order_eq_iff {left right : Placement} :
    Placement.order left right = .eq ↔ left = right := by
  obtain ⟨leftStart, leftStop, leftDot⟩ := left
  obtain ⟨rightStart, rightStop, rightDot⟩ := right
  simp [Placement.order, compareLex_eq_eq, compareOn]

def Item.placement (item : Item) : Placement :=
  ⟨item.start, item.stop, item.dot⟩

/-- The rows of one position, in the order in which they were added. -/
structure Chart where
  ids : Array Nat
  index : Std.TreeMap Placement (List Nat) Placement.order

namespace Chart

def empty : Chart where
  ids := #[]
  index := ∅

def placed (chart : Chart) (placement : Placement) : List Nat :=
  (chart.index[placement]?).getD []

def push (chart : Chart) (placement : Placement) (id : Nat) : Chart :=
  let others := chart.placed placement
  match chart with
  | ⟨ids, index⟩ => ⟨ids.push id, index.insert placement (id :: others)⟩

/-- One more row is found at its own placement, and no other placement is touched. -/
theorem placed_push (chart : Chart) (placement other : Placement) (id : Nat) :
    (chart.push placement id).placed other =
      if other = placement then id :: chart.placed other else chart.placed other := by
  obtain ⟨ids, index⟩ := chart
  simp only [push, placed, Std.TreeMap.getElem?_insert, Placement.order_eq_iff]
  by_cases same : other = placement
  · subst same
    simp
  · rw [if_neg same, if_neg (Ne.symm same)]

end Chart

/-- All rows of a sentence, and its charts. -/
structure Charts where
  rows : Array Row
  charts : Array Chart

namespace Charts

def blank (positions : Nat) : Charts where
  rows := #[]
  charts := Array.replicate positions Chart.empty

def length (charts : Charts) : Nat :=
  charts.charts.size

def rowCount (charts : Charts) : Nat :=
  charts.rows.size

def size? (charts : Charts) (position : Nat) : Option Nat :=
  (charts.charts[position]?).map fun chart => chart.ids.size

def row? (charts : Charts) (id : Nat) : Option Row :=
  charts.rows[id]?

def rowAt? (charts : Charts) (position index : Nat) : Option Row :=
  match charts.charts[position]? with
  | none => none
  | some chart =>
    match chart.ids[index]? with
    | none => none
    | some id => charts.row? id

def rowsOf? (charts : Charts) (position : Nat) : Option (List Row) :=
  match charts.charts[position]? with
  | none => none
  | some chart => chart.ids.toList.mapM charts.row?

/-- Adds a row to a chart. The row gets the next free number, which is the answer. -/
def add? (charts : Charts) (position : Nat) (row : Row) : Option (Nat × Charts) :=
  match charts with
  | ⟨rows, perPosition⟩ =>
    if position < perPosition.size then
      let id := rows.size
      some (id, ⟨rows.push { row with id },
        perPosition.modify position fun chart => chart.push row.placement id⟩)
    else none

/-- Whether a chart has a row with an item. -/
def holds? (charts : Charts) (position : Nat) (item : Item) : Option Bool :=
  (charts.charts[position]?).map fun chart =>
    (chart.placed item.placement).any fun id =>
      match charts.row? id with
      | none => false
      | some row => row.toItem = item

/-- Adds a row to a chart unless the chart has a row with the same item. -/
def enter? (charts : Charts) (position : Nat) (row : Row) : Option Charts :=
  match charts.holds? position row.toItem with
  | none => none
  | some true => some charts
  | some false =>
    match charts.add? position row with
    | none => none
    | some (_, added) => some added

/-- Whether a row stands for a whole analysis of the words before a position. -/
def isRootOver (position : Nat) (row : Row) : Bool :=
  row.rule.isPhrase && row.rule.head = .root && row.isComplete && row.start = 0
    && row.stop = position

/-- The rows of a chart that stand for whole analyses. -/
def roots? (charts : Charts) (position : Nat) : Option (List Row) :=
  (charts.rowsOf? position).map fun rows => rows.filter (isRootOver position)

/-! ## Description -/

def describeRows (grammar : Grammar) (rows : List Row) : String :=
  String.join (rows.map fun row => "  " ++ row.describe grammar ++ "\n")

/-- The lines for the charts from some position on. -/
def describeFrom (grammar : Grammar) (charts : Charts) : Nat → List Chart → String
  | _, [] => ""
  | position, chart :: others =>
    s!"Chart {position}\n"
      ++ describeRows grammar (chart.ids.toList.filterMap charts.row?)
      ++ describeFrom grammar charts (position + 1) others

def describe (grammar : Grammar) (charts : Charts) : String :=
  describeFrom grammar charts 0 charts.charts.toList

end Charts

end ChartParsing
