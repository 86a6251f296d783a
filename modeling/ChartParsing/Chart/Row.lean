import ChartParsing.Grammar.Basic
import ChartParsing.Text.Quoted

/-!
Contract: the rows of a chart.

Owns the item (a rule, how much of it is matched, and the span the match covers), the row (an item
with its number, the rows it was completed by, and the operation that made it), and the three ways to
make a row. Two rows stand for the same discovery exactly if their items are equal.
-/

set_option autoImplicit false

namespace ChartParsing

/-- A rule with its first constituents matched over a span of the sentence. -/
structure Item where
  rule : Rule
  /-- How many constituents are matched. -/
  dot : Nat
  /-- The position before the first matched word. -/
  start : Nat
  /-- The position after the last matched word. -/
  stop : Nat
deriving DecidableEq, Repr

namespace Item

def isComplete (item : Item) : Bool :=
  item.rule.arity ≤ item.dot

def next? (item : Item) : Option Symbol :=
  item.rule.symbolAt? item.dot

end Item

/-- The operation that made a row. -/
inductive Origin where
  | seed
  | predict
  | scan
  | complete
deriving DecidableEq, Repr

/-- The word for an operation in a row description. -/
def Origin.name : Origin → String
  | .seed => "seed"
  | .predict => "predict"
  | .scan => "scan"
  | .complete => "complete"

/-- A row of a chart. -/
structure Row extends Item where
  /-- The number of the row among all rows of a sentence. -/
  id : Nat
  /-- The numbers of the rows that completed the matched constituents, the last one first. -/
  parents : List Nat
  origin : Origin
deriving DecidableEq, Repr

namespace Row

def opening (rule : Rule) (start stop : Nat) (origin : Origin) : Row where
  rule
  dot := 0
  start
  stop
  id := 0
  parents := []
  origin

/-- The row of a match with a word, or with none. -/
def scanned (rule : Rule) (start stop : Nat) : Row :=
  { opening rule start stop .scan with dot := 1 }

/-- The row moved past the constituent that a child completes up to some position. -/
def advance (row : Row) (stop child : Nat) : Row where
  rule := row.rule
  dot := row.dot + 1
  start := row.start
  stop
  id := 0
  parents := child :: row.parents
  origin := .complete

/-! ## Description -/

/-- The constituents of a production, with a dot before the next one. -/
def describeBody (grammar : Grammar) (dot : Nat) : Nat → List Symbol → String
  | _, [] => ""
  | index, symbol :: others =>
    (if index = dot then " ." else "") ++ " " ++ grammar.categoryName symbol
      ++ describeBody grammar dot (index + 1) others

/-- The constituents of a rule, with a dot before the next one. -/
def describeRule (grammar : Grammar) (rule : Rule) (dot : Nat) : String :=
  match rule with
  | .phrase production => describeBody grammar dot 0 production.body
  | .terminal _ word => " " ++ Text.quoted word
  | .seed => (if dot = 0 then " ." else "") ++ " " ++ grammar.categoryName .root

def listed : List Nat → String
  | [] => ""
  | [number] => toString number
  | number :: next :: others => toString number ++ ", " ++ listed (next :: others)

/-- The numbers of the parents of a row, when there are any. -/
def describeParents : List Nat → String
  | [] => ""
  | parents => " <- [" ++ listed parents ++ "]"

/-- A row on one line: `HEAD -> A . B [start,stop] #id (origin) <- [parents]`. -/
def describe (grammar : Grammar) (row : Row) : String :=
  grammar.categoryName row.rule.head ++ " ->" ++ describeRule grammar row.rule row.dot
    ++ (if row.isComplete then " ." else "")
    ++ s!" [{row.start},{row.stop}] #{row.id} ({row.origin.name})"
    ++ describeParents row.parents

end Row

end ChartParsing
