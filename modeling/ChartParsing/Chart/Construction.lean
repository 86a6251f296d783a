import ChartParsing.Chart.Collection
import ChartParsing.Sentence

/-!
Contract: filling the charts of a sentence.

Owns the construction as a machine that takes one small step at a time. It walks the rows of each
chart in turn, and the rows that are added to the chart on the way in the same pass. A row that
expects a phrase predicts the productions of that phrase; a row that expects a terminal is matched
with the next word, or with none; a complete row advances every row that waits for its head. Rows are
only entered where their item is not known yet.

The machine ends when it has walked all charts, or when it finds the stop flag raised. It looks at the
flag when it comes to a chart, and again before every row of the chart. It would go astray if it asked
for a word, a position, an index or a number that does not exist.
-/

set_option autoImplicit false

namespace ChartParsing

/-- What the machine is doing. -/
inductive Work where
  /-- It is about to look at the next row. -/
  | idle
  /-- It is entering rows, each into the chart given with it. -/
  | entering (rows : List (Nat × Row))
  /-- It is advancing the rows that wait for a complete row, from some index of their chart on. -/
  | completing (completed : Row) (index : Nat)

/-- A state of the machine. -/
structure Construction where
  charts : Charts
  /-- The chart being walked. -/
  position : Nat
  /-- How many rows of that chart have been looked at. -/
  cursor : Nat
  work : Work
  /-- Whether the stop flag is raised. -/
  stopped : Bool

/-- What a step leads to. -/
inductive Progress where
  | running (construction : Construction)
  | finished (charts : Charts)
  | cancelled
  | astray

namespace Construction

/-- The rows that a row expecting a phrase at some position calls for. -/
def predictions (grammar : Grammar) (position : Nat) (expected : Symbol) : List (Nat × Row) :=
  (grammar.productionsOf expected).map fun production =>
    (position, Row.opening (.phrase production) position position .predict)

def accepts (grammar : Grammar) (expected : Symbol) (word : String) : Bool :=
  grammar.wordCategory word = expected || expected = .unknown

/-- The match of a terminal symbol with the word at some position. Behind the last word there is none
to match, and none is asked for. -/
def wordMatches? (grammar : Grammar) (sentence : Sentence) (position : Nat) (expected : Symbol) :
    Option (List (Nat × Row)) :=
  if sentence.words.length ≤ position then some []
  else
    match sentence.words[position]? with
    | none => none
    | some word =>
      if accepts grammar expected word then
        some [(position + 1, Row.scanned (.terminal expected word) position (position + 1))]
      else some []

/-- The match of a terminal symbol with no word at some position. -/
def emptyMatches (position : Nat) (expected : Symbol) : List (Nat × Row) :=
  if expected = .empty then
    [(position, Row.scanned (.terminal .empty "") position position)]
  else []

/-- Whether a row waits at some position for a symbol. -/
def awaits (row : Row) (position : Nat) (symbol : Symbol) : Bool :=
  row.stop = position && row.next? = some symbol

/-- The work about a row, unless it asks for a word that does not exist. -/
def workFor? (grammar : Grammar) (sentence : Sentence) (row : Row) : Option Work :=
  match row.next? with
  | some expected =>
    if expected.isPhrase then some (.entering (predictions grammar row.stop expected))
    else
      match wordMatches? grammar sentence row.stop expected with
      | none => none
      | some matched => some (.entering (matched ++ emptyMatches row.stop expected))
  | none => some (if row.rule.isSeed then .idle else .completing row 0)

/-- Whether a row makes the machine ask for a word that raises the stop flag. -/
def raisesStop (sentence : Sentence) (row : Row) : Bool :=
  match row.next? with
  | some expected => expected.isTerminal && sentence.raisesStop row.stop
  | none => false

/-- Looks at the next row of the chart being walked, or goes on to the next chart. The stop flag is
looked at before the first row of a chart is asked for, and before every row; behind the last row it is
not looked at until there is another chart. -/
def look (grammar : Grammar) (sentence : Sentence) (charts : Charts) (position cursor : Nat)
    (stopped : Bool) : Progress :=
  match charts.size? position with
  | none => .finished charts
  | some size =>
    if cursor = 0 && stopped then .cancelled
    else if cursor < size then
      if stopped then .cancelled
      else
        match charts.rowAt? position cursor with
        | none => .astray
        | some row =>
          match workFor? grammar sentence row with
          | none => .astray
          | some work =>
            .running ⟨charts, position, cursor + 1, work, raisesStop sentence row⟩
    else .running ⟨charts, position + 1, 0, .idle, stopped⟩

/-- Enters the first of the rows to be entered. -/
def enter (charts : Charts) (position cursor : Nat) (rows : List (Nat × Row)) (stopped : Bool) :
    Progress :=
  match rows with
  | [] => .running ⟨charts, position, cursor, .idle, stopped⟩
  | (place, row) :: others =>
    match charts.enter? place row with
    | none => .astray
    | some entered => .running ⟨entered, position, cursor, .entering others, stopped⟩

/-- Advances the row at an index of the chart where a complete row starts, if it waits for it. -/
def complete (charts : Charts) (position cursor : Nat) (completed : Row) (index : Nat)
    (stopped : Bool) : Progress :=
  match charts.size? completed.start with
  | none => .astray
  | some size =>
    if index < size then
      match charts.rowAt? completed.start index with
      | none => .astray
      | some waiting =>
        if awaits waiting completed.start completed.rule.head then
          match charts.enter? completed.stop (waiting.advance completed.stop completed.id) with
          | none => .astray
          | some entered =>
            .running ⟨entered, position, cursor, .completing completed (index + 1), stopped⟩
        else .running ⟨charts, position, cursor, .completing completed (index + 1), stopped⟩
    else .running ⟨charts, position, cursor, .idle, stopped⟩

/-- One step of the machine. -/
def step (grammar : Grammar) (sentence : Sentence) : Construction → Progress
  | ⟨charts, position, cursor, .idle, stopped⟩ =>
    look grammar sentence charts position cursor stopped
  | ⟨charts, position, cursor, .entering rows, stopped⟩ =>
    enter charts position cursor rows stopped
  | ⟨charts, position, cursor, .completing completed index, stopped⟩ =>
    complete charts position cursor completed index stopped

/-- The charts of a sentence with nothing but the seed in them. -/
def seeded (sentence : Sentence) : Charts :=
  let charts := Charts.blank (sentence.words.length + 1)
  match charts.add? 0 (Row.opening .seed 0 0 .seed) with
  | none => charts
  | some (_, added) => added

/-- The state in which the machine begins. -/
def initial (sentence : Sentence) : Construction :=
  ⟨seeded sentence, 0, 0, .idle, false⟩

def symbolCount : List Production → Nat
  | [] => 0
  | production :: others => production.body.length + symbolCount others

/-- A number of rows that the charts of a sentence never exceed. With `n` words there are at most
`(n + 1) * (n + 1)` spans. Over each of them a rule has one item for each dot position: a production one
more than its body has symbols, every symbol of a body matched with the next word two, and the seed
and the empty match two each. -/
def rowBound (grammar : Grammar) (sentence : Sentence) : Nat :=
  let positions := sentence.words.length + 1
  (3 * symbolCount grammar.productions.toList + grammar.ruleCount + 4) * (positions * positions)

/-- A number of steps that the machine never exceeds: it leaves every chart once, and for every row
it enters at most its predictions or sweeps over the rows of one chart. -/
def stepBound (grammar : Grammar) (sentence : Sentence) : Nat :=
  let rows := rowBound grammar sentence
  sentence.words.length + 2 + rows * (rows + grammar.ruleCount + 5)

end Construction

namespace Progress

def advance (grammar : Grammar) (sentence : Sentence) : Nat → Progress → Progress
  | 0, progress => progress
  | steps + 1, .running construction =>
    advance grammar sentence steps (construction.step grammar sentence)
  | _ + 1, .finished charts => .finished charts
  | _ + 1, .cancelled => .cancelled
  | _ + 1, .astray => .astray

end Progress

/-- Fills the charts of a sentence. -/
def construct (grammar : Grammar) (sentence : Sentence) : Progress :=
  .advance grammar sentence (Construction.stepBound grammar sentence)
    (.running (Construction.initial sentence))

end ChartParsing
