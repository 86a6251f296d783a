import ChartParsing.Proofs.Chart.Duties
import ChartParsing.Proofs.Grammar.Coverage
import ChartParsing.Session

/-!
Contract: predictions from the grammar of a parser.

Owns the agreement of two walks that know nothing of each other: the check of a grammar before
parsing, and the construction of charts. Every phrase symbol that the rule of a row is made of is
needed, so in the grammar of a parser it has productions. A row that expects a phrase is never left
without a prediction, and all its predictions are in its chart before the next row is looked at.
-/

set_option autoImplicit false

namespace ChartParsing

namespace Charts

variable {grammar : Grammar} {words : List String} {charts : Charts}

/-- The rows of sound charts are made of needed phrase symbols only, since a production comes into a
chart only where its head is expected. -/
theorem Sound.needed (sound : charts.Sound grammar words) :
    ∀ row ∈ charts.rows.toList, ∀ symbol ∈ row.rule.constituents, symbol.isPhrase = true →
      grammar.Needed symbol := by
  refine sound.induction ?first ?called
  case first =>
    intro symbol inRule _
    rw [List.mem_singleton.1 inRule]
    exact .root
  case called =>
    intro id made _ calls symbol inRule isPhrase
    cases calls with
    | @predict waiting expected production isKnown expects expectsPhrase listed =>
      rw [Item.next?_eq] at expects
      have isNeeded := isKnown.2.2 expected (List.mem_of_getElem? expects) expectsPhrase
      exact .part isNeeded listed inRule isPhrase
    | word isKnown expects isTerminal stands accepted => exact absurd inRule List.not_mem_nil
    | nothing isKnown expects => exact absurd inRule List.not_mem_nil
    | advance isKnown isAlsoKnown complete notSeed meets expects =>
      exact isKnown.2.2 symbol inRule isPhrase

end Charts

namespace Construction

variable {grammar : Grammar} {sentence : Sentence}

/-- Rows to be entered are entered one a step, and one more step ends the work. -/
theorem Moment.advance_entering {rows : List (Nat × Row)} {charts : Charts} {position cursor : Nat}
    {stopped : Bool}
    (moment : Moment grammar sentence ⟨charts, position, cursor, .entering rows, stopped⟩) :
    ∃ after, Later grammar sentence ⟨charts, position, cursor, .entering rows, stopped⟩
        ⟨after, position, cursor, .idle, stopped⟩ ∧
      Progress.advance grammar sentence (rows.length + 1)
          (.running ⟨charts, position, cursor, .entering rows, stopped⟩) =
        .running ⟨after, position, cursor, .idle, stopped⟩ := by
  induction rows generalizing charts with
  | nil => exact ⟨charts, .single rfl, rfl⟩
  | cons entry others inductionHypothesis =>
    have move := moment.moves
    generalize taken : step grammar sentence ⟨charts, position, cursor, .entering (entry :: others),
      stopped⟩ = progress at move
    cases move with
    | @enter _ entered _ _ row _ _ entry late =>
      obtain ⟨after, later, reached⟩ := inductionHypothesis (moment.tail taken)
      refine ⟨after, .head taken later, ?_⟩
      rw [List.length_cons, Progress.advance, taken]
      exact reached

theorem Moment.look_predicting {charts : Charts} {position cursor : Nat} {row : Row}
    {symbol : Symbol} (moment : Moment grammar sentence ⟨charts, position, cursor, .idle, false⟩)
    (next : charts.rowAt? position cursor = some row) (expects : row.next? = some symbol)
    (isPhrase : symbol.isPhrase = true) :
    Next grammar sentence ⟨charts, position, cursor, .idle, false⟩
      ⟨charts, position, cursor + 1, .entering (predictions grammar position symbol), false⟩ := by
  have sound : charts.Sound grammar sentence.words := moment.sound.charts
  rw [sound.coherent.rowAt?_eq] at next
  have stops : row.stop = position := (sound.mem_rowsAt.1 (List.mem_of_getElem? next)).2
  have work : workFor grammar sentence row = .entering (predictions grammar position symbol) := by
    simp only [workFor, expects, isPhrase, if_true, stops]
  have calm : raisesStop sentence row = false := by
    simp [raisesStop, expects, Symbol.isTerminal, isPhrase]
  have move := moment.moves
  unfold Next
  generalize step grammar sentence ⟨charts, position, cursor, .idle, false⟩ = progress at move ⊢
  cases move with
  | finish walked =>
    have absent : charts.charts[position]? = none := Array.getElem?_eq_none walked
    simp [Charts.rowsAt, absent] at next
  | look inside found =>
    obtain rfl := Option.some.inj (next.symm.trans found)
    rw [work, calm]
  | leave inside walked =>
    rw [List.getElem?_eq_none walked] at next
    cases next

/-- Where a row expects a phrase, the machine goes on to the next row when the chart has a row for
each production of the phrase. -/
theorem Moment.exists_predicted {charts : Charts} {position cursor : Nat} {row : Row}
    {symbol : Symbol} (moment : Moment grammar sentence ⟨charts, position, cursor, .idle, false⟩)
    (next : charts.rowAt? position cursor = some row) (expects : row.next? = some symbol)
    (isPhrase : symbol.isPhrase = true) :
    ∃ predicted, Moment grammar sentence ⟨predicted, position, cursor + 1, .idle, false⟩ ∧
      Progress.advance grammar sentence ((grammar.productionsOf symbol).length + 2)
          (.running ⟨charts, position, cursor, .idle, false⟩) =
        .running ⟨predicted, position, cursor + 1, .idle, false⟩ ∧
      ∀ production ∈ grammar.productionsOf symbol,
        predicted.Has ⟨.phrase production, 0, position, position⟩ := by
  have taken := moment.look_predicting next expects isPhrase
  have entering : Moment grammar sentence
      ⟨charts, position, cursor + 1, .entering (predictions grammar position symbol), false⟩ :=
    moment.tail taken
  obtain ⟨predicted, later, reached⟩ := entering.advance_entering
  refine ⟨predicted, entering.later later, ?_, ?_⟩
  · rw [predictions, List.length_map] at reached
    rw [Progress.advance, show step grammar sentence _ = _ from taken]
    exact reached
  · intro production listed
    have due : Due
        ⟨charts, position, cursor + 1, .entering (predictions grammar position symbol), false⟩
        ⟨.phrase production, 0, position, position⟩ :=
      .inr ⟨_, mem_predictions.2 ⟨production, listed, rfl⟩, rfl⟩
    rcases due.later entering later with has | impossible
    · exact has
    · exact impossible.elim

end Construction

open Construction

theorem Parser.productionsOf_ne_nil (parser : Parser) {symbol : Symbol}
    (needed : parser.grammar.Needed symbol) : parser.grammar.productionsOf symbol ≠ [] := by
  obtain ⟨expanded, walk⟩ := parser.grammar.exists_walk [.root] parser.grammar.productions.toList
  have covered : parser.grammar.firstMissing? [.root] parser.grammar.productions.toList = none :=
    Option.map_eq_none_iff.1 parser.covered
  have verdict := walk.verdict parser.grammar.stage_root
  rw [covered] at verdict
  exact verdict symbol needed

/-- At every moment of a parse the phrase symbols that a row is made of are needed and have
productions. So wherever a row expects a phrase there is something to predict, and the chart has a
row at the first dot position for each production of the phrase before the next row is looked at. -/
theorem Parser.no_dead_predictions (parser : Parser) (sentence : Sentence) :
    (∀ steps charts,
      (Progress.advance parser.grammar sentence steps (.running (initial sentence))).charts? =
        some charts →
      ∀ id row, charts.row? id = some row → ∀ symbol ∈ row.rule.constituents,
        symbol.isPhrase = true →
          parser.grammar.Needed symbol ∧ parser.grammar.productionsOf symbol ≠ []) ∧
    ∀ steps charts position cursor row symbol,
      Progress.advance parser.grammar sentence steps (.running (initial sentence)) =
        .running ⟨charts, position, cursor, .idle, false⟩ →
      charts.rowAt? position cursor = some row → row.next? = some symbol → symbol.isPhrase = true →
      parser.grammar.productionsOf symbol ≠ [] ∧
        ∃ predicted rows,
          Progress.advance parser.grammar sentence
              (steps + ((parser.grammar.productionsOf symbol).length + 2))
              (.running (initial sentence)) =
            .running ⟨predicted, position, cursor + 1, .idle, false⟩ ∧
          predicted.rowsOf? position = some rows ∧
          ∀ production ∈ parser.grammar.productionsOf symbol, ∃ made ∈ rows,
            made.toItem = ⟨.phrase production, 0, position, position⟩ := by
  constructor
  · intro steps charts shown id row found symbol inRule isPhrase
    have needed := (sound_of_advance shown).needed row (Charts.row?_mem found) symbol inRule isPhrase
    exact ⟨needed, parser.productionsOf_ne_nil needed⟩
  · intro steps charts position cursor row symbol reached next expects isPhrase
    have moment := moment_of_advance reached
    have sound : charts.Sound parser.grammar sentence.words := moment.sound.charts
    have stored : row ∈ charts.rows.toList := by
      rw [sound.coherent.rowAt?_eq] at next
      exact Charts.mem_rows_of_mem_rowsAt (List.mem_of_getElem? next)
    have inRule : symbol ∈ row.rule.constituents := by
      rw [Item.next?_eq] at expects
      exact List.mem_of_getElem? expects
    have productive := parser.productionsOf_ne_nil (sound.needed row stored symbol inRule isPhrase)
    obtain ⟨predicted, after, continued, has⟩ := moment.exists_predicted next expects isPhrase
    have soundAfter : predicted.Sound parser.grammar sentence.words := after.sound.charts
    obtain ⟨production, listed⟩ := List.exists_mem_of_ne_nil _ productive
    have inside : position < predicted.length := by
      obtain ⟨made, member, same⟩ := has production listed
      have stops : made.stop = position := congrArg Item.stop same
      have within := (soundAfter.span made member).2
      rw [soundAfter.length_eq]
      omega
    refine ⟨productive, predicted, _, ?_, soundAfter.coherent.rowsOf?_eq inside, ?_⟩
    · rw [advance_add, reached]
      exact continued
    · intro other isListed
      obtain ⟨made, member, same⟩ := has other isListed
      exact ⟨made, soundAfter.mem_rowsAt.2 ⟨member, congrArg Item.stop same⟩, same⟩

end ChartParsing
