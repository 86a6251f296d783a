import ChartParsing.Proofs.Chart.Items
import ChartParsing.Proofs.Chart.Run

/-!
Contract: the construction comes to an end.

Owns the load of a moment, a number of steps that are still ahead of it. Every step lowers the load,
since rows are never more than items are possible, so the allowance of steps that the construction is
given never cuts it off.
-/

set_option autoImplicit false

namespace ChartParsing.Construction

variable {grammar : Grammar} {sentence : Sentence}

/-! ## Where the machine stands -/

theorem Moment.cursor_le {construction : Construction}
    (moment : Moment grammar sentence construction) :
    construction.cursor ≤ (construction.charts.rowsAt construction.position).length ∧
      construction.position ≤ sentence.words.length + 1 := by
  induction construction, moment using Moment.induction with
  | first => exact ⟨Nat.zero_le _, Nat.zero_le _⟩
  | kept before after earlier _ stands move =>
    cases move with
    | look inside next => exact ⟨(List.getElem?_eq_some_iff.1 next).1, stands.2⟩
    | leave inside walked =>
      rw [earlier.sound.charts.length_eq] at inside
      exact ⟨Nat.zero_le _, inside⟩
    | rest => exact stands
    | enter entry => exact ⟨stands.1.trans (entry.rowsAt_prefix _).length_le, stands.2⟩
    | pass next other => exact stands
    | advance next waits entry =>
      exact ⟨stands.1.trans (entry.rowsAt_prefix _).length_le, stands.2⟩
    | swept walked => exact stands

theorem raisesStop_eq_true_iff {row : Row} :
    raisesStop sentence row = true ↔
      (∃ symbol, row.next? = some symbol ∧ symbol.isTerminal = true) ∧
        sentence.raisesStop row.stop = true := by
  unfold raisesStop
  cases expects : row.next? with
  | none => simp
  | some symbol => simp

/-- When the flag is raised, a row of the chart being walked has raised it, or a row of the chart before
it when no row of the chart has been looked at yet. -/
theorem Moment.exists_raising {construction : Construction}
    (moment : Moment grammar sentence construction) :
    construction.stopped = true →
      ∃ row ∈ construction.charts.rows.toList, raisesStop sentence row = true ∧
        (row.stop = construction.position ∨
          row.stop + 1 = construction.position ∧ construction.cursor = 0) := by
  induction construction, moment using Moment.induction with
  | first => exact fun raised => nomatch raised
  | kept before after earlier _ raised move =>
    cases move with
    | look inside next =>
      intro raises
      obtain ⟨member, stops⟩ := earlier.sound.charts.mem_rowsAt.1 (List.mem_of_getElem? next)
      exact ⟨_, member, raises, .inl stops⟩
    | leave inside walked begun =>
      intro stopped
      obtain ⟨row, member, raises, here | ⟨_, atTop⟩⟩ := raised stopped
      · exact ⟨row, member, raises, .inr ⟨congrArg Nat.succ here, rfl⟩⟩
      · exact absurd atTop (begun stopped)
    | rest => exact raised
    | enter entry =>
      intro stopped
      obtain ⟨row, member, raises, place⟩ := raised stopped
      exact ⟨row, entry.rows_subset member, raises, place⟩
    | pass next other => exact raised
    | advance next waits entry =>
      intro stopped
      obtain ⟨row, member, raises, place⟩ := raised stopped
      exact ⟨row, entry.rows_subset member, raises, place⟩
    | swept walked => exact raised

/-! ## Loads -/

/-- How many rows the machine has looked at when it stands at a cursor of a position. -/
def lookedAt (charts : Charts) (position cursor : Nat) : Nat :=
  (charts.rows.toList.countP fun row => row.stop < position) + cursor

/-- A number of steps that work takes while there are no more rows than some bound. -/
def workLoad (rows : Nat) : Work → Nat
  | .idle => 0
  | .entering entries => entries.length + 1
  | .completing _ index => rows - index + 1

/-- A number of steps that the rows not looked at take, the charts not left, and the work in hand. -/
def load (grammar : Grammar) (sentence : Sentence) (construction : Construction) : Nat :=
  let rows := rowBound grammar sentence
  (rows - lookedAt construction.charts construction.position construction.cursor)
      * (rows + grammar.ruleCount + 5)
    + (sentence.words.length + 2 - construction.position) + workLoad rows construction.work

theorem load_initial (grammar : Grammar) (sentence : Sentence) :
    load grammar sentence (initial sentence) = stepBound grammar sentence := by
  have none : lookedAt (seeded sentence) 0 0 = 0 := by simp [lookedAt]
  simp only [load, initial, none, workLoad, stepBound, Nat.sub_zero]
  omega

theorem countP_stop_lt {charts : Charts} (sound : charts.Sound grammar sentence.words)
    (position : Nat) :
    (charts.rows.toList.countP fun row => row.stop < position + 1) =
      (charts.rows.toList.countP fun row => row.stop < position)
        + (charts.rowsAt position).length := by
  rw [sound.placed, ← List.countP_eq_length_filter]
  induction charts.rows.toList with
  | nil => rfl
  | cons row others inductionHypothesis =>
    simp only [List.countP_cons, inductionHypothesis, decide_eq_true_eq]
    split_ifs <;> omega

theorem lookedAt_lt_rowBound {charts : Charts} {position cursor : Nat}
    (sound : charts.Sound grammar sentence.words)
    (more : cursor < (charts.rowsAt position).length) :
    lookedAt charts position cursor < rowBound grammar sentence := by
  have counted := countP_stop_lt sound position
  have few : (charts.rows.toList.countP fun row => row.stop < position + 1) ≤
      charts.rows.toList.length := List.countP_le_length
  have bound := sound.rowCount_le_rowBound
  rw [Charts.rowCount, ← Array.length_toList] at bound
  unfold lookedAt
  omega

theorem length_rowsAt_le {charts : Charts} (sound : charts.Sound grammar sentence.words)
    (position : Nat) : (charts.rowsAt position).length ≤ rowBound grammar sentence := by
  have few : (charts.rowsAt position).length ≤ charts.rows.toList.length := by
    rw [sound.placed]
    exact List.length_filter_le _ _
  exact few.trans sound.rowCount_le_rowBound

theorem lookedAt_le_of_entered {charts entered : Charts} {place : Nat} {row : Row}
    (entry : charts.Entered place row entered) (position cursor : Nat) :
    lookedAt charts position cursor ≤ lookedAt entered position cursor := by
  cases entry with
  | known present => exact Nat.le_refl _
  | added new growth =>
    unfold lookedAt
    rw [growth.rows_eq, List.countP_append]
    omega

theorem length_productionsOf_le (grammar : Grammar) (symbol : Symbol) :
    (grammar.productionsOf symbol).length ≤ grammar.ruleCount := by
  have few : (grammar.productionsOf symbol).length ≤ grammar.productions.toList.length :=
    List.length_filter_le _ _
  simpa [Grammar.ruleCount] using few

theorem workLoad_workFor (grammar : Grammar) (sentence : Sentence) (row : Row) :
    workLoad (rowBound grammar sentence) (workFor grammar sentence row) + 1 ≤
      rowBound grammar sentence + grammar.ruleCount + 5 := by
  unfold workFor
  split
  case h_1 symbol expects =>
    split
    · have few := length_productionsOf_le grammar symbol
      simp only [workLoad, predictions, List.length_map]
      omega
    · have words : (wordMatches grammar sentence row.stop symbol).length ≤ 1 := by
        unfold wordMatches
        split
        · exact Nat.zero_le _
        · split <;> simp
      have nothing : (emptyMatches row.stop symbol).length ≤ 1 := by
        unfold emptyMatches
        split <;> simp
      simp only [workLoad, List.length_append]
      omega
  case h_2 complete => split <;> simp only [workLoad] <;> omega

theorem share_succ {rows seen : Nat} (share : Nat) (small : seen < rows) :
    (rows - seen) * share = (rows - (seen + 1)) * share + share := by
  obtain ⟨left, same⟩ : ∃ left, rows - seen = left + 1 := ⟨rows - seen - 1, by omega⟩
  have next : rows - (seen + 1) = left := by omega
  rw [same, next, Nat.succ_mul]

theorem share_le_of_entered {charts entered : Charts} {place : Nat} {row : Row}
    (entry : charts.Entered place row entered) (rows share position cursor : Nat) :
    (rows - lookedAt entered position cursor) * share ≤
      (rows - lookedAt charts position cursor) * share :=
  Nat.mul_le_mul_right share
    (Nat.sub_le_sub_left (lookedAt_le_of_entered entry position cursor) rows)

theorem load_lt {before after : Construction} (moment : Moment grammar sentence before)
    (move : Moves grammar sentence before (.running after)) :
    load grammar sentence after < load grammar sentence before := by
  cases move with
  | @look charts position cursor row inside next =>
    have sound : charts.Sound grammar sentence.words := moment.sound.charts
    -- The share of the row that is looked at pays for the work about it.
    have seen := share_succ (rowBound grammar sentence + grammar.ruleCount + 5)
      (lookedAt_lt_rowBound sound (List.getElem?_eq_some_iff.1 next).1)
    have work := workLoad_workFor grammar sentence row
    simp only [load, lookedAt, workLoad, ← Nat.add_assoc] at seen work ⊢
    omega
  | @leave charts position cursor stopped inside walked begun =>
    have sound : charts.Sound grammar sentence.words := moment.sound.charts
    have last : cursor ≤ (charts.rowsAt position).length := moment.cursor_le.1
    have counted := countP_stop_lt sound position
    have all : lookedAt charts position cursor = lookedAt charts (position + 1) 0 := by
      unfold lookedAt
      omega
    rw [sound.length_eq] at inside
    simp only [load, workLoad, all]
    omega
  | rest =>
    simp only [load, workLoad, List.length_nil]
    omega
  | @enter charts entered position cursor row others stopped entry =>
    have seen := share_le_of_entered entry (rowBound grammar sentence)
      (rowBound grammar sentence + grammar.ruleCount + 5) position cursor
    simp only [load, workLoad, List.length_cons] at seen ⊢
    omega
  | @pass charts position cursor index completed waiting stopped next other =>
    have inside := (List.getElem?_eq_some_iff.1 next).1
    have few := length_rowsAt_le moment.sound.charts completed.start
    simp only [load, workLoad] at few ⊢
    omega
  | @advance charts entered position cursor index completed waiting stopped next waits entry =>
    have seen := share_le_of_entered entry (rowBound grammar sentence)
      (rowBound grammar sentence + grammar.ruleCount + 5) position cursor
    have inside := (List.getElem?_eq_some_iff.1 next).1
    have few := length_rowsAt_le moment.sound.charts completed.start
    simp only [load, workLoad] at few seen ⊢
    omega
  | swept walked =>
    simp only [load, workLoad]
    omega

theorem advance_ne_running {steps : Nat} {construction : Construction}
    (moment : Moment grammar sentence construction)
    (enough : load grammar sentence construction ≤ steps) (last : Construction) :
    Progress.advance grammar sentence steps (.running construction) ≠ .running last := by
  induction steps generalizing construction with
  | zero =>
    have stands := moment.cursor_le.2
    simp only [load] at enough
    omega
  | succ steps inductionHypothesis =>
    have unfolded : Progress.advance grammar sentence (steps + 1) (.running construction) =
        Progress.advance grammar sentence steps (construction.step grammar sentence) := rfl
    rw [unfolded]
    have move := moment.moves
    cases taken : construction.step grammar sentence with
    | running following =>
      rw [taken] at move
      have lower := load_lt moment move
      exact inductionHypothesis (moment.tail taken) (by omega)
    | finished charts => cases steps <;> simp [Progress.advance]
    | cancelled => cases steps <;> simp [Progress.advance]
    | astray => cases steps <;> simp [Progress.advance]

/-! ## The end -/

/-- The construction comes to what the step from a last moment leads to. -/
theorem exists_last (grammar : Grammar) (sentence : Sentence) :
    ∃ last, Moment grammar sentence last ∧
      construct grammar sentence = last.step grammar sentence ∧
        ∀ following, last.step grammar sentence ≠ .running following := by
  have start : Moment grammar sentence (initial sentence) := .refl
  have enough := Nat.le_of_eq (load_initial grammar sentence)
  obtain ⟨last, later, outcome⟩ := start.exists_advance (stepBound grammar sentence)
  rcases outcome with running | ended
  · exact absurd running (advance_ne_running start enough last)
  · exact ⟨last, start.later later, ended⟩

theorem construct_eq_of_ended {last : Construction} (moment : Moment grammar sentence last)
    (ended : ∀ following, last.step grammar sentence ≠ .running following) :
    construct grammar sentence = last.step grammar sentence := by
  obtain ⟨other, otherMoment, same, otherEnded⟩ := exists_last grammar sentence
  rcases (otherMoment.later_last moment ended).cases_head with rfl | ⟨following, next, _⟩
  · exact same
  · exact absurd next (otherEnded following)

/-- A construction is finished with all charts, unless a word raises the stop flag. -/
theorem construct_ends (grammar : Grammar) (sentence : Sentence) :
    (∃ charts, construct grammar sentence = .finished charts) ∨
      construct grammar sentence = .cancelled ∧
        ∃ position, sentence.raisesStop position = true := by
  obtain ⟨last, moment, same, ended⟩ := exists_last grammar sentence
  have move := moment.moves
  cases taken : last.step grammar sentence with
  | running following => exact absurd taken (ended following)
  | finished charts => exact .inl ⟨charts, same.trans taken⟩
  | cancelled =>
    rw [taken] at move
    cases move with
    | cancel inside =>
      obtain ⟨row, _, raises, _⟩ := moment.exists_raising rfl
      exact .inr ⟨same.trans taken, row.stop, (raisesStop_eq_true_iff.1 raises).2⟩
  | astray =>
    rw [taken] at move
    cases move

theorem finished_of_construct {charts : Charts}
    (finished : construct grammar sentence = .finished charts) :
    Finished grammar sentence charts :=
  finished_of_advance finished

theorem advance_add (first second : Nat) (progress : Progress) :
    Progress.advance grammar sentence (first + second) progress =
      Progress.advance grammar sentence second (Progress.advance grammar sentence first progress) := by
  induction first generalizing progress with
  | zero => rw [Nat.zero_add]; rfl
  | succ first inductionHypothesis =>
    rw [Nat.succ_add]
    cases progress with
    | running construction => exact inductionHypothesis _
    | finished charts => cases second <;> rfl
    | cancelled => cases second <;> rfl
    | astray => cases second <;> rfl

/-- The allowance of steps does not matter: more steps change nothing. -/
theorem advance_eq_construct {steps : Nat} (enough : stepBound grammar sentence ≤ steps) :
    Progress.advance grammar sentence steps (.running (initial sentence)) =
      construct grammar sentence := by
  obtain ⟨more, rfl⟩ := Nat.exists_eq_add_of_le enough
  rw [advance_add]
  change Progress.advance grammar sentence more (construct grammar sentence) = _
  rcases construct_ends grammar sentence with ⟨charts, same⟩ | ⟨same, _⟩
  · rw [same]
    cases more <;> rfl
  · rw [same]
    cases more <;> rfl

theorem pairwise_rowsAt {charts : Charts} (sound : charts.Sound grammar sentence.words)
    (position : Nat) :
    (charts.rowsAt position).Pairwise fun left right => left.toItem ≠ right.toItem := by
  rw [sound.placed]
  exact (List.pairwise_map.1 sound.distinct).sublist List.filter_sublist

/-- The construction comes to an end for every grammar and every sentence: it is finished with all
charts, or cancelled by a word that raises the stop flag, and no allowance of steps above its own
changes that. At every moment no two rows of a chart have one item, and there are no more rows than
items that the sentence can have. -/
theorem construct_ends_without_duplicates (grammar : Grammar) (sentence : Sentence) :
    ((∃ charts, construct grammar sentence = .finished charts) ∨
      construct grammar sentence = .cancelled ∧
        ∃ position, sentence.raisesStop position = true) ∧
    (∀ steps, stepBound grammar sentence ≤ steps →
      Progress.advance grammar sentence steps (.running (initial sentence)) =
        construct grammar sentence) ∧
    ∀ steps charts,
      (Progress.advance grammar sentence steps (.running (initial sentence))).charts? =
        some charts →
      (∀ position ≤ sentence.words.length, ∃ rows, charts.rowsOf? position = some rows ∧
        rows.Pairwise fun left right => left.toItem ≠ right.toItem) ∧
      {item : Item | item.Possible grammar sentence.words}.Finite ∧
      charts.rowCount ≤ {item : Item | item.Possible grammar sentence.words}.ncard := by
  refine ⟨construct_ends grammar sentence, fun steps => advance_eq_construct, ?_⟩
  intro steps charts shown
  have sound := sound_of_advance shown
  refine ⟨?_, Charts.finite_possible grammar sentence.words, sound.rowCount_le_ncard⟩
  intro position within
  have inside : position < charts.length := by
    rw [sound.length_eq]
    exact Nat.lt_succ_of_le within
  exact ⟨_, sound.coherent.rowsOf?_eq inside, pairwise_rowsAt sound position⟩

end ChartParsing.Construction
