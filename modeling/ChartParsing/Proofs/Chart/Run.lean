import ChartParsing.Proofs.Chart.Deduction
import Mathlib.Logic.Relation

/-!
Contract: the moments of a construction.

Owns what a single step of the machine can do, and the invariant that every step keeps: the charts are
sound, and the work in hand enters rows that are called for or sweeps for a complete row. From it
follows that the machine never goes astray. A moment is a state that is reached from the initial one.
-/

set_option autoImplicit false

namespace ChartParsing

/-- The charts at a stage of the construction, unless it was given up. -/
def Progress.charts? : Progress → Option Charts
  | .running construction => some construction.charts
  | .finished charts => some charts
  | .cancelled => none
  | .astray => none

namespace Construction

variable {grammar : Grammar} {sentence : Sentence}

/-! ## Words that are asked for -/

/-- The match of a terminal symbol with the word at some position, if there is a word. -/
def wordMatches (grammar : Grammar) (sentence : Sentence) (position : Nat) (expected : Symbol) :
    List (Nat × Row) :=
  match sentence.words[position]? with
  | none => []
  | some word =>
    if accepts grammar expected word then
      [(position + 1, Row.scanned (.terminal expected word) position (position + 1))]
    else []

def workFor (grammar : Grammar) (sentence : Sentence) (row : Row) : Work :=
  match row.next? with
  | some expected =>
    if expected.isPhrase then .entering (predictions grammar row.stop expected)
    else .entering (wordMatches grammar sentence row.stop expected
      ++ emptyMatches row.stop expected)
  | none => if row.rule.isSeed then .idle else .completing row 0

/-- Where a word is asked for there is one. -/
theorem wordMatches?_eq (grammar : Grammar) (sentence : Sentence) (position : Nat)
    (expected : Symbol) :
    wordMatches? grammar sentence position expected =
      some (wordMatches grammar sentence position expected) := by
  unfold wordMatches? wordMatches
  by_cases beyond : sentence.words.length ≤ position
  · rw [if_pos beyond, List.getElem?_eq_none beyond]
  · rw [if_neg beyond, List.getElem?_eq_getElem (Nat.not_le.1 beyond)]
    exact (apply_ite some _ _ _).symm

theorem workFor?_eq (grammar : Grammar) (sentence : Sentence) (row : Row) :
    workFor? grammar sentence row = some (workFor grammar sentence row) := by
  unfold workFor? workFor
  cases row.next? with
  | none => rfl
  | some expected =>
    simp only [wordMatches?_eq]
    exact (apply_ite some _ _ _).symm

/-! ## Work that fits the charts -/

def WorkFits (grammar : Grammar) (words : List String) (charts : Charts) (position : Nat) :
    Work → Prop
  | .idle => True
  | .entering rows => ∀ entry ∈ rows, entry.1 = entry.2.stop ∧ position ≤ entry.2.stop ∧
      entry.2.parents = [] ∧ Calls grammar words (· ∈ charts.rows.toList) entry.2
  | .completing completed _ => completed ∈ charts.rowsAt position ∧ completed.next? = none ∧
      completed.rule.isSeed = false

structure Sound (grammar : Grammar) (words : List String) (construction : Construction) : Prop where
  charts : construction.charts.Sound grammar words
  work : WorkFits grammar words construction.charts construction.position construction.work

theorem sound_initial (grammar : Grammar) (sentence : Sentence) :
    (initial sentence).Sound grammar sentence.words where
  charts := sound_seeded grammar sentence
  work := trivial

theorem WorkFits.grow {words : List String} {charts more : Charts} {position : Nat} {work : Work}
    (fits : WorkFits grammar words charts position work)
    (rows : charts.rows.toList ⊆ more.rows.toList)
    (rowsAt : charts.rowsAt position ⊆ more.rowsAt position) :
    WorkFits grammar words more position work := by
  cases work with
  | idle => trivial
  | entering entries =>
    intro entry member
    obtain ⟨place, late, fresh, calls⟩ := fits entry member
    exact ⟨place, late, fresh, calls.mono fun known isKnown => rows isKnown⟩
  | completing completed index => exact ⟨rowsAt fits.1, fits.2⟩

theorem mem_predictions {position : Nat} {symbol : Symbol} {entry : Nat × Row} :
    entry ∈ predictions grammar position symbol ↔
      ∃ production ∈ grammar.productionsOf symbol,
        entry = (position, .opening (.phrase production) position position .predict) := by
  simp only [predictions, List.mem_map]
  exact exists_congr fun production => and_congr_right fun _ => eq_comm

theorem mem_wordMatches {position : Nat} {symbol : Symbol} {entry : Nat × Row} :
    entry ∈ wordMatches grammar sentence position symbol ↔
      ∃ text, sentence.words[position]? = some text ∧ accepts grammar symbol text = true ∧
        entry = (position + 1, .scanned (.terminal symbol text) position (position + 1)) := by
  unfold wordMatches
  cases stands : sentence.words[position]? with
  | none => simp
  | some text => by_cases accepted : accepts grammar symbol text = true <;> simp [accepted]

theorem mem_emptyMatches {position : Nat} {symbol : Symbol} {entry : Nat × Row} :
    entry ∈ emptyMatches position symbol ↔
      symbol = .empty ∧ entry = (position, .scanned (.terminal .empty "") position position) := by
  unfold emptyMatches
  split <;> simp_all

theorem workFits_workFor {charts : Charts} {row : Row} (member : row ∈ charts.rows.toList)
    (here : row ∈ charts.rowsAt row.stop) :
    WorkFits grammar sentence.words charts row.stop (workFor grammar sentence row) := by
  unfold workFor
  cases expects : row.next? with
  | none =>
    by_cases seed : row.rule.isSeed = true
    · simp [seed, WorkFits]
    · simp only [seed]
      exact ⟨here, expects, by simpa using seed⟩
  | some symbol =>
    by_cases isPhrase : symbol.isPhrase = true
    · simp only [isPhrase, if_true]
      intro entry listed
      obtain ⟨production, produced, rfl⟩ := mem_predictions.1 listed
      exact ⟨rfl, Nat.le_refl _, rfl, .predict member expects isPhrase produced⟩
    · simp only [isPhrase]
      intro entry listed
      rcases List.mem_append.1 listed with listed | listed
      · obtain ⟨text, stands, accepted, rfl⟩ := mem_wordMatches.1 listed
        have isTerminal : symbol.isTerminal = true := by simp [Symbol.isTerminal, isPhrase]
        exact ⟨rfl, Nat.le_succ _, rfl, .word member expects isTerminal stands accepted⟩
      · obtain ⟨rfl, rfl⟩ := mem_emptyMatches.1 listed
        exact ⟨rfl, Nat.le_refl _, rfl, .nothing member expects⟩

/-! ## Moves -/

/-- What one step can do from a sound state. -/
inductive Moves (grammar : Grammar) (sentence : Sentence) : Construction → Progress → Prop where
  | finish {charts : Charts} {position cursor : Nat} {stopped : Bool}
      (walked : charts.length ≤ position) :
      Moves grammar sentence ⟨charts, position, cursor, .idle, stopped⟩ (.finished charts)
  | cancel {charts : Charts} {position cursor : Nat} (inside : position < charts.length)
      (asked : cursor = 0 ∨ cursor < (charts.rowsAt position).length) :
      Moves grammar sentence ⟨charts, position, cursor, .idle, true⟩ .cancelled
  | look {charts : Charts} {position cursor : Nat} {row : Row} (inside : position < charts.length)
      (next : (charts.rowsAt position)[cursor]? = some row) :
      Moves grammar sentence ⟨charts, position, cursor, .idle, false⟩
        (.running ⟨charts, position, cursor + 1, workFor grammar sentence row,
          raisesStop sentence row⟩)
  | leave {charts : Charts} {position cursor : Nat} {stopped : Bool}
      (inside : position < charts.length) (walked : (charts.rowsAt position).length ≤ cursor)
      (begun : stopped = true → cursor ≠ 0) :
      Moves grammar sentence ⟨charts, position, cursor, .idle, stopped⟩
        (.running ⟨charts, position + 1, 0, .idle, stopped⟩)
  | rest {charts : Charts} {position cursor : Nat} {stopped : Bool} :
      Moves grammar sentence ⟨charts, position, cursor, .entering [], stopped⟩
        (.running ⟨charts, position, cursor, .idle, stopped⟩)
  | enter {charts entered : Charts} {position cursor : Nat} {row : Row}
      {others : List (Nat × Row)} {stopped : Bool}
      (entry : charts.Entered row.stop row entered) (late : position ≤ row.stop) :
      Moves grammar sentence ⟨charts, position, cursor, .entering ((row.stop, row) :: others), stopped⟩
        (.running ⟨entered, position, cursor, .entering others, stopped⟩)
  | pass {charts : Charts} {position cursor index : Nat} {completed waiting : Row} {stopped : Bool}
      (next : (charts.rowsAt completed.start)[index]? = some waiting)
      (other : awaits waiting completed.start completed.rule.head = false) :
      Moves grammar sentence ⟨charts, position, cursor, .completing completed index, stopped⟩
        (.running ⟨charts, position, cursor, .completing completed (index + 1), stopped⟩)
  | advance {charts entered : Charts} {position cursor index : Nat} {completed waiting : Row}
      {stopped : Bool} (next : (charts.rowsAt completed.start)[index]? = some waiting)
      (waits : awaits waiting completed.start completed.rule.head = true)
      (entry : charts.Entered completed.stop (waiting.advance completed.stop completed.id) entered)
      (here : completed.stop = position) :
      Moves grammar sentence ⟨charts, position, cursor, .completing completed index, stopped⟩
        (.running ⟨entered, position, cursor, .completing completed (index + 1), stopped⟩)
  | swept {charts : Charts} {position cursor index : Nat} {completed : Row} {stopped : Bool}
      (walked : (charts.rowsAt completed.start).length ≤ index) :
      Moves grammar sentence ⟨charts, position, cursor, .completing completed index, stopped⟩
        (.running ⟨charts, position, cursor, .idle, stopped⟩)

theorem look_moves {charts : Charts} {position cursor : Nat} {stopped : Bool}
    (coherent : charts.Coherent) :
    Moves grammar sentence ⟨charts, position, cursor, .idle, stopped⟩
      (look grammar sentence charts position cursor stopped) := by
  unfold look
  by_cases inside : position < charts.length
  · rw [coherent.size?_eq inside]
    simp only [coherent.rowAt?_eq, workFor?_eq]
    by_cases more : cursor < (charts.rowsAt position).length
    · rw [List.getElem?_eq_getElem more]
      cases stopped with
      | true => simpa [more] using .cancel inside (.inr more)
      | false => simpa [more] using .look inside (List.getElem?_eq_getElem more)
    · have walked := Nat.not_lt.1 more
      cases stopped with
      | true =>
        by_cases begun : cursor = 0
        · subst begun
          exact .cancel inside (.inl rfl)
        · simpa [more, begun] using .leave inside walked fun _ => begun
      | false => simpa [more] using .leave inside walked fun raised => nomatch raised
  · rw [Charts.size?_eq_none (Nat.not_lt.1 inside)]
    exact .finish (Nat.not_lt.1 inside)

theorem enter_moves {charts : Charts} {position cursor : Nat} {rows : List (Nat × Row)}
    {stopped : Bool} (sound : charts.Sound grammar sentence.words)
    (fits : WorkFits grammar sentence.words charts position (.entering rows)) :
    Moves grammar sentence ⟨charts, position, cursor, .entering rows, stopped⟩
      (enter charts position cursor rows stopped) := by
  cases rows with
  | nil => exact .rest
  | cons entry others =>
    obtain ⟨place, row⟩ := entry
    obtain ⟨same, late, _, calls⟩ := fits _ List.mem_cons_self
    obtain rfl : place = row.stop := same
    have within := (calls.span sound.span).2
    have inside : row.stop < charts.length := by
      rw [sound.length_eq]
      exact Nat.lt_succ_of_le within
    obtain ⟨entered, answer, entry⟩ := sound.coherent.exists_entered inside row
    simp only [enter, answer]
    exact .enter entry late

theorem complete_moves {charts : Charts} {position cursor index : Nat} {completed : Row}
    {stopped : Bool} (sound : charts.Sound grammar sentence.words)
    (member : completed ∈ charts.rowsAt position) :
    Moves grammar sentence ⟨charts, position, cursor, .completing completed index, stopped⟩
      (complete charts position cursor completed index stopped) := by
  obtain ⟨member, here⟩ := sound.mem_rowsAt.1 member
  have span := sound.span completed member
  have startInside : completed.start < charts.length := by
    rw [sound.length_eq]
    omega
  have stopInside : completed.stop < charts.length := by
    rw [sound.length_eq]
    omega
  simp only [complete, sound.coherent.size?_eq startInside, sound.coherent.rowAt?_eq]
  by_cases more : index < (charts.rowsAt completed.start).length
  · have next := List.getElem?_eq_getElem more
    rw [next]
    simp only [more, if_true]
    by_cases waits :
        awaits (charts.rowsAt completed.start)[index] completed.start completed.rule.head = true
    · obtain ⟨entered, answer, entry⟩ := sound.coherent.exists_entered stopInside
        ((charts.rowsAt completed.start)[index].advance completed.stop completed.id)
      simp only [waits, if_true, answer]
      exact .advance next waits entry here
    · simp only [waits]
      exact .pass next (by simpa using waits)
  · simp only [more]
    exact .swept (Nat.not_lt.1 more)

/-- From a sound state the machine makes one of the moves; it never goes astray. -/
theorem Sound.moves {construction : Construction}
    (sound : construction.Sound grammar sentence.words) :
    Moves grammar sentence construction (construction.step grammar sentence) := by
  obtain ⟨charts, position, cursor, work, stopped⟩ := construction
  obtain ⟨soundCharts, fits⟩ := sound
  cases work with
  | idle => exact look_moves soundCharts.coherent
  | entering rows => exact enter_moves soundCharts fits
  | completing completed index => exact complete_moves soundCharts fits.1

theorem awaits_eq_true_iff {row : Row} {position : Nat} {symbol : Symbol} :
    awaits row position symbol = true ↔ row.stop = position ∧ row.next? = some symbol := by
  simp [awaits]

theorem calls_advance {charts : Charts} {completed waiting : Row} {index : Nat}
    (sound : charts.Sound grammar sentence.words) (member : completed ∈ charts.rows.toList)
    (complete : completed.next? = none) (notSeed : completed.rule.isSeed = false)
    (next : (charts.rowsAt completed.start)[index]? = some waiting)
    (waits : awaits waiting completed.start completed.rule.head = true) :
    Calls grammar sentence.words (· ∈ charts.rows.toList)
      (waiting.advance completed.stop completed.id) := by
  obtain ⟨meets, expects⟩ := awaits_eq_true_iff.1 waits
  have known := sound.mem_rowsAt.1 (List.mem_of_getElem? next)
  exact .advance known.1 member complete notSeed meets expects

theorem Sound.next {construction following : Construction}
    (sound : construction.Sound grammar sentence.words)
    (move : Moves grammar sentence construction (.running following)) :
    following.Sound grammar sentence.words := by
  obtain ⟨soundCharts, fits⟩ := sound
  cases move with
  | look inside next =>
    obtain ⟨member, stops⟩ := soundCharts.mem_rowsAt.1 (List.mem_of_getElem? next)
    refine ⟨soundCharts, ?_⟩
    subst stops
    exact workFits_workFor member (List.mem_of_getElem? next)
  | leave inside walked => exact ⟨soundCharts, trivial⟩
  | rest => exact ⟨soundCharts, trivial⟩
  | enter entry =>
    obtain ⟨_, _, _, calls⟩ := fits _ List.mem_cons_self
    have others : WorkFits grammar sentence.words _ _ (.entering _) :=
      fun other member => fits other (List.mem_cons_of_mem _ member)
    exact ⟨soundCharts.entered entry calls,
      others.grow entry.rows_subset (entry.rowsAt_prefix _).subset⟩
  | pass next other => exact ⟨soundCharts, fits⟩
  | advance next waits entry =>
    obtain ⟨here, complete, notSeed⟩ := fits
    obtain ⟨member, stops⟩ := soundCharts.mem_rowsAt.1 here
    have calls := calls_advance soundCharts member complete notSeed next waits
    refine ⟨soundCharts.entered entry calls, ?_⟩
    exact ⟨(entry.rowsAt_prefix _).subset here, complete, notSeed⟩
  | swept walked => exact ⟨soundCharts, trivial⟩

/-! ## Moments -/

def Next (grammar : Grammar) (sentence : Sentence) (construction following : Construction) : Prop :=
  construction.step grammar sentence = .running following

abbrev Later (grammar : Grammar) (sentence : Sentence) : Construction → Construction → Prop :=
  Relation.ReflTransGen (Next grammar sentence)

def Moment (grammar : Grammar) (sentence : Sentence) (construction : Construction) : Prop :=
  Later grammar sentence (initial sentence) construction

theorem Moment.sound {construction : Construction} (moment : Moment grammar sentence construction) :
    construction.Sound grammar sentence.words := by
  induction moment with
  | refl => exact sound_initial grammar sentence
  | tail _ next inductionHypothesis =>
    have move := inductionHypothesis.moves
    rw [next] at move
    exact inductionHypothesis.next move

theorem Moment.moves {construction : Construction} (moment : Moment grammar sentence construction) :
    Moves grammar sentence construction (construction.step grammar sentence) :=
  moment.sound.moves

theorem Moment.later {construction following : Construction}
    (moment : Moment grammar sentence construction)
    (later : Later grammar sentence construction following) : Moment grammar sentence following :=
  Relation.ReflTransGen.trans moment later

theorem Moment.moves_of_next {before after : Construction} (moment : Moment grammar sentence before)
    (next : Next grammar sentence before after) :
    Moves grammar sentence before (.running after) := by
  have move := moment.moves
  rwa [next] at move

/-- The machine is deterministic, so every moment comes before a last one. -/
theorem Moment.later_last {construction last : Construction}
    (moment : Moment grammar sentence construction) (lastMoment : Moment grammar sentence last)
    (ended : ∀ following, last.step grammar sentence ≠ .running following) :
    Later grammar sentence construction last := by
  have oneAfterOther : Relator.RightUnique (Next grammar sentence) := fun _ _ _ first second =>
    Progress.running.inj (first.symm.trans second)
  rcases Relation.ReflTransGen.total_of_right_unique oneAfterOther moment lastMoment with
    later | earlier
  · exact later
  · rcases earlier.cases_head with rfl | ⟨following, next, _⟩
    · exact .refl
    · exact absurd next (ended following)

/-- What holds of the initial state and is kept by every move of a moment holds of all moments. -/
@[elab_as_elim]
theorem Moment.induction
    {motive : (construction : Construction) → Moment grammar sentence construction → Prop}
    (first : motive (initial sentence) .refl)
    (kept : ∀ before after (earlier : Moment grammar sentence before)
      (moment : Moment grammar sentence after), motive before earlier →
        Moves grammar sentence before (.running after) → motive after moment)
    (construction : Construction) (moment : Moment grammar sentence construction) :
    motive construction moment := by
  induction moment with
  | refl => exact first
  | @tail before after path next inductionHypothesis =>
    exact kept before after path (path.tail next) inductionHypothesis (Moment.moves_of_next path next)

/-! ## Runs of many steps -/

/-- Some steps lead to a later state, or to the end that a later state comes to in its next step. -/
theorem Moment.exists_advance (steps : Nat) {construction : Construction}
    (moment : Moment grammar sentence construction) :
    ∃ last, Later grammar sentence construction last ∧
      (Progress.advance grammar sentence steps (.running construction) = .running last ∨
        Progress.advance grammar sentence steps (.running construction) =
            last.step grammar sentence ∧
          ∀ following, last.step grammar sentence ≠ .running following) := by
  induction steps generalizing construction with
  | zero => exact ⟨construction, .refl, .inl rfl⟩
  | succ steps inductionHypothesis =>
    have unfolded : Progress.advance grammar sentence (steps + 1) (.running construction) =
        Progress.advance grammar sentence steps (construction.step grammar sentence) := rfl
    rw [unfolded]
    cases taken : construction.step grammar sentence with
    | running following =>
      obtain ⟨last, later, outcome⟩ := inductionHypothesis (moment.tail taken)
      exact ⟨last, .head taken later, outcome⟩
    | finished charts =>
      refine ⟨construction, .refl, .inr ⟨?_, by simp [taken]⟩⟩
      rw [taken]
      cases steps <;> rfl
    | cancelled =>
      refine ⟨construction, .refl, .inr ⟨?_, by simp [taken]⟩⟩
      rw [taken]
      cases steps <;> rfl
    | astray =>
      have move := moment.moves
      rw [taken] at move
      cases move

theorem moment_of_advance {steps : Nat} {last : Construction}
    (reached : Progress.advance grammar sentence steps (.running (initial sentence)) =
      .running last) : Moment grammar sentence last := by
  have start : Moment grammar sentence (initial sentence) := .refl
  obtain ⟨other, later, outcome⟩ := start.exists_advance steps
  rw [reached] at outcome
  rcases outcome with same | ⟨same, ended⟩
  · obtain rfl := Progress.running.inj same
    exact later
  · exact absurd same.symm (ended last)

/-- Charts that are finished with: the machine has walked all of them. -/
def Finished (grammar : Grammar) (sentence : Sentence) (charts : Charts) : Prop :=
  ∃ position cursor stopped, charts.length ≤ position ∧
    Moment grammar sentence ⟨charts, position, cursor, .idle, stopped⟩

theorem Finished.sound {charts : Charts} (finished : Finished grammar sentence charts) :
    charts.Sound grammar sentence.words := by
  obtain ⟨_, _, _, _, moment⟩ := finished
  exact moment.sound.charts

theorem finished_of_advance {steps : Nat} {charts : Charts}
    (reached : Progress.advance grammar sentence steps (.running (initial sentence)) =
      .finished charts) : Finished grammar sentence charts := by
  have start : Moment grammar sentence (initial sentence) := .refl
  obtain ⟨last, later, outcome⟩ := start.exists_advance steps
  rw [reached] at outcome
  rcases outcome with impossible | ⟨same, _⟩
  · exact absurd impossible (by simp)
  · have move := (start.later later).moves
    rw [← same] at move
    cases move with
    | finish walked => exact ⟨_, _, _, walked, later⟩

theorem sound_of_advance {steps : Nat} {charts : Charts}
    (shown : (Progress.advance grammar sentence steps (.running (initial sentence))).charts? =
      some charts) : charts.Sound grammar sentence.words := by
  cases reached : Progress.advance grammar sentence steps (.running (initial sentence)) with
  | running construction =>
    rw [reached] at shown
    obtain rfl := Option.some.inj shown
    exact (moment_of_advance reached).sound.charts
  | finished others =>
    rw [reached] at shown
    obtain rfl := Option.some.inj shown
    exact (finished_of_advance reached).sound
  | cancelled => simp [reached, Progress.charts?] at shown
  | astray => simp [reached, Progress.charts?] at shown

end Construction

end ChartParsing
