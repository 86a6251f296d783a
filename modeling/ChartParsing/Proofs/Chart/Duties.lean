import ChartParsing.Proofs.Chart.Run
import ChartParsing.Proofs.Chart.Saturation
import ChartParsing.Proofs.Chart.Termination
import ChartParsing.Proofs.Chart.Trees
import Mathlib.Data.List.Infix

/-!
Contract: nothing that is called for gets lost, except for lateness.

Owns what the work in hand is going to enter, and the invariant that whatever the rows looked at call
for is in the charts or pending. A complete row without words is the exception: it is swept for while
its own chart still grows, and only the items that are there in time are advanced. At the end nothing
is pending, so finished charts are saturated up to lateness.
-/

set_option autoImplicit false

namespace ChartParsing.Construction

variable {grammar : Grammar} {sentence : Sentence}

/-! ## What is due -/

/-- The items that work in hand is going to enter. -/
def Pending (charts : Charts) (item : Item) : Work → Prop
  | .idle => False
  | .entering rows => ∃ entry ∈ rows, entry.2.toItem = item
  | .completing completed index => ∃ waiting ∈ (charts.rowsAt completed.start).drop index,
      waiting.next? = some completed.rule.head ∧ item = waiting.toItem.advance completed.stop

/-- An item that the charts have, or that the work in hand is going to enter. -/
def Due (construction : Construction) (item : Item) : Prop :=
  construction.charts.Has item ∨ Pending construction.charts item construction.work

theorem awaits_of_mem {charts : Charts} (sound : charts.Sound grammar sentence.words)
    {waiting : Row} {position : Nat} {symbol : Symbol} (member : waiting ∈ charts.rowsAt position)
    (expects : waiting.next? = some symbol) : awaits waiting position symbol = true :=
  awaits_eq_true_iff.2 ⟨(sound.mem_rowsAt.1 member).2, expects⟩

theorem drop_eq_cons {rows : List Row} {index : Nat} {row : Row} (next : rows[index]? = some row) :
    rows.drop index = row :: rows.drop (index + 1) := by
  obtain ⟨inside, rfl⟩ := List.getElem?_eq_some_iff.1 next
  exact List.drop_eq_getElem_cons inside

/-- What is due stays due: no move drops a pending item without entering it. -/
theorem Due.kept {before after : Construction} {item : Item} (due : Due before item)
    (moment : Moment grammar sentence before)
    (move : Moves grammar sentence before (.running after)) : Due after item := by
  have sound := moment.sound.charts
  cases move with
  | look inside next =>
    rcases due with has | pending
    · exact .inl has
    · exact pending.elim
  | leave inside walked => exact due
  | rest =>
    rcases due with has | ⟨entry, listed, _⟩
    · exact .inl has
    · exact absurd listed List.not_mem_nil
  | enter entry =>
    rcases due with has | ⟨other, listed, rfl⟩
    · exact .inl (entry.has has)
    · rcases List.mem_cons.1 listed with rfl | later
      · exact .inl entry.has_offered
      · exact .inr ⟨other, later, rfl⟩
  | pass next other =>
    rcases due with has | ⟨waiting, later, expects, rfl⟩
    · exact .inl has
    · rw [drop_eq_cons next] at later
      rcases List.mem_cons.1 later with rfl | later
      · have waits := awaits_of_mem sound (List.mem_of_getElem? next) expects
        rw [waits] at other
        exact nomatch other
      · exact .inr ⟨waiting, later, expects, rfl⟩
  | advance next waits entry =>
    rcases due with has | ⟨waiting, later, expects, rfl⟩
    · exact .inl (entry.has has)
    · rw [drop_eq_cons next] at later
      rcases List.mem_cons.1 later with rfl | later
      · exact .inl entry.has_offered
      · have grown := ((entry.rowsAt_prefix _).drop _).subset later
        exact .inr ⟨waiting, grown, expects, rfl⟩
  | swept walked =>
    rcases due with has | ⟨waiting, later, _⟩
    · exact .inl has
    · rw [List.drop_eq_nil_of_le walked] at later
      exact absurd later List.not_mem_nil

theorem Due.later {construction following : Construction} {item : Item} (due : Due construction item)
    (moment : Moment grammar sentence construction)
    (later : Later grammar sentence construction following) : Due following item := by
  induction later with
  | refl => exact due
  | tail path next inductionHypothesis =>
    have between := moment.later path
    exact inductionHypothesis.kept between (between.moves_of_next next)

/-! ## The rows looked at -/

def Seen (construction : Construction) (row : Row) : Prop :=
  row.stop < construction.position ∧ row ∈ construction.charts.rowsAt row.stop ∨
    row ∈ (construction.charts.rowsAt construction.position).take construction.cursor

/-- A chart that the machine has left does not change any more. -/
theorem Moves.rowsAt_eq {before after : Construction}
    (move : Moves grammar sentence before (.running after)) {position : Nat}
    (left : position < before.position) :
    after.charts.rowsAt position = before.charts.rowsAt position := by
  cases move with
  | look inside next => rfl
  | leave inside walked => rfl
  | rest => rfl
  | enter entry late => exact entry.rowsAt_of_ne (Nat.ne_of_lt (Nat.lt_of_lt_of_le left late))
  | pass next other => rfl
  | advance next waits entry here =>
    rw [← here] at left
    exact entry.rowsAt_of_ne (Nat.ne_of_lt left)
  | swept walked => rfl

theorem Seen.stop_le {construction : Construction} {row : Row} (seen : Seen construction row)
    (sound : construction.charts.Sound grammar sentence.words) :
    row.stop ≤ construction.position := by
  rcases seen with ⟨left, _⟩ | here
  · exact Nat.le_of_lt left
  · exact Nat.le_of_eq (sound.mem_rowsAt.1 (List.mem_of_mem_take here)).2

/-- Rows that are offered come after those looked at. -/
theorem Seen.of_entered {charts entered : Charts} {place position cursor : Nat} {offered row : Row}
    {work other : Work} {stopped : Bool} (entry : charts.Entered place offered entered)
    (late : position ≤ place) (within : cursor ≤ (charts.rowsAt position).length)
    (seen : Seen ⟨entered, position, cursor, work, stopped⟩ row) :
    Seen ⟨charts, position, cursor, other, stopped⟩ row := by
  rcases seen with ⟨left, member⟩ | here
  · have elsewhere := Nat.ne_of_lt (Nat.lt_of_lt_of_le left late)
    exact .inl ⟨left, by rwa [entry.rowsAt_of_ne elsewhere] at member⟩
  · obtain ⟨more, same⟩ := entry.rowsAt_prefix position
    rw [← same, List.take_append_of_le_length within] at here
    exact .inr here

theorem Moment.seen_before {before after : Construction} (moment : Moment grammar sentence before)
    (move : Moves grammar sentence before (.running after)) {row : Row} (seen : Seen after row) :
    Seen before row ∨ after.work = workFor grammar sentence row := by
  have within := moment.cursor_le.1
  cases move with
  | look inside next =>
    rcases seen with left | here
    · exact .inl (.inl left)
    · rw [List.take_add_one, next, List.mem_append] at here
      rcases here with earlier | last
      · exact .inl (.inr earlier)
      · obtain rfl := List.mem_singleton.1 last
        exact .inr rfl
  | leave inside walked =>
    rcases seen with ⟨left, member⟩ | here
    · rcases Nat.lt_succ_iff_lt_or_eq.1 left with earlier | same
      · exact .inl (.inl ⟨earlier, member⟩)
      · rw [same] at member
        exact .inl (.inr (by rwa [List.take_of_length_le walked]))
    · exact absurd here List.not_mem_nil
  | rest => exact .inl seen
  | enter entry late => exact .inl (seen.of_entered entry late within)
  | pass next other => exact .inl seen
  | advance next waits entry here =>
    exact .inl (seen.of_entered entry (Nat.le_of_eq here.symm) within)
  | swept walked => exact .inl seen

theorem not_seen_initial {row : Row} : ¬ Seen (initial sentence) row := by
  rintro (⟨impossible, _⟩ | impossible)
  · exact absurd impossible (Nat.not_lt_zero _)
  · exact absurd impossible List.not_mem_nil

theorem eq_of_workFor_completing {row completed : Row} {index : Nat}
    (working : workFor grammar sentence row = .completing completed index) :
    completed = row ∧ index = 0 ∧ row.next? = none := by
  unfold workFor at working
  split at working
  case h_1 symbol expects => split at working <;> exact nomatch working
  case h_2 complete =>
    split at working
    · exact nomatch working
    · obtain ⟨same, begins⟩ := Work.completing.inj working
      exact ⟨same.symm, begins.symm, complete⟩

/-- The work about a row, when it is not a complete row without words, is about charts that the
machine has left. -/
theorem Moves.pending_before {before after : Construction}
    (move : Moves grammar sentence before (.running after)) {row : Row} {item : Item}
    (stops : row.stop ≤ before.position) (covers : row.next? = none → row.start < row.stop)
    (pending : Pending after.charts item (workFor grammar sentence row)) :
    Pending before.charts item (workFor grammar sentence row) := by
  cases working : workFor grammar sentence row with
  | idle =>
    rw [working] at pending
    exact pending
  | entering rows =>
    rw [working] at pending
    exact pending
  | completing completed index =>
    obtain ⟨rfl, _, complete⟩ := eq_of_workFor_completing working
    have left := Nat.lt_of_lt_of_le (covers complete) stops
    rw [working] at pending
    obtain ⟨waiting, member, expects, same⟩ := pending
    rw [move.rowsAt_eq left] at member
    exact ⟨waiting, member, expects, same⟩

/-- Whatever the rows looked at call for is due, complete rows without words excepted. -/
theorem Moment.due_of_seen {construction : Construction}
    (moment : Moment grammar sentence construction) :
    ∀ row, Seen construction row → (row.next? = none → row.start < row.stop) →
      ∀ item, Pending construction.charts item (workFor grammar sentence row) →
        Due construction item := by
  induction construction, moment using Moment.induction with
  | first => exact fun row seen => absurd seen not_seen_initial
  | kept before after earlier _ tended move =>
    intro row seen covers item pending
    -- The charts that an older row is about are left; about a new one everything is pending.
    rcases earlier.seen_before move seen with old | new
    · have stops := old.stop_le earlier.sound.charts
      have was := move.pending_before stops covers pending
      exact (tended row old covers item was).kept earlier move
    · right
      rw [new]
      exact pending

/-- The work about every row that has been looked at was the work of some moment. -/
theorem Moment.exists_looked {construction : Construction}
    (moment : Moment grammar sentence construction) :
    ∀ row, Seen construction row →
      ∃ looked, Moment grammar sentence looked ∧ looked.work = workFor grammar sentence row := by
  induction construction, moment using Moment.induction with
  | first => exact fun row seen => absurd seen not_seen_initial
  | kept before after earlier moment inductionHypothesis move =>
    intro row seen
    rcases earlier.seen_before move seen with old | new
    · exact inductionHypothesis row old
    · exact ⟨after, moment, new⟩

end ChartParsing.Construction
