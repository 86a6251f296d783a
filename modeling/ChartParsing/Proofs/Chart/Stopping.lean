import ChartParsing.Proofs.Chart.Timing

/-!
Contract: constructions that are stopped.

Owns the comparison of a construction with the undisturbed one of the same words. Up to the moment at
which a raised stop flag is found the two go through the same states, and a flag that is raised is
found: the row that raises it lies in a chart that the machine has not left yet. So a construction is
cancelled exactly if the undisturbed charts have a row that asks for a word that raises the flag, and
is finished with the undisturbed charts otherwise.
-/

set_option autoImplicit false

namespace ChartParsing

/-- The sentence with the same words, none of which raises the stop flag. -/
def Sentence.undisturbed (sentence : Sentence) : Sentence where
  words := sentence.words

@[simp] theorem Sentence.undisturbed_words (sentence : Sentence) :
    sentence.undisturbed.words = sentence.words := rfl

theorem Sentence.raisesStop_undisturbed (sentence : Sentence) (position : Nat) :
    sentence.undisturbed.raisesStop position = false :=
  Bool.and_false _

namespace Construction

variable {grammar : Grammar} {sentence : Sentence}

/-! ## The undisturbed construction -/

/-- A state as it is when the stop flag is not raised. -/
def calm (construction : Construction) : Construction :=
  { construction with stopped := false }

theorem raisesStop_undisturbed (row : Row) : raisesStop sentence.undisturbed row = false := by
  rw [Bool.eq_false_iff]
  intro raises
  have raised := (raisesStop_eq_true_iff.1 raises).2
  rw [Sentence.raisesStop_undisturbed] at raised
  exact nomatch raised

theorem workFor_undisturbed (row : Row) :
    workFor grammar sentence.undisturbed row = workFor grammar sentence row := rfl

theorem look_calm {charts : Charts} {position cursor : Nat} {stopped : Bool}
    {following : Construction}
    (next : look grammar sentence charts position cursor stopped = .running following) :
    look grammar sentence.undisturbed charts position cursor false = .running following.calm := by
  unfold look at next ⊢
  cases size : charts.size? position with
  | none => simp [size] at next
  | some count =>
    by_cases more : cursor < count
    · cases stopped with
      | true => simp [size, more] at next
      | false =>
        cases found : charts.rowAt? position cursor with
        | none => simp [size, more, found] at next
        | some row =>
          simp only [size, more, found, workFor?_eq, Bool.and_false, if_true, Bool.false_eq_true,
            if_false, Progress.running.injEq] at next ⊢
          rw [← next, raisesStop_undisturbed, workFor_undisturbed]
          rfl
    · -- Behind the last row of a chart the flag is not looked at, so it may be raised on the way.
      by_cases found : (decide (cursor = 0) && stopped) = true
      · simp [size, found] at next
      · simp only [size, more, found, Bool.false_eq_true, if_false,
          Progress.running.injEq] at next
        simp only [more, Bool.and_false, Bool.false_eq_true, if_false, Progress.running.injEq]
        rw [← next]
        rfl

theorem enter_calm {charts : Charts} {position cursor : Nat} {rows : List (Nat × Row)}
    {stopped : Bool} {following : Construction}
    (next : enter charts position cursor rows stopped = .running following) :
    enter charts position cursor rows false = .running following.calm := by
  cases rows with
  | nil =>
    obtain rfl := Progress.running.inj next
    rfl
  | cons entry others =>
    obtain ⟨place, row⟩ := entry
    unfold enter at next ⊢
    cases entered : charts.enter? place row with
    | none => simp [entered] at next
    | some more =>
      simp only [entered, Progress.running.injEq] at next ⊢
      rw [← next]
      rfl

theorem complete_calm {charts : Charts} {position cursor index : Nat} {completed : Row}
    {stopped : Bool} {following : Construction}
    (next : complete charts position cursor completed index stopped = .running following) :
    complete charts position cursor completed index false = .running following.calm := by
  unfold complete at next ⊢
  cases size : charts.size? completed.start with
  | none => simp [size] at next
  | some count =>
    by_cases more : index < count
    · cases found : charts.rowAt? completed.start index with
      | none => simp [size, more, found] at next
      | some waiting =>
        by_cases waits : awaits waiting completed.start completed.rule.head = true
        · cases entered : charts.enter? completed.stop
              (waiting.advance completed.stop completed.id) with
          | none => simp [size, more, found, waits, entered] at next
          | some grown =>
            simp only [size, more, found, waits, entered, if_true, Progress.running.injEq] at next ⊢
            rw [← next]
            rfl
        · simp only [size, more, found, waits, if_true, Bool.false_eq_true, if_false,
            Progress.running.injEq] at next ⊢
          rw [← next]
          rfl
    · simp only [size, more, if_false, Progress.running.injEq] at next ⊢
      rw [← next]
      rfl

/-- Whatever step a construction takes, the undisturbed one takes, too. -/
theorem Next.calm {before after : Construction} (next : Next grammar sentence before after) :
    Next grammar sentence.undisturbed before.calm after.calm := by
  obtain ⟨charts, position, cursor, work, stopped⟩ := before
  cases work with
  | idle => exact look_calm next
  | entering rows => exact enter_calm next
  | completing completed index => exact complete_calm next

theorem Moment.calm {construction : Construction} (moment : Moment grammar sentence construction) :
    Moment grammar sentence.undisturbed construction.calm := by
  induction moment with
  | refl => exact .refl
  | tail _ next inductionHypothesis => exact inductionHypothesis.tail next.calm

/-! ## The flag -/

/-- A row that has raised the flag was the last one to be looked at. -/
theorem Moment.stopped_of_seen {construction : Construction}
    (moment : Moment grammar sentence construction) :
    ∀ row, Seen construction row → raisesStop sentence row = true → construction.stopped = true := by
  induction construction, moment using Moment.induction with
  | first =>
    rintro row (⟨impossible, _⟩ | impossible)
    · exact absurd impossible (Nat.not_lt_zero _)
    · exact absurd impossible List.not_mem_nil
  | kept before after earlier _ stops move =>
    have within := earlier.cursor_le.1
    cases move with
    | @look charts position cursor looked inside next =>
      rintro row (left | here) raises
      · exact absurd (stops row (.inl left) raises) Bool.false_ne_true
      · rw [List.take_add_one, next, List.mem_append] at here
        rcases here with before | last
        · exact absurd (stops row (.inr before) raises) Bool.false_ne_true
        · obtain rfl := List.mem_singleton.1 last
          exact raises
    | @leave charts position cursor stopped inside walked begun =>
      rintro row (⟨left, member⟩ | impossible) raises
      · refine stops row ?_ raises
        rcases Nat.lt_succ_iff_lt_or_eq.1 left with before | same
        · exact .inl ⟨before, member⟩
        · rw [same] at member
          exact .inr (by rwa [List.take_of_length_le walked])
      · exact absurd impossible List.not_mem_nil
    | rest => exact stops
    | enter entry late => exact fun row seen => stops row (seen.of_entered entry late within)
    | pass next other => exact stops
    | advance next waits entry here =>
      exact fun row seen => stops row (seen.of_entered entry (Nat.le_of_eq here.symm) within)
    | swept walked => exact stops

/-- The flag is not raised when all charts are walked: the word that raises it stands in front of the
last position, so there is a chart behind the one whose row raises it. -/
theorem Moment.stopped_eq_false_of_walked {charts : Charts} {position cursor : Nat} {work : Work}
    {stopped : Bool} (moment : Moment grammar sentence ⟨charts, position, cursor, work, stopped⟩)
    (walked : charts.length ≤ position) : stopped = false := by
  have sound : charts.Sound grammar sentence.words := moment.sound.charts
  rw [Bool.eq_false_iff]
  rintro rfl
  obtain ⟨row, _, raises, place⟩ := moment.exists_raising rfl
  have inside := (raisesStop_eq_true_iff.1 raises).2
  simp only [Sentence.raisesStop, Bool.and_eq_true, decide_eq_true_eq] at inside
  rw [sound.length_eq] at walked
  have near : position ≤ row.stop + 1 := by
    rcases place with here | ⟨before, _⟩
    · exact Nat.le_succ_of_le (Nat.le_of_eq here.symm)
    · exact Nat.le_of_eq before.symm
  omega

/-! ## How a construction ends -/

theorem exists_undisturbed (grammar : Grammar) (sentence : Sentence) :
    ∃ charts, construct grammar sentence.undisturbed = .finished charts := by
  rcases construct_ends grammar sentence.undisturbed with finished | ⟨_, position, raises⟩
  · exact finished
  · rw [Sentence.raisesStop_undisturbed] at raises
    exact nomatch raises

/-- No row asks for a word that raises the flag when all charts are walked. -/
theorem Moment.raisesStop_eq_false_of_walked {charts : Charts} {position cursor : Nat}
    {stopped : Bool} (moment : Moment grammar sentence ⟨charts, position, cursor, .idle, stopped⟩)
    (walked : charts.length ≤ position) {row : Row} (member : row ∈ charts.rows.toList) :
    raisesStop sentence row = false := by
  have sound : charts.Sound grammar sentence.words := moment.sound.charts
  have within := (sound.span row member).2
  have lowered := moment.stopped_eq_false_of_walked walked
  rw [sound.length_eq] at walked
  have seen : Seen ⟨charts, position, cursor, .idle, stopped⟩ row :=
    .inl ⟨Nat.lt_of_lt_of_le (Nat.lt_succ_of_le within) walked, sound.mem_rowsAt.2 ⟨member, rfl⟩⟩
  rw [Bool.eq_false_iff]
  intro raises
  have stops := moment.stopped_of_seen row seen raises
  rw [lowered] at stops
  exact nomatch stops

section Undisturbed

variable {charts : Charts}
  (undisturbed : construct grammar sentence.undisturbed = .finished charts)

include undisturbed

/-- A row that has raised the flag is among the rows of the undisturbed charts. -/
theorem Moment.exists_raising_undisturbed {construction : Construction}
    (moment : Moment grammar sentence construction) (stopped : construction.stopped = true) :
    ∃ row ∈ charts.rows.toList, raisesStop sentence row = true := by
  obtain ⟨row, member, raises, _⟩ := moment.exists_raising stopped
  have has : construction.charts.Has row.toItem := ⟨row, member, rfl⟩
  obtain ⟨known, stored, alike⟩ :=
    (finished_of_construct undisturbed).has_of_due moment.calm (.inl has)
  refine ⟨known, stored, ?_⟩
  rw [raisesStop_eq_true_iff] at raises ⊢
  rw [alike]
  exact raises

/-- The undisturbed construction ends where this one ends, so with the same charts. -/
theorem Moment.undisturbed_eq_of_walked {others : Charts} {position cursor : Nat} {stopped : Bool}
    (moment : Moment grammar sentence ⟨others, position, cursor, .idle, stopped⟩)
    (walked : others.length ≤ position) : charts = others := by
  have last : step grammar sentence.undisturbed
      (Construction.calm ⟨others, position, cursor, .idle, stopped⟩) = .finished others :=
    step_of_walked walked
  have ended := construct_eq_of_ended moment.calm (by simp [last])
  rw [undisturbed] at ended
  exact Progress.finished.inj (ended.trans last)

/-- A construction is cancelled exactly if a row of the undisturbed charts asks for a word that raises
the flag; otherwise it is finished with the undisturbed charts. -/
theorem construct_cases :
    (construct grammar sentence = .cancelled ∧
      ∃ row ∈ charts.rows.toList, raisesStop sentence row = true) ∨
    (construct grammar sentence = .finished charts ∧
      ∀ row ∈ charts.rows.toList, raisesStop sentence row = false) := by
  obtain ⟨last, moment, same, ended⟩ := exists_last grammar sentence
  have move := moment.moves
  cases taken : last.step grammar sentence with
  | running following => exact absurd taken (ended following)
  | astray =>
    rw [taken] at move
    cases move
  | cancelled =>
    rw [taken] at move
    cases move with
    | cancel inside =>
      exact .inl ⟨same.trans taken, moment.exists_raising_undisturbed undisturbed rfl⟩
  | finished others =>
    rw [taken] at move
    cases move with
    | finish walked =>
      obtain rfl := moment.undisturbed_eq_of_walked undisturbed walked
      exact .inr ⟨same.trans taken, fun row => moment.raisesStop_eq_false_of_walked walked⟩

end Undisturbed

end Construction

end ChartParsing
