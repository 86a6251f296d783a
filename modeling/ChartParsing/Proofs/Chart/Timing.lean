import ChartParsing.Proofs.Chart.Duties

/-!
Contract: which items are in time for a constituent without words.

Owns the timing of the sweeps for complete rows that cover no words. Such a sweep runs in the very
chart that it adds to, and happens once for each complete row: an item is advanced exactly if a row
has it before the sweep is over. Finished charts are saturated up to this condition, and meet it
wherever a constituent without words did advance a row.
-/

set_option autoImplicit false

namespace ChartParsing.Construction

variable {grammar : Grammar} {sentence : Sentence}

/-- A row has an item while the machine still sweeps for a complete row of a symbol that covers no
words and starts where the item stops. -/
def InTime (grammar : Grammar) (sentence : Sentence) (item : Item) (symbol : Symbol) : Prop :=
  ∃ sweep completed index, Moment grammar sentence sweep ∧
    sweep.work = .completing completed index ∧ completed.rule.head = symbol ∧
    completed.start = item.stop ∧ completed.stop = item.stop ∧ sweep.charts.Has item

/-! ## What a sweep does -/

theorem Moment.has_of_swept {construction : Construction}
    (moment : Moment grammar sentence construction) :
    ∀ completed index, construction.work = .completing completed index →
      ∀ waiting ∈ (construction.charts.rowsAt completed.start).take index,
        waiting.next? = some completed.rule.head →
          construction.charts.Has (waiting.toItem.advance completed.stop) := by
  induction construction, moment using Moment.induction with
  | first =>
    intro completed index impossible
    exact nomatch impossible
  | kept before after earlier _ advanced move =>
    have sound := earlier.sound.charts
    cases move with
    | @look charts position cursor row inside next =>
      intro completed index working waiting passed
      obtain ⟨rfl, rfl, _⟩ := eq_of_workFor_completing working
      exact absurd passed List.not_mem_nil
    | leave inside walked => exact fun _ _ impossible => nomatch impossible
    | rest => exact fun _ _ impossible => nomatch impossible
    | enter entry => exact fun _ _ impossible => nomatch impossible
    | pass next other =>
      intro completed index working waiting passed expects
      obtain ⟨rfl, rfl⟩ := Work.completing.inj working
      rw [List.take_add_one, next, List.mem_append] at passed
      rcases passed with earlierRow | last
      · exact advanced _ _ rfl waiting earlierRow expects
      · obtain rfl := List.mem_singleton.1 last
        have waits := awaits_of_mem sound (List.mem_of_getElem? next) expects
        rw [waits] at other
        exact nomatch other
    | @advance charts entered position cursor index completed other stopped next waits entry =>
      intro same count working waiting passed expects
      obtain ⟨rfl, rfl⟩ := Work.completing.inj working
      obtain ⟨more, same⟩ := entry.rowsAt_prefix completed.start
      have inside := (List.getElem?_eq_some_iff.1 next).1
      rw [← same, List.take_append_of_le_length inside, List.take_add_one, next,
        List.mem_append] at passed
      rcases passed with earlierRow | last
      · exact entry.has (advanced _ _ rfl waiting earlierRow expects)
      · obtain rfl := List.mem_singleton.1 last
        exact entry.has_offered
    | swept walked => exact fun _ _ impossible => nomatch impossible

theorem Moment.due_of_sweep {construction : Construction}
    (moment : Moment grammar sentence construction) {completed waiting : Row} {index : Nat}
    (working : construction.work = .completing completed index)
    (member : waiting ∈ construction.charts.rowsAt completed.start)
    (expects : waiting.next? = some completed.rule.head) :
    Due construction (waiting.toItem.advance completed.stop) := by
  rw [← List.take_append_drop index (construction.charts.rowsAt completed.start),
    List.mem_append] at member
  rcases member with passed | ahead
  · exact .inl (moment.has_of_swept completed index working waiting passed expects)
  · right
    rw [working]
    exact ⟨waiting, ahead, expects, rfl⟩

/-- Every row with parents was made in a sweep for its newest parent, from an item that a row had
then. -/
theorem Moment.exists_sweep {construction : Construction}
    (moment : Moment grammar sentence construction) :
    ∀ row ∈ construction.charts.rows.toList, ∀ child older, row.parents = child :: older →
      ∃ completed ∈ construction.charts.rows.toList, completed.id = child ∧
        ∃ sweep index waiting, Moment grammar sentence sweep ∧
          sweep.work = .completing completed index ∧ waiting ∈ sweep.charts.rowsAt completed.start ∧
          row.toItem = waiting.toItem.advance completed.stop := by
  induction construction, moment using Moment.induction with
  | first =>
    intro row member child older parents
    have only : (seeded sentence).rows.toList = [Row.first.numbered 0] :=
      (grown_seeded sentence).rows_eq
    simp only [initial, only, List.mem_singleton] at member
    subst member
    contradiction
  | kept before after earlier _ recorded move =>
    have fits := earlier.sound.work
    cases move with
    | look inside next => exact recorded
    | leave inside walked => exact recorded
    | rest => exact recorded
    | enter entry =>
      obtain ⟨_, _, fresh, _⟩ := fits _ List.mem_cons_self
      intro row member child older parents
      rcases entry.mem_rows member with old | rfl
      · obtain ⟨completed, stored, found⟩ := recorded row old child older parents
        exact ⟨completed, entry.rows_subset stored, found⟩
      · rw [Row.numbered_parents, fresh] at parents
        contradiction
    | pass next other => exact recorded
    | @advance charts entered position cursor index completed waiting stopped next waits entry =>
      intro row member child older parents
      rcases entry.mem_rows member with old | rfl
      · obtain ⟨completed, stored, found⟩ := recorded row old child older parents
        exact ⟨completed, entry.rows_subset stored, found⟩
      · have stored := Charts.mem_rows_of_mem_rowsAt fits.1
        refine ⟨completed, entry.rows_subset stored, (List.cons.inj parents).1, _, index, waiting,
          earlier, rfl, List.mem_of_getElem? next, rfl⟩
    | swept walked => exact recorded

/-! ## The end -/

section Finished

variable {charts : Charts}

theorem covers_of_expects {row : Row} {symbol : Symbol} (expects : row.next? = some symbol) :
    row.next? = none → row.start < row.stop := by
  intro complete
  rw [complete] at expects
  contradiction

theorem seen_of_walked (sound : charts.Sound grammar sentence.words) {position cursor : Nat}
    {stopped : Bool} (walked : charts.length ≤ position) {row : Row}
    (member : row ∈ charts.rows.toList) : Seen ⟨charts, position, cursor, .idle, stopped⟩ row := by
  have within := (sound.span row member).2
  rw [sound.length_eq] at walked
  exact .inl ⟨Nat.lt_of_lt_of_le (Nat.lt_succ_of_le within) walked,
    sound.mem_rowsAt.2 ⟨member, rfl⟩⟩

theorem Finished.has_of_pending (finished : Finished grammar sentence charts) {row : Row}
    (member : row ∈ charts.rows.toList) (covers : row.next? = none → row.start < row.stop)
    {item : Item} (pending : Pending charts item (workFor grammar sentence row)) :
    charts.Has item := by
  have sound := finished.sound
  obtain ⟨position, cursor, stopped, walked, moment⟩ := finished
  have seen : Seen ⟨charts, position, cursor, .idle, stopped⟩ row := seen_of_walked sound walked member
  rcases moment.due_of_seen row seen covers item pending with has | impossible
  · exact has
  · exact impossible.elim

theorem step_of_walked {position cursor : Nat} {stopped : Bool}
    (walked : charts.length ≤ position) :
    step grammar sentence ⟨charts, position, cursor, .idle, stopped⟩ = .finished charts := by
  simp only [step, look, Charts.size?_eq_none walked]

/-- What is due at some moment is in the charts at the end. -/
theorem Finished.has_of_due (finished : Finished grammar sentence charts)
    {construction : Construction} (moment : Moment grammar sentence construction) {item : Item}
    (due : Due construction item) : charts.Has item := by
  obtain ⟨position, cursor, stopped, walked, last⟩ := finished
  have later := moment.later_last last (by simp [step_of_walked walked])
  rcases due.later moment later with has | impossible
  · exact has
  · exact impossible.elim

theorem Finished.has_of_inTime (finished : Finished grammar sentence charts) {item : Item}
    {symbol : Symbol} (inTime : InTime grammar sentence item symbol)
    (expects : item.next? = some symbol) : charts.Has (item.advance item.stop) := by
  obtain ⟨sweep, completed, index, moment, working, rfl, starts, stops, waiting, member, rfl⟩ :=
    inTime
  have here : waiting ∈ sweep.charts.rowsAt completed.start :=
    moment.sound.charts.mem_rowsAt.2 ⟨member, starts.symm⟩
  have due := moment.due_of_sweep working here expects
  rw [stops] at due
  exact finished.has_of_due moment due

/-- Finished charts are saturated, up to items that are late for a constituent without words. -/
theorem Finished.saturated (finished : Finished grammar sentence charts) :
    Saturated grammar sentence.words (InTime grammar sentence) charts.Has where
  seed := ⟨Row.first, finished.sound.seeded, rfl⟩
  predict := by
    rintro _ symbol production ⟨row, member, rfl⟩ expects isPhrase listed
    refine finished.has_of_pending member (covers_of_expects expects) ?_
    simp only [workFor, expects, isPhrase, if_true]
    exact ⟨_, mem_predictions.2 ⟨production, listed, rfl⟩, rfl⟩
  word := by
    rintro _ symbol text ⟨row, member, rfl⟩ expects isTerminal stands fits
    have notPhrase : symbol.isPhrase = false := by simpa [Symbol.isTerminal] using isTerminal
    have accepted := Charts.accepts_eq_true_iff.2 fits
    refine finished.has_of_pending member (covers_of_expects expects) ?_
    simp only [workFor, expects, notPhrase]
    exact ⟨_, List.mem_append_left _ (mem_wordMatches.2 ⟨text, stands, accepted, rfl⟩), rfl⟩
  nothing := by
    rintro _ ⟨row, member, rfl⟩ expects
    have notPhrase : Symbol.empty.isPhrase = false := by decide
    refine finished.has_of_pending member (covers_of_expects expects) ?_
    simp only [workFor, expects, notPhrase]
    exact ⟨_, List.mem_append_right _ (mem_emptyMatches.2 ⟨rfl, rfl⟩), rfl⟩
  advance := by
    rintro _ _ ⟨waiting, isKnown, rfl⟩ ⟨completed, isAlsoKnown, rfl⟩ complete notSeed meets expects
      inTime
    rcases Nat.lt_or_eq_of_le (finished.sound.span completed isAlsoKnown).1 with covers | noWords
    · refine finished.has_of_pending isAlsoKnown (fun _ => covers) ?_
      simp only [workFor, complete, notSeed]
      exact ⟨waiting, finished.sound.mem_rowsAt.2 ⟨isKnown, meets⟩, expects, rfl⟩
    · have has := finished.has_of_inTime (inTime noWords) expects
      rwa [meets, noWords] at has

theorem Finished.meetOnEmpty (finished : Finished grammar sentence charts) :
    charts.MeetOnEmpty (InTime grammar sentence) := by
  intro waiting completed id _ isAlsoKnown meets noWords made
  have sound := finished.sound
  obtain ⟨_, _, _, _, moment⟩ := finished
  obtain ⟨other, stored, sameId, sweep, index, earlier, before, working, member, same⟩ :=
    moment.exists_sweep _ made completed.id waiting.parents rfl
  obtain rfl := sound.coherent.eq_of_id_eq stored isAlsoKnown sameId
  obtain ⟨known, stops⟩ := before.sound.charts.mem_rowsAt.1 member
  have alike : waiting.toItem = earlier.toItem :=
    Item.eq_of_advance_eq same (meets.trans stops.symm)
  exact ⟨sweep, other, index, before, working, rfl, meets.symm, noWords.symm.trans meets.symm,
    earlier, known, alike.symm⟩

end Finished

end ChartParsing.Construction
