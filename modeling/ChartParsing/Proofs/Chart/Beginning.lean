import ChartParsing.Proofs.Chart.Stopping

/-!
Contract: charts of sentences that begin alike.

Owns the comparison of a construction with the one of the first words of its sentence. Up to the chart
behind these words both go through the same rows, since rows are only called for by rows of this chart
and earlier ones. The longer construction enters rows into later charts besides, which takes numbers
away; so the rows agree in everything but their numbers and those of their parents. Sentences that
begin with the same words are both compared with these words.
-/

set_option autoImplicit false

namespace ChartParsing

/-- The first words of a sentence, none of which raises the stop flag. -/
def Sentence.beginning (sentence : Sentence) (last : Nat) : Sentence where
  words := sentence.words.take last

/-- A row but for numbers: its item, and the operation that made it. -/
def Row.content (row : Row) : Item × Origin :=
  (row.toItem, row.origin)

theorem Row.content_eq_iff {row other : Row} :
    row.content = other.content ↔ row.toItem = other.toItem ∧ row.origin = other.origin :=
  Prod.mk_inj

namespace Charts

def contentsAt (charts : Charts) (position : Nat) : List (Item × Origin) :=
  (charts.rowsAt position).map Row.content

/-- The contents of a chart after a row has been offered to it. -/
def offered (contents : List (Item × Origin)) (content : Item × Origin) : List (Item × Origin) :=
  if content.1 ∈ contents.map Prod.fst then contents else contents ++ [content]

variable {charts : Charts}

theorem Entered.contentsAt_eq {position : Nat} {row : Row} {entered : Charts}
    (entry : charts.Entered position row entered) (other : Nat) :
    entered.contentsAt other =
      if other = position then offered (charts.contentsAt other) row.content
      else charts.contentsAt other := by
  have known_iff : row.content.1 ∈ (charts.contentsAt position).map Prod.fst ↔
      ∃ known ∈ charts.rowsAt position, known.toItem = row.toItem := by
    rw [contentsAt, List.map_map]
    exact List.mem_map
  by_cases here : other = position
  · subst here
    rw [if_pos rfl, offered]
    cases entry with
    | known present => rw [if_pos (known_iff.2 present)]
    | added new growth =>
      have absent : ¬ ∃ known ∈ charts.rowsAt other, known.toItem = row.toItem :=
        fun ⟨stored, member, same⟩ => new stored member same
      rw [if_neg (mt known_iff.1 absent), contentsAt, growth.rowsAt_eq, if_pos rfl, List.map_append]
      rfl
  · rw [if_neg here, contentsAt, entry.rowsAt_of_ne here]
    rfl

end Charts

namespace Construction

variable {grammar : Grammar} {sentence : Sentence}

/-! ## Steps -/

section Steps

variable {charts : Charts} {position cursor index : Nat} {row completed waiting : Row}
  {stopped : Bool}

theorem next_look (coherent : charts.Coherent) (inside : position < charts.length)
    (next : (charts.rowsAt position)[cursor]? = some row) :
    Next grammar sentence ⟨charts, position, cursor, .idle, false⟩
      ⟨charts, position, cursor + 1, workFor grammar sentence row, raisesStop sentence row⟩ := by
  obtain ⟨more, rfl⟩ := List.getElem?_eq_some_iff.1 next
  simp [Next, step, look, coherent.size?_eq inside, coherent.rowAt?_eq, workFor?_eq, more]

theorem next_leave (coherent : charts.Coherent) (inside : position < charts.length)
    (walked : (charts.rowsAt position).length ≤ cursor) :
    Next grammar sentence ⟨charts, position, cursor, .idle, false⟩
      ⟨charts, position + 1, 0, .idle, false⟩ := by
  simp [Next, step, look, coherent.size?_eq inside, Nat.not_lt.2 walked]

theorem next_enter {entered : Charts} (others : List (Nat × Row))
    (answer : charts.enter? row.stop row = some entered) :
    Next grammar sentence ⟨charts, position, cursor, .entering ((row.stop, row) :: others), stopped⟩
      ⟨entered, position, cursor, .entering others, stopped⟩ := by
  simp [Next, step, enter, answer]

theorem next_pass (coherent : charts.Coherent) (inside : completed.start < charts.length)
    (next : (charts.rowsAt completed.start)[index]? = some waiting)
    (other : awaits waiting completed.start completed.rule.head = false) :
    Next grammar sentence ⟨charts, position, cursor, .completing completed index, stopped⟩
      ⟨charts, position, cursor, .completing completed (index + 1), stopped⟩ := by
  obtain ⟨more, rfl⟩ := List.getElem?_eq_some_iff.1 next
  simp [Next, step, complete, coherent.size?_eq inside, coherent.rowAt?_eq, more, other]

theorem next_advance {entered : Charts} (coherent : charts.Coherent)
    (inside : completed.start < charts.length)
    (next : (charts.rowsAt completed.start)[index]? = some waiting)
    (waits : awaits waiting completed.start completed.rule.head = true)
    (answer : charts.enter? completed.stop (waiting.advance completed.stop completed.id) =
      some entered) :
    Next grammar sentence ⟨charts, position, cursor, .completing completed index, stopped⟩
      ⟨entered, position, cursor, .completing completed (index + 1), stopped⟩ := by
  obtain ⟨more, rfl⟩ := List.getElem?_eq_some_iff.1 next
  simp [Next, step, complete, coherent.size?_eq inside, coherent.rowAt?_eq, more, waits, answer]

theorem next_swept (coherent : charts.Coherent) (inside : completed.start < charts.length)
    (walked : (charts.rowsAt completed.start).length ≤ index) :
    Next grammar sentence ⟨charts, position, cursor, .completing completed index, stopped⟩
      ⟨charts, position, cursor, .idle, stopped⟩ := by
  simp [Next, step, complete, coherent.size?_eq inside, Nat.not_lt.2 walked]

end Steps

/-! ## Work -/

/-- Work that is the same but for numbers, and for rows that are entered after a position. -/
inductive Reduces (last : Nat) : Work → Work → Prop where
  | idle : Reduces last .idle .idle
  | entering {entries kept : List (Nat × Row)}
      (same : entries.filter (fun entry => entry.1 ≤ last) = kept) :
      Reduces last (.entering entries) (.entering kept)
  | completing {row other : Row} (same : row.toItem = other.toItem) (index : Nat) :
      Reduces last (.completing row index) (.completing other index)

/-- The word behind the first words is not matched by them. -/
theorem filter_wordMatches (last position : Nat) (symbol : Symbol) :
    (wordMatches grammar sentence position symbol).filter (fun entry => entry.1 ≤ last) =
      wordMatches grammar (sentence.beginning last) position symbol := by
  unfold wordMatches Sentence.beginning
  rw [List.getElem?_take]
  by_cases before : position < last
  · rw [if_pos before]
    refine List.filter_eq_self.2 fun entry listed => ?_
    obtain ⟨text, _, _, rfl⟩ := mem_wordMatches.1 listed
    exact decide_eq_true before
  · rw [if_neg before]
    refine List.filter_eq_nil_iff.2 fun entry listed => ?_
    obtain ⟨text, _, _, rfl⟩ := mem_wordMatches.1 listed
    simpa using before

theorem filter_emptyMatches {last position : Nat} (inside : position ≤ last) (symbol : Symbol) :
    (emptyMatches position symbol).filter (fun entry => entry.1 ≤ last) =
      emptyMatches position symbol := by
  refine List.filter_eq_self.2 fun entry listed => ?_
  obtain ⟨_, rfl⟩ := mem_emptyMatches.1 listed
  exact decide_eq_true inside

theorem filter_predictions {last position : Nat} (inside : position ≤ last) (symbol : Symbol) :
    (predictions grammar position symbol).filter (fun entry => entry.1 ≤ last) =
      predictions grammar position symbol := by
  refine List.filter_eq_self.2 fun entry listed => ?_
  obtain ⟨production, _, rfl⟩ := mem_predictions.1 listed
  exact decide_eq_true inside

theorem workFor_reduces {last : Nat} {row other : Row} (same : row.toItem = other.toItem)
    (inside : row.stop ≤ last) :
    Reduces last (workFor grammar sentence row)
      (workFor grammar (sentence.beginning last) other) := by
  unfold workFor
  rw [← same]
  cases row.next? with
  | none =>
    cases row.rule.isSeed with
    | true => exact .idle
    | false => exact .completing same 0
  | some symbol =>
    dsimp only
    cases symbol.isPhrase with
    | true => exact .entering (filter_predictions inside symbol)
    | false =>
      refine .entering ?_
      rw [List.filter_append, filter_wordMatches, filter_emptyMatches inside]

/-! ## Side by side -/

/-- Charts of the same contents up to a position. -/
def SameUpTo (last : Nat) (charts others : Charts) : Prop :=
  ∀ position ≤ last, charts.contentsAt position = others.contentsAt position

section SameUpTo

variable {last position : Nat} {charts others : Charts} (same : SameUpTo last charts others)

include same

theorem SameUpTo.length_eq (inside : position ≤ last) :
    (charts.rowsAt position).length = (others.rowsAt position).length := by
  have lengths := congrArg List.length (same position inside)
  rwa [Charts.contentsAt, Charts.contentsAt, List.length_map, List.length_map] at lengths

theorem SameUpTo.exists_row (inside : position ≤ last) {index : Nat} {row : Row}
    (found : (charts.rowsAt position)[index]? = some row) :
    ∃ other, (others.rowsAt position)[index]? = some other ∧ row.content = other.content := by
  have entry := congrArg (fun contents => contents[index]?) (same position inside)
  simp only [Charts.contentsAt, List.getElem?_map, found, Option.map_some] at entry
  obtain ⟨other, alsoFound, alike⟩ := Option.map_eq_some_iff.1 entry.symm
  exact ⟨other, alsoFound, alike.symm⟩

theorem SameUpTo.entered {row other : Row} {entered alsoEntered : Charts}
    (entry : charts.Entered position row entered)
    (alsoEntry : others.Entered position other alsoEntered) (alike : row.content = other.content) :
    SameUpTo last entered alsoEntered := by
  intro place inside
  rw [entry.contentsAt_eq, alsoEntry.contentsAt_eq, same place inside, alike]

theorem SameUpTo.entered_after {row : Row} {entered : Charts}
    (entry : charts.Entered position row entered) (after : last < position) :
    SameUpTo last entered others := by
  intro place inside
  rw [entry.contentsAt_eq, if_neg (Nat.ne_of_lt (Nat.lt_of_le_of_lt inside after)),
    same place inside]

end SameUpTo

/-- A construction while it walks the charts up to a position, and that of the words before this
position. -/
inductive Follows (last : Nat) : Construction → Construction → Prop where
  | mk {charts others : Charts} {work kept : Work} (same : SameUpTo last charts others)
      (reduces : Reduces last work kept) (position cursor : Nat) (stopped : Bool) :
      Follows last ⟨charts, position, cursor, work, stopped⟩ ⟨others, position, cursor, kept, false⟩

section Follows

variable {last : Nat} {charts others : Charts}

theorem raisesStop_beginning (last : Nat) (row : Row) :
    raisesStop (sentence.beginning last) row = false := by
  have calm : raisesStop (sentence.beginning last).undisturbed row = false :=
    raisesStop_undisturbed row
  exact calm

theorem lt_length_iff (within : last ≤ sentence.words.length)
    (sound : charts.Sound grammar (sentence.beginning last).words) {position : Nat} :
    position < charts.length ↔ position ≤ last := by
  rw [sound.length_eq, Sentence.beginning, List.length_take_of_le within, Nat.lt_succ_iff]

/-- What the part does while the whole makes a move: it makes the same move, or none. -/
def Catches (grammar : Grammar) (sentence : Sentence) (last : Nat) (following part : Construction) :
    Prop :=
  ∃ reached, Later grammar (sentence.beginning last) part reached ∧ Follows last following reached

section Moves

variable {position cursor : Nat} {stopped : Bool} (same : SameUpTo last charts others)
  (within : last ≤ sentence.words.length)
  (sound : others.Sound grammar (sentence.beginning last).words)

include same within sound

theorem catches_look {row : Row} (inside : position ≤ last) (stops : row.stop = position)
    (next : (charts.rowsAt position)[cursor]? = some row) :
    Catches grammar sentence last
      ⟨charts, position, cursor + 1, workFor grammar sentence row, stopped⟩
      ⟨others, position, cursor, .idle, false⟩ := by
  obtain ⟨other, alsoNext, alike⟩ := same.exists_row inside next
  have alsoInside := (lt_length_iff within sound).2 inside
  have taken : Next grammar (sentence.beginning last) ⟨others, position, cursor, .idle, false⟩ _ :=
    next_look sound.coherent alsoInside alsoNext
  rw [raisesStop_beginning] at taken
  refine ⟨_, .single taken, .mk same ?_ _ _ _⟩
  exact workFor_reduces (Row.content_eq_iff.1 alike).1 (stops ▸ inside)

theorem catches_leave (inside : position ≤ last)
    (walked : (charts.rowsAt position).length ≤ cursor) :
    Catches grammar sentence last ⟨charts, position + 1, 0, .idle, stopped⟩
      ⟨others, position, cursor, .idle, false⟩ := by
  have alsoInside := (lt_length_iff within sound).2 inside
  rw [same.length_eq inside] at walked
  exact ⟨_, .single (next_leave sound.coherent alsoInside walked), .mk same .idle _ _ _⟩

theorem catches_enter {row : Row} {entered : Charts} {entries kept : List (Nat × Row)}
    (kept_eq : ((row.stop, row) :: entries).filter (fun entry => entry.1 ≤ last) = kept)
    (entry : charts.Entered row.stop row entered) :
    Catches grammar sentence last ⟨entered, position, cursor, .entering entries, stopped⟩
      ⟨others, position, cursor, .entering kept, false⟩ := by
  subst kept_eq
  by_cases before : row.stop ≤ last
  · have alsoInside := (lt_length_iff within sound).2 before
    rw [List.filter_cons_of_pos (by simpa using before)]
    obtain ⟨alsoEntered, answer, alsoEntry⟩ := sound.coherent.exists_entered alsoInside row
    exact ⟨_, .single (next_enter _ answer), .mk (same.entered entry alsoEntry rfl)
      (.entering rfl) _ _ _⟩
  · rw [List.filter_cons_of_neg (by simpa using before)]
    exact ⟨_, .refl, .mk (same.entered_after entry (Nat.not_le.1 before)) (.entering rfl) _ _ _⟩

section Sweep

variable {completed other : Row} {index : Nat} (alike : completed.toItem = other.toItem)
  (starts : completed.start ≤ last)

include alike starts

theorem catches_pass {waiting : Row}
    (next : (charts.rowsAt completed.start)[index]? = some waiting)
    (passed : awaits waiting completed.start completed.rule.head = false) :
    Catches grammar sentence last
      ⟨charts, position, cursor, .completing completed (index + 1), stopped⟩
      ⟨others, position, cursor, .completing other index, false⟩ := by
  obtain ⟨alsoWaiting, alsoNext, waitsAlike⟩ := same.exists_row starts next
  have alsoInside := (lt_length_iff within sound).2 starts
  rw [awaits, (Row.content_eq_iff.1 waitsAlike).1, ← awaits] at passed
  rw [alike] at alsoNext alsoInside passed
  exact ⟨_, .single (next_pass sound.coherent alsoInside alsoNext passed),
    .mk same (.completing alike _) _ _ _⟩

theorem catches_advance {waiting : Row} {entered : Charts} (stops : completed.stop ≤ last)
    (next : (charts.rowsAt completed.start)[index]? = some waiting)
    (waits : awaits waiting completed.start completed.rule.head = true)
    (entry : charts.Entered completed.stop (waiting.advance completed.stop completed.id) entered) :
    Catches grammar sentence last
      ⟨entered, position, cursor, .completing completed (index + 1), stopped⟩
      ⟨others, position, cursor, .completing other index, false⟩ := by
  obtain ⟨alsoWaiting, alsoNext, waitsAlike⟩ := same.exists_row starts next
  have waitsItem := (Row.content_eq_iff.1 waitsAlike).1
  have startInside := (lt_length_iff within sound).2 starts
  have stopInside := (lt_length_iff within sound).2 stops
  rw [awaits, waitsItem, ← awaits] at waits
  rw [alike] at alsoNext startInside stopInside waits entry
  obtain ⟨alsoEntered, answer, alsoEntry⟩ := sound.coherent.exists_entered stopInside
    (alsoWaiting.advance other.stop other.id)
  refine ⟨_, .single (next_advance sound.coherent startInside alsoNext waits answer),
    .mk (same.entered entry alsoEntry ?_) (.completing alike _) _ _ _⟩
  exact Row.content_eq_iff.2 ⟨by rw [Row.toItem_advance, Row.toItem_advance, waitsItem], rfl⟩

theorem catches_swept (walked : (charts.rowsAt completed.start).length ≤ index) :
    Catches grammar sentence last ⟨charts, position, cursor, .idle, stopped⟩
      ⟨others, position, cursor, .completing other index, false⟩ := by
  have alsoInside := (lt_length_iff within sound).2 starts
  rw [same.length_eq starts] at walked
  rw [alike] at walked alsoInside
  exact ⟨_, .single (next_swept sound.coherent alsoInside walked), .mk same .idle _ _ _⟩

end Sweep

end Moves

/-- The part catches every move that the whole makes while it walks the charts up to the position. -/
theorem Follows.catches {whole part following : Construction} (follows : Follows last whole part)
    (within : last ≤ sentence.words.length) (sound : whole.Sound grammar sentence.words)
    (partSound : part.Sound grammar (sentence.beginning last).words)
    (inside : whole.position ≤ last) (move : Moves grammar sentence whole (.running following)) :
    Catches grammar sentence last following part := by
  obtain ⟨same, reduces, position, cursor, stopped⟩ := follows
  obtain ⟨sound, fits⟩ := sound
  have others := partSound.charts
  cases reduces with
  | idle =>
    cases move with
    | look _ next =>
      have stops := (sound.mem_rowsAt.1 (List.mem_of_getElem? next)).2
      exact catches_look same within others inside stops next
    | leave _ walked => exact catches_leave same within others inside walked
  | entering kept =>
    cases move with
    | rest =>
      obtain rfl := kept
      exact ⟨_, .single rfl, .mk same .idle _ _ _⟩
    | enter entry => exact catches_enter same within others kept entry
  | completing alike index =>
    obtain ⟨member, stops⟩ := sound.mem_rowsAt.1 fits.1
    have spans := (sound.span _ member).1
    have stopsInside := Nat.le_trans (Nat.le_of_eq stops) inside
    have startsInside := Nat.le_trans spans stopsInside
    cases move with
    | pass next passed => exact catches_pass same within others alike startsInside next passed
    | advance next waits entry =>
      exact catches_advance same within others alike startsInside stopsInside next waits entry
    | swept walked => exact catches_swept same within others alike startsInside walked

end Follows

/-! ## Runs -/

/-- A moment of the whole against one of the part, which stops behind the last of its charts. -/
inductive Beside (last : Nat) : Construction → Construction → Prop where
  | walking {whole part : Construction} (inside : whole.position ≤ last)
      (follows : Follows last whole part) : Beside last whole part
  | past {whole part : Construction} (left : last < whole.position)
      (same : SameUpTo last whole.charts part.charts) (ended : last < part.position)
      (idle : part.work = .idle) : Beside last whole part

section Runs

variable {last : Nat}

theorem sameUpTo_seeded (last : Nat) :
    SameUpTo last (seeded sentence) (seeded (sentence.beginning last)) := by
  intro position _
  rw [Charts.contentsAt, Charts.contentsAt, (grown_seeded sentence).rowsAt_eq,
    (grown_seeded (sentence.beginning last)).rowsAt_eq, Charts.blank_rowsAt, Charts.blank_rowsAt]
  rfl

/-- A move leads to the next chart at most, and only from one that is walked. -/
theorem Moves.position_le {before after : Construction}
    (move : Moves grammar sentence before (.running after)) :
    before.position ≤ after.position ∧ (before.position < after.position → after.work = .idle) := by
  cases move with
  | leave => exact ⟨Nat.le_succ _, fun _ => rfl⟩
  | _ => exact ⟨Nat.le_refl _, fun impossible => absurd impossible (Nat.lt_irrefl _)⟩

theorem Beside.next {whole part following : Construction} (beside : Beside last whole part)
    (within : last ≤ sentence.words.length) (moment : Moment grammar sentence whole)
    (partMoment : Moment grammar (sentence.beginning last) part)
    (move : Moves grammar sentence whole (.running following)) :
    ∃ reached, Moment grammar (sentence.beginning last) reached ∧ Beside last following reached := by
  obtain ⟨onward, rests⟩ := move.position_le
  cases beside with
  | walking inside follows =>
    obtain ⟨reached, later, follows⟩ :=
      follows.catches within moment.sound partMoment.sound inside move
    refine ⟨reached, partMoment.later later, ?_⟩
    by_cases still : following.position ≤ last
    · exact .walking still follows
    · have left := Nat.not_le.1 still
      have idle := rests (Nat.lt_of_le_of_lt inside left)
      obtain ⟨same, reduces, position, cursor, stopped⟩ := follows
      obtain rfl := idle
      cases reduces
      exact .past left same left rfl
  | past left same ended idle =>
    refine ⟨part, partMoment, .past (Nat.lt_of_lt_of_le left onward) ?_ ended idle⟩
    intro position inside
    rw [← same position inside, Charts.contentsAt, Charts.contentsAt,
      move.rowsAt_eq (Nat.lt_of_le_of_lt inside left)]

theorem Moment.exists_beside (within : last ≤ sentence.words.length) {whole : Construction}
    (moment : Moment grammar sentence whole) :
    ∃ part, Moment grammar (sentence.beginning last) part ∧ Beside last whole part := by
  induction whole, moment using Moment.induction with
  | first => exact ⟨_, .refl, .walking (Nat.zero_le _) (.mk (sameUpTo_seeded last) .idle 0 0 false)⟩
  | kept before after earlier _ beside move =>
    obtain ⟨part, partMoment, beside⟩ := beside
    exact beside.next within earlier partMoment move

/-- The charts up to a position are those of the words before it. -/
theorem Finished.exists_beginning {charts : Charts} (finished : Finished grammar sentence charts)
    (within : last ≤ sentence.words.length) :
    ∃ others, construct grammar (sentence.beginning last) = .finished others ∧
      SameUpTo last charts others := by
  have sound := finished.sound
  obtain ⟨position, cursor, stopped, walked, moment⟩ := finished
  rw [sound.length_eq] at walked
  obtain ⟨part, partMoment, beside⟩ := moment.exists_beside within
  cases beside with
  | walking inside =>
    have before : position ≤ last := inside
    omega
  | past _ same ended idle =>
    obtain ⟨others, partPosition, partCursor, work, partStopped⟩ := part
    obtain rfl : work = .idle := idle
    have partWalked : others.length ≤ partPosition :=
      Nat.not_lt.1 (mt (lt_length_iff within partMoment.sound.charts).1 (Nat.not_le.2 ended))
    have taken : step grammar (sentence.beginning last)
        ⟨others, partPosition, partCursor, .idle, partStopped⟩ = .finished others :=
      step_of_walked partWalked
    refine ⟨others, ?_, same⟩
    rw [construct_eq_of_ended partMoment (by simp [taken]), taken]

end Runs

/-- The chart of a position depends on the words before it only. The finished charts of two sentences
that begin with the same words have the same rows up to the position behind these words, numbers
apart, in the same order, whether or not a sentence ends there. -/
theorem contents_eq_of_same_beginning (grammar : Grammar) {sentence other : Sentence} {last : Nat}
    (within : last ≤ sentence.words.length) (alsoWithin : last ≤ other.words.length)
    (same : sentence.words.take last = other.words.take last) {charts others : Charts}
    (finished : construct grammar sentence = .finished charts)
    (alsoFinished : construct grammar other = .finished others) :
    ∀ position ≤ last, ∃ rows otherRows, charts.rowsOf? position = some rows ∧
      others.rowsOf? position = some otherRows ∧
      rows.map Row.content = otherRows.map Row.content := by
  intro position inside
  have whole := finished_of_construct finished
  have alsoWhole := finished_of_construct alsoFinished
  obtain ⟨first, constructed, begins⟩ := whole.exists_beginning within
  obtain ⟨second, alsoConstructed, alsoBegins⟩ := alsoWhole.exists_beginning alsoWithin
  have sameBeginning : sentence.beginning last = other.beginning last :=
    congrArg (fun words => ({ words } : Sentence)) same
  obtain rfl : first = second := by
    rw [sameBeginning, alsoConstructed] at constructed
    exact (Progress.finished.inj constructed).symm
  have present : position < charts.length := by
    rw [whole.sound.length_eq]
    omega
  have alsoPresent : position < others.length := by
    rw [alsoWhole.sound.length_eq]
    omega
  exact ⟨_, _, whole.sound.coherent.rowsOf?_eq present,
    alsoWhole.sound.coherent.rowsOf?_eq alsoPresent,
    (begins position inside).trans (alsoBegins position inside).symm⟩

/-- A grammar in which a second word may be missing. -/
def optionalSecond : Grammar :=
  let option : Symbol := ⟨Symbol.phraseBase + 1⟩
  ((Grammar.empty.addProduction ⟨.root, [.unknown, option], 0, ""⟩).addProduction
    ⟨.root, [.unknown, .unknown], 0, ""⟩).addProduction ⟨option, [.empty], 0, ""⟩

/-- The first of these sentences ends where the second goes on. -/
theorem contents_of_optionalSecond :
    ∃ charts others, construct optionalSecond ⟨["x"], fun _ => false⟩ = .finished charts ∧
      construct optionalSecond ⟨["x", "y"], fun _ => false⟩ = .finished others ∧
      1 ≤ ["x"].length ∧ 1 ≤ ["x", "y"].length ∧ ["x"].take 1 = ["x", "y"].take 1 ∧
      ∀ position ≤ 1, ∃ rows otherRows, charts.rowsOf? position = some rows ∧
        others.rowsOf? position = some otherRows ∧
        rows.map Row.content = otherRows.map Row.content := by
  obtain ⟨charts, finished⟩ := exists_undisturbed optionalSecond ⟨["x"], fun _ => false⟩
  obtain ⟨others, alsoFinished⟩ := exists_undisturbed optionalSecond ⟨["x", "y"], fun _ => false⟩
  have within : 1 ≤ ["x"].length := by decide
  have alsoWithin : 1 ≤ ["x", "y"].length := by decide
  have same : ["x"].take 1 = ["x", "y"].take 1 := by decide
  exact ⟨charts, others, finished, alsoFinished, within, alsoWithin, same,
    contents_eq_of_same_beginning optionalSecond within alsoWithin same finished alsoFinished⟩

end Construction

end ChartParsing
