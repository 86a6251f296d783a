import ChartParsing.Proofs.Analysis
import ChartParsing.Proofs.Chart.Stopping

/-!
Contract: parsers that are stopped and used again.

Owns the calls that a parser answers one after the other, and what a parse with a word that raises the
stop flag comes to after any of them. Nothing of the earlier calls is left but the time of a parse that
ran to its end: the parse is cancelled if its charts ask for the word, and answers like a parser that
has never been used otherwise.
-/

set_option autoImplicit false

namespace ChartParsing

/-- A row in the chart of a position expects a terminal, so the word at the position is asked for. -/
def Charts.AsksForWord (charts : Charts) (position : Nat) : Prop :=
  ∃ rows, charts.rowsOf? position = some rows ∧
    ∃ row ∈ rows, ∃ symbol, row.next? = some symbol ∧ symbol.isTerminal = true

theorem Charts.Sound.exists_raising_iff {grammar : Grammar} {charts : Charts} {sentence : Sentence}
    (sound : charts.Sound grammar sentence.words) :
    (∃ row ∈ charts.rows.toList, Construction.raisesStop sentence row = true) ↔
      ∃ position, sentence.raisesStop position = true ∧ charts.AsksForWord position := by
  simp only [Construction.raisesStop_eq_true_iff]
  constructor
  · rintro ⟨row, member, expects, raises⟩
    have inside : row.stop < charts.length := by
      rw [sound.length_eq]
      exact Nat.lt_succ_of_le (sound.span row member).2
    exact ⟨row.stop, raises, _, sound.coherent.rowsOf?_eq inside, row,
      sound.mem_rowsAt.2 ⟨member, rfl⟩, expects⟩
  · rintro ⟨position, raises, rows, found, row, member, expects⟩
    have inside : position < charts.length := by
      simp only [Sentence.raisesStop, Bool.and_eq_true, decide_eq_true_eq] at raises
      rw [sound.length_eq]
      exact Nat.lt_succ_of_lt raises.1
    obtain rfl : charts.rowsAt position = rows :=
      Option.some.inj ((sound.coherent.rowsOf?_eq inside).symm.trans found)
    obtain ⟨stored, rfl⟩ := sound.mem_rowsAt.1 member
    exact ⟨row, stored, expects, raises⟩

namespace Session

open Construction

/-! ## Calls -/

/-- What a parser is called for. It shares its stop flag with all handles for cancelling, so that it
makes no difference by which of them it is stopped. -/
inductive Call where
  | stop
  | parse (threshold : Threshold) (sentence : Sentence)

def respond (session : Session) : Call → Session
  | .stop => session.stop
  | .parse threshold sentence => (session.parse threshold sentence).session

/-- The session after a history of calls. -/
def after (session : Session) (history : List Call) : Session :=
  history.foldl respond session

/-- The call is for a parse, which runs to its end. -/
def Completes (session : Session) : Call → Prop
  | .stop => False
  | .parse threshold sentence =>
    ∃ trees, (session.parse threshold sentence).analysis = .trees trees

/-! ## What a parse comes to -/

/-- The undisturbed parse of a sentence: its charts and its trees. -/
structure Undisturbed (grammar : Grammar) (sentence : Sentence) (charts : Charts)
    (trees : List Tree) : Prop where
  finished : construct grammar sentence.undisturbed = .finished charts
  ranked : charts.rankedTrees? grammar = some trees

theorem exists_undisturbed (grammar : Grammar) (sentence : Sentence) :
    ∃ charts trees, Undisturbed grammar sentence charts trees := by
  obtain ⟨charts, ended⟩ := Construction.exists_undisturbed grammar sentence
  have finished := finished_of_construct ended
  obtain ⟨_, trees, ranked, _⟩ := finished.sound.exists_analysed finished.meetOnEmpty
  exact ⟨charts, trees, ended, ranked⟩

/-- What a parse comes to, and the session it leaves, as the undisturbed charts decide it. -/
inductive Outcome (session : Session) (sentence : Sentence) (charts : Charts) (trees : List Tree) :
    ParseReport → Prop where
  | cancelled (position : Nat) (raises : sentence.raisesStop position = true)
      (asks : charts.AsksForWord position) (log : List LogRecord) :
      Outcome session sentence charts trees
        ⟨.cancelled, log, { session with stopped := true }⟩
  | completed
      (calm : ∀ position, sentence.raisesStop position = true → ¬ charts.AsksForWord position)
      (log : List LogRecord) :
      Outcome session sentence charts trees
        ⟨.trees trees, log, { session with stopped := false, timed := true }⟩

variable {sentence : Sentence} {charts : Charts} {trees : List Tree}

theorem Undisturbed.outcome {session : Session}
    (undisturbed : Undisturbed session.parser.grammar sentence charts trees)
    (threshold : Threshold) :
    Outcome session sentence charts trees (session.parse threshold sentence) := by
  have sound : charts.Sound session.parser.grammar sentence.words :=
    (finished_of_construct undisturbed.finished).sound
  rcases construct_cases undisturbed.finished with ⟨ended, raising⟩ | ⟨ended, none⟩
  · obtain ⟨position, raises, asks⟩ := sound.exists_raising_iff.1 raising
    simp only [parse, ended]
    exact .cancelled position raises asks _
  · simp only [parse, ended, undisturbed.ranked]
    refine .completed (fun position raises asks => ?_) _
    obtain ⟨row, member, also⟩ := sound.exists_raising_iff.2 ⟨position, raises, asks⟩
    exact absurd (none row member) (by simp [also])

section Outcome

variable {session : Session} {report : ParseReport}

theorem Outcome.analysis_cases (outcome : Outcome session sentence charts trees report) :
    report.analysis = .cancelled ∨ report.analysis = .trees trees := by
  cases outcome with
  | cancelled => exact .inl rfl
  | completed => exact .inr rfl

theorem Outcome.cancelled_iff (outcome : Outcome session sentence charts trees report) :
    report.analysis = .cancelled ↔
      ∃ position, sentence.raisesStop position = true ∧ charts.AsksForWord position := by
  cases outcome with
  | cancelled position raises asks => exact iff_of_true rfl ⟨position, raises, asks⟩
  | completed calm =>
    exact iff_of_false nofun fun ⟨position, raises, asks⟩ => calm position raises asks

theorem Outcome.stopped_iff (outcome : Outcome session sentence charts trees report) :
    report.session.stopped = true ↔ report.analysis = .cancelled := by
  cases outcome with
  | cancelled => exact iff_of_true rfl rfl
  | completed => exact iff_of_false nofun nofun

theorem Outcome.timed_iff (outcome : Outcome session sentence charts trees report) :
    report.session.timed = true ↔
      session.timed = true ∨ ∃ trees, report.analysis = .trees trees := by
  cases outcome with
  | cancelled => exact (or_iff_left nofun).symm
  | completed => exact iff_of_true rfl (.inr ⟨trees, rfl⟩)

theorem Outcome.parser_eq (outcome : Outcome session sentence charts trees report) :
    report.session.parser = session.parser := by
  cases outcome with
  | cancelled => rfl
  | completed => rfl

end Outcome

/-- A parse that no word stops comes to the trees of the undisturbed parse. -/
theorem Undisturbed.answers {session : Session} {words : List String}
    (undisturbed : Undisturbed session.parser.grammar { words } charts trees)
    (threshold : Threshold) :
    (session.parse threshold { words }).analysis = .trees trees := by
  have outcome := undisturbed.outcome threshold
  refine outcome.analysis_cases.resolve_left fun cancelled => ?_
  obtain ⟨position, raises, _⟩ := outcome.cancelled_iff.1 cancelled
  simp [Sentence.raisesStop] at raises

/-- The flag that a parse leaves is the one that the machine ends with. -/
theorem stopped_of_last (session : Session) (threshold : Threshold) {last : Construction}
    (moment : Moment session.parser.grammar sentence last)
    (ended : ∀ following, last.step session.parser.grammar sentence ≠ .running following) :
    (session.parse threshold sentence).session.stopped = last.stopped := by
  obtain ⟨charts, trees, undisturbed⟩ := exists_undisturbed session.parser.grammar sentence
  have same := construct_eq_of_ended moment ended
  have move := moment.moves
  cases taken : last.step session.parser.grammar sentence with
  | running following => exact absurd taken (ended following)
  | astray =>
    rw [taken] at move
    cases move
  | cancelled =>
    rw [taken] at move
    cases move
    simp [parse, same, taken]
  | finished others =>
    rw [taken] at move
    cases move with
    | finish walked =>
      have lowered := moment.stopped_eq_false_of_walked walked
      rcases construct_cases undisturbed.finished with ⟨cancelled, _⟩ | ⟨finished, _⟩
      · rw [same, taken] at cancelled
        cases cancelled
      · simp [parse, finished, undisturbed.ranked, lowered]

/-! ## Histories -/

theorem parser_respond (session : Session) (call : Call) :
    (session.respond call).parser = session.parser := by
  cases call with
  | stop => rfl
  | parse threshold sentence =>
    obtain ⟨charts, trees, undisturbed⟩ := exists_undisturbed session.parser.grammar sentence
    exact (undisturbed.outcome threshold).parser_eq

theorem parser_after (session : Session) (history : List Call) :
    (session.after history).parser = session.parser := by
  induction history generalizing session with
  | nil => rfl
  | cons call others inductionHypothesis =>
    exact (inductionHypothesis (session.respond call)).trans (session.parser_respond call)

theorem respond_timed_iff (session : Session) (call : Call) :
    (session.respond call).timed = true ↔ session.timed = true ∨ session.Completes call := by
  cases call with
  | stop => exact (or_iff_left id).symm
  | parse threshold sentence =>
    obtain ⟨charts, trees, undisturbed⟩ := exists_undisturbed session.parser.grammar sentence
    exact (undisturbed.outcome threshold).timed_iff

theorem after_timed_iff (session : Session) (history : List Call) :
    (session.after history).timed = true ↔ session.timed = true ∨
      ∃ earlier call later, history = earlier ++ call :: later ∧
        (session.after earlier).Completes call := by
  induction history generalizing session with
  | nil => simp [after]
  | cons call others inductionHypothesis =>
    change ((session.respond call).after others).timed = true ↔ _
    rw [inductionHypothesis, respond_timed_iff, or_assoc]
    refine or_congr_right ⟨?_, ?_⟩
    · rintro (completes | ⟨earlier, later, rest, rfl, completes⟩)
      · exact ⟨[], call, others, rfl, completes⟩
      · exact ⟨call :: earlier, later, rest, rfl, completes⟩
    · rintro ⟨_ | ⟨first, earlier⟩, other, rest, same, completes⟩
      · obtain ⟨rfl, rfl⟩ := List.cons.inj same
        exact .inl completes
      · obtain ⟨rfl, rfl⟩ := List.cons.inj same
        exact .inr ⟨earlier, other, rest, rfl, completes⟩

theorem asks_at_iff {words : List String} {place : Nat} :
    (∃ position, Sentence.raisesStop ⟨words, fun position => position = place⟩ position = true ∧
      charts.AsksForWord position) ↔ place < words.length ∧ charts.AsksForWord place := by
  constructor
  · rintro ⟨position, raises, asks⟩
    obtain ⟨inside, rfl⟩ : position < words.length ∧ position = place := by
      simpa [Sentence.raisesStop] using raises
    exact ⟨inside, asks⟩
  · rintro ⟨inside, asks⟩
    exact ⟨place, by simp [Sentence.raisesStop, inside], asks⟩

/-- A parse of which one word raises the stop flag, after any history of calls. It is cancelled exactly
if the undisturbed charts ask for the word; otherwise it answers as an unused parser does without the
flag. The flag it leaves tells whether it was cancelled, and is the one that the machine ended with.
A flag raised beforehand has no effect. -/
theorem parse_stopped_at (parser : Parser) (history : List Call) (threshold : Threshold)
    (words : List String) (place : Nat) :
    let session := (start parser).after history
    let sentence : Sentence := ⟨words, fun position => position = place⟩
    let report := session.parse threshold sentence
    ∃ charts trees, construct parser.grammar ⟨words, fun _ => false⟩ = .finished charts ∧
      ((start parser).parse threshold ⟨words, fun _ => false⟩).analysis = .trees trees ∧
      (report.analysis = .cancelled ∨ report.analysis = .trees trees) ∧
      (report.analysis = .cancelled ↔ place < words.length ∧ charts.AsksForWord place) ∧
      (report.session.stopped = true ↔ report.analysis = .cancelled) ∧
      (report.session.timed = true ↔
        ∃ earlier call later, history ++ [.parse threshold sentence] = earlier ++ call :: later ∧
          ((start parser).after earlier).Completes call) ∧
      (session.stop.parse threshold ⟨words, fun _ => false⟩).analysis = .trees trees ∧
      ∀ last, Moment parser.grammar sentence last →
        (∀ following, last.step parser.grammar sentence ≠ .running following) →
          report.session.stopped = last.stopped := by
  intro session sentence report
  have sameParser : session.parser = parser := (start parser).parser_after history
  obtain ⟨charts, trees, undisturbed⟩ := exists_undisturbed parser.grammar sentence
  have calm (other : Session) (same : other.parser = parser) :
      (other.parse threshold ⟨words, fun _ => false⟩).analysis = .trees trees := by
    have again : Undisturbed other.parser.grammar { words } charts trees := by
      rw [same]
      exact ⟨undisturbed.finished, undisturbed.ranked⟩
    exact again.answers threshold
  have outcome : Outcome session sentence charts trees report := by
    rw [← sameParser] at undisturbed
    exact undisturbed.outcome threshold
  have timed := (start parser).after_timed_iff (history ++ [.parse threshold sentence])
  have last : (start parser).after (history ++ [.parse threshold sentence]) = report.session := by
    rw [after, List.foldl_append]
    rfl
  rw [last] at timed
  refine ⟨charts, trees, undisturbed.finished, calm (start parser) rfl, outcome.analysis_cases,
    outcome.cancelled_iff.trans asks_at_iff, outcome.stopped_iff, timed.trans (or_iff_right nofun),
    calm session.stop sameParser, ?_⟩
  intro last moment ended
  rw [← sameParser] at moment ended
  exact stopped_of_last session threshold moment ended

/-- A parser of pairs of words. -/
def pairs : Parser where
  grammar := .addProduction .empty ⟨.root, [.unknown, .unknown], 0, ""⟩
  covered := by decide +kernel

def pairTree : Tree :=
  ⟨"ROOT", "ROOT", 0, "", [⟨"x", "UNKNOWN", 0, "", []⟩, ⟨"y", "UNKNOWN", 0, "", []⟩]⟩

/-- A history with a parse that runs to its end, behind which the flag is raised. -/
def pairsHistory : List Call :=
  [.stop, .parse .off { words := ["x", "y"] }, .stop]

/-- A parse after that history, of words one of which raises the stop flag. -/
def pairsReport (words : List String) (place : Nat) : ParseReport :=
  ((start pairs).after pairsHistory).parse .off ⟨words, fun position => position = place⟩

/-- The second word of a pair is asked for, so it can stop the parse. A third word is not. -/
theorem parse_stopped_at_pairs :
    ((∃ charts, construct pairs.grammar ⟨["x", "y"], fun _ => false⟩ = .finished charts ∧
        charts.AsksForWord 1) ∧
      (pairsReport ["x", "y"] 1).analysis = .cancelled ∧
      (pairsReport ["x", "y"] 1).session.stopped = true ∧
      (pairsReport ["x", "y"] 1).session.timed = true ∧
      ((start pairs).parse .off { words := ["x", "y"] }).analysis = .trees [pairTree]) ∧
    ((∃ charts, construct pairs.grammar ⟨["x", "y", "z"], fun _ => false⟩ = .finished charts ∧
        ¬ charts.AsksForWord 2) ∧
      (pairsReport ["x", "y", "z"] 2).analysis = .trees [] ∧
      (pairsReport ["x", "y", "z"] 2).session.stopped = false) := by
  have alone : ((start pairs).parse .off { words := ["x", "y"] }).analysis = .trees [pairTree] := by
    decide +kernel
  constructor
  · have cancelled : (pairsReport ["x", "y"] 1).analysis = .cancelled := by decide +kernel
    obtain ⟨charts, trees, ended, _, _, asks, stopped, timed, _⟩ :=
      parse_stopped_at pairs pairsHistory .off ["x", "y"] 1
    refine ⟨⟨charts, ended, (asks.1 cancelled).2⟩, cancelled, stopped.2 cancelled, ?_, alone⟩
    exact timed.2 ⟨[.stop], _, _, rfl, [pairTree], by decide +kernel⟩
  · have answered : (pairsReport ["x", "y", "z"] 2).analysis = .trees [] := by decide +kernel
    obtain ⟨charts, trees, ended, _, _, asks, stopped, _⟩ :=
      parse_stopped_at pairs pairsHistory .off ["x", "y", "z"] 2
    have completed : (pairsReport ["x", "y", "z"] 2).analysis ≠ .cancelled := by
      rw [answered]
      exact nofun
    refine ⟨⟨charts, ended, fun expected => completed (asks.2 ⟨by decide, expected⟩)⟩, answered, ?_⟩
    exact Bool.eq_false_iff.2 fun raised => completed (stopped.1 raised)

end Session

end ChartParsing
