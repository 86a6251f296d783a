import ChartParsing.Proofs.Command.Answers

/-!
Contract: what a command leaves behind when there is little room.

Owns the output of a command on a sink with a limit. A command that cannot use its files has written
nothing when it fails. Any other command writes what it writes without a limit, up to the limit, and
fails just when that goes beyond the limit: of all its texts none is left out, written twice or written
after one that does not fit.
-/

set_option autoImplicit false

namespace ChartParsing

/-! ## Sinks -/

theorem extract_of_size_le {bytes : ByteArray} {limit : Nat} (fits : bytes.size ≤ limit) :
    bytes.extract 0 limit = bytes := by
  have same := ByteArray.extract_zero_max_size (a := bytes) (i := limit)
  rwa [Nat.max_eq_left fits] at same

theorem extract_min_size (bytes : ByteArray) (limit : Nat) :
    bytes.extract 0 (min limit bytes.size) = bytes.extract 0 limit := by
  have twice := ByteArray.extract_extract (a := bytes) (i := 0) (j := bytes.size) (k := 0)
    (l := limit)
  rw [ByteArray.extract_zero_size, Nat.zero_add, Nat.zero_add] at twice
  exact twice.symm

theorem extract_append_of_le {bytes others : ByteArray} {limit : Nat} (full : limit ≤ bytes.size) :
    (bytes ++ others).extract 0 limit = bytes.extract 0 limit := by
  have nothing : others.extract (0 - bytes.size) (limit - bytes.size) = .empty := by
    rw [Nat.sub_eq_zero_of_le full, ByteArray.extract_eq_empty_iff]
    exact Nat.min_le_left _ _ |>.trans (Nat.zero_le _)
  rw [ByteArray.extract_append, nothing, ByteArray.append_empty]

/-- A sink takes a text up to its limit. -/
theorem ByteSink.write_limited {limit : Nat} {bytes : ByteArray} (fits : bytes.size ≤ limit)
    (text : String) :
    (⟨some limit, bytes⟩ : ByteSink).write text =
      (⟨some limit, (bytes ++ text.toUTF8).extract 0 limit⟩,
        decide ((bytes ++ text.toUTF8).size ≤ limit)) := by
  have whole : (text.toUTF8.extract 0 (limit - bytes.size)).size = text.toUTF8.size ↔
      (bytes ++ text.toUTF8).size ≤ limit := by
    rw [ByteArray.size_extract, ByteArray.size_append]
    omega
  simp only [write, fitting, whole, ByteArray.extract_append, extract_of_size_le fits,
    Nat.zero_sub]

namespace Command

/-! ## Runs -/

theorem append_written_nil (bytes : ByteArray) : bytes ++ (written []).toUTF8 = bytes :=
  ByteArray.append_empty

theorem append_written_write (bytes : ByteArray) (text : String) (events : List Event) :
    bytes ++ (written (.write text :: events)).toUTF8 =
      bytes ++ text.toUTF8 ++ (written events).toUTF8 := by
  simp [written, ByteArray.append_assoc]

/-- With little room the events are carried out until the room is used up. -/
theorem performEvents_limited (failure : Option Failure) {limit : Nat} {bytes : ByteArray}
    (fits : bytes.size ≤ limit) (log : Array LogRecord) (events : List Event) :
    let total := bytes ++ (written events).toUTF8
    let outcome := performEvents failure ⟨some limit, bytes⟩ log events
    outcome.output = total.extract 0 limit ∧
      outcome.failure =
        if total.size ≤ limit then failure else some (.outputFailed ByteSink.fullMessage) := by
  -- The run goes on only while all bytes so far fit, so they are carried along as a whole.
  induction events generalizing bytes log with
  | nil =>
    simp only [append_written_nil, performEvents, extract_of_size_le fits, fits, if_true, and_self]
  | cons event others inductionHypothesis =>
    cases event with
    | write text =>
      simp only [append_written_write, performEvents, ByteSink.write_limited fits]
      by_cases room : (bytes ++ text.toUTF8).size ≤ limit
      · simp only [room, decide_true, extract_of_size_le room]
        exact inductionHypothesis room log
      · have full := Nat.lt_of_not_le room
        have beyond : ¬ (bytes ++ text.toUTF8 ++ (written others).toUTF8).size ≤ limit := by
          rw [ByteArray.size_append]
          omega
        simp only [room, decide_false, beyond, if_false, and_true]
        exact (extract_append_of_le (Nat.le_of_lt full)).symm
    | flush => exact inductionHypothesis fits log
    | log record => exact inductionHypothesis fits (log.push record)

/-- The first text that does not fit is the last event that is carried out: it is cut at the limit, and
nothing behind it is written or logged. -/
theorem performEvents_stopped (failure : Option Failure) {limit : Nat} {bytes : ByteArray}
    (log : Array LogRecord) {before : List Event} {text : String} (behind : List Event)
    (fits : (bytes ++ (written before).toUTF8).size ≤ limit)
    (beyond : limit < (bytes ++ (written before).toUTF8 ++ text.toUTF8).size) :
    performEvents failure ⟨some limit, bytes⟩ log (before ++ .write text :: behind) =
      ⟨(bytes ++ (written before).toUTF8 ++ text.toUTF8).extract 0 limit,
        log.toList ++ before.filterMap Event.record?,
        some (.outputFailed ByteSink.fullMessage)⟩ := by
  induction before generalizing bytes log with
  | nil =>
    rw [append_written_nil] at fits beyond ⊢
    simp only [List.nil_append, performEvents, ByteSink.write_limited fits,
      decide_eq_false (Nat.not_le.2 beyond), List.filterMap_nil, List.append_nil]
  | cons event others inductionHypothesis =>
    cases event with
    | write first =>
      rw [append_written_write] at fits beyond ⊢
      have firstFits : (bytes ++ first.toUTF8).size ≤ limit := by
        rw [ByteArray.size_append] at fits
        omega
      have allFits : bytes.size ≤ limit := by
        rw [ByteArray.size_append] at firstFits
        omega
      simp only [List.cons_append, performEvents, ByteSink.write_limited allFits, firstFits,
        decide_true, extract_of_size_le firstFits]
      exact inductionHypothesis log fits beyond
    | flush => exact inductionHypothesis log fits beyond
    | log record =>
      have stopped := inductionHypothesis (log.push record) fits beyond
      rw [Array.toList_push, List.append_assoc] at stopped
      exact stopped

/-- Events that write beyond a limit have a first text that does. -/
theorem exists_first_beyond {limit : Nat} (events : List Event) {bytes : ByteArray}
    (fits : bytes.size ≤ limit) (beyond : limit < (bytes ++ (written events).toUTF8).size) :
    ∃ before text behind, events = before ++ .write text :: behind ∧
      (bytes ++ (written before).toUTF8).size ≤ limit ∧
      limit < (bytes ++ (written before).toUTF8 ++ text.toUTF8).size := by
  induction events generalizing bytes with
  | nil =>
    rw [append_written_nil] at beyond
    exact absurd fits (Nat.not_le.2 beyond)
  | cons event others inductionHypothesis =>
    cases event with
    | write first =>
      by_cases firstFits : (bytes ++ first.toUTF8).size ≤ limit
      · rw [append_written_write] at beyond
        obtain ⟨before, text, behind, rfl, stillFits, isBeyond⟩ := inductionHypothesis firstFits beyond
        refine ⟨.write first :: before, text, behind, rfl, ?_, ?_⟩
        · rw [append_written_write]
          exact stillFits
        · rw [append_written_write]
          exact isBeyond
      · refine ⟨[], first, others, rfl, ?_, ?_⟩
        · rw [append_written_nil]
          exact fits
        · rw [append_written_nil]
          exact Nat.lt_of_not_le firstFits
    | flush =>
      obtain ⟨before, text, behind, rfl, found⟩ := inductionHypothesis fits beyond
      exact ⟨.flush :: before, text, behind, rfl, found⟩
    | log record =>
      obtain ⟨before, text, behind, rfl, found⟩ := inductionHypothesis fits beyond
      exact ⟨.log record :: before, text, behind, rfl, found⟩

/-- What a script leaves behind with little room, beside what it leaves behind with all room. -/
theorem Script.perform_limited (script : Script) (limit : Nat) :
    let full := (script.perform none).output
    (script.perform (some limit)).output = full.extract 0 limit ∧
      (script.perform (some limit)).failure =
        if full.size ≤ limit then script.failure
        else some (.outputFailed ByteSink.fullMessage) := by
  have fits : ByteArray.empty.size ≤ limit := Nat.zero_le limit
  have run := performEvents_limited script.failure fits #[] script.events
  rw [ByteArray.empty_append, ← script.perform_unlimited.1] at run
  exact run

/-- A script that writes more than there is room for stops at its first text that does not fit: the
texts before it are written, it is cut at the limit, and nothing behind it is written or logged. -/
theorem Script.perform_stopped (script : Script) {limit : Nat}
    (beyond : limit < (script.perform none).output.size) :
    ∃ before text behind, script.events = before ++ .write text :: behind ∧
      (written before).toUTF8.size ≤ limit ∧
      limit < ((written before).toUTF8 ++ text.toUTF8).size ∧
      script.perform (some limit) =
        ⟨((written before).toUTF8 ++ text.toUTF8).extract 0 limit,
          before.filterMap Event.record?, some (.outputFailed ByteSink.fullMessage)⟩ := by
  rw [script.perform_unlimited.1, ← ByteArray.empty_append (b := (written script.events).toUTF8)]
    at beyond
  obtain ⟨before, text, behind, split, fits, isBeyond⟩ :=
    exists_first_beyond script.events (Nat.zero_le limit) beyond
  have stopped := performEvents_stopped script.failure #[] behind fits isBeyond
  rw [ByteArray.empty_append] at fits isBeyond stopped
  refine ⟨before, text, behind, split, fits, isBeyond, ?_⟩
  rw [Script.perform, split]
  exact stopped

/-- A script that writes nothing leaves nothing and ends with its own failure, whatever room there
is. -/
theorem Script.perform_quiet {script : Script} (quiet : written script.events = "")
    (limit : Nat) :
    (script.perform none).output = .empty ∧
      (script.perform (some limit)).output = .empty ∧
      (script.perform (some limit)).failure = script.failure := by
  have nothing : (script.perform none).output = .empty := by
    rw [script.perform_unlimited.1, quiet]
    rfl
  obtain ⟨output, failure⟩ := script.perform_limited limit
  have fits : (script.perform none).output.size ≤ limit := by
    rw [nothing]
    exact Nat.zero_le limit
  rw [extract_of_size_le fits] at output
  rw [if_pos fits] at failure
  exact ⟨nothing, output.trans nothing, failure⟩

/-- A script without a failure of its own fails just when there is not room for all that it
writes. -/
theorem Script.perform_without_failure {script : Script} (ends : script.failure = none)
    (limit : Nat) :
    let full := (script.perform none).output
    full.size ≤ limit ∧ (script.perform (some limit)).failure = none ∨
      limit < full.size ∧
        (script.perform (some limit)).failure = some (.outputFailed ByteSink.fullMessage) := by
  intro full
  have failure := (script.perform_limited limit).2
  by_cases room : full.size ≤ limit
  · exact .inl ⟨room, failure.trans ((if_pos room).trans ends)⟩
  · exact .inr ⟨Nat.lt_of_not_le room, failure.trans (if_neg room)⟩

/-! ## Commands -/

/-- Whether a failure comes of the files that a command reads. -/
def Failure.isOfFiles : Failure → Bool
  | .outputFailed _ => false
  | _ => true

theorem openGrammar_failure {path : String} {content : Except ReadError String} {failure : Failure}
    (failed : (openGrammar path content).result = .error failure) : failure.isOfFiles = true := by
  cases content with
  | error cause => exact Except.error.inj failed ▸ rfl
  | ok text =>
    cases loaded : Grammar.load text with
    | error rejection =>
      simp only [openGrammar, loaded, Except.error.injEq] at failed
      exact failed ▸ rfl
    | ok found =>
      cases made : Parser.ofGrammar found.grammar with
      | error missing =>
        simp only [openGrammar, loaded, made, Except.error.injEq] at failed
        exact failed ▸ rfl
      | ok parser => simp only [openGrammar, loaded, made, reduceCtorEq] at failed

theorem taskScript_failure {threshold : Threshold} {files : Files} {elapsed : String}
    {parser : Parser} {task : Task} {failure : Failure}
    (failed : (taskScript threshold files elapsed parser task).failure = some failure) :
    failure.isOfFiles = true ∧ (taskScript threshold files elapsed parser task).events = [] := by
  cases task with
  | validate path => simp only [taskScript, reduceCtorEq] at failed
  | parse grammarPath path options =>
    cases found : files path with
    | error cause =>
      simp only [taskScript, found, Option.some.injEq] at failed ⊢
      exact ⟨failed ▸ rfl, trivial⟩
    | ok text => simp only [taskScript, found, reduceCtorEq] at failed

/-- A command only fails of itself before it writes. -/
theorem Invocation.written_of_failure {invocation : Invocation} {files : Files} {elapsed : String}
    {failure : Failure} (failed : (invocation.script files elapsed).failure = some failure) :
    failure.isOfFiles = true ∧ written (invocation.script files elapsed).events = "" := by
  rw [script_eq_plan] at failed ⊢
  cases opened : (openGrammar invocation.task.grammarPath
      (files invocation.task.grammarPath)).result with
  | error cause =>
    simp only [Invocation.plan, opened, Option.some.injEq] at failed ⊢
    subst failed
    exact ⟨openGrammar_failure opened, written_logged _ _⟩
  | ok parser =>
    simp only [Invocation.plan, opened] at failed ⊢
    obtain ⟨ofFiles, nothing⟩ := taskScript_failure failed
    rw [nothing, List.append_nil]
    exact ⟨ofFiles, written_logged _ _⟩

/-- On a sink with a limit, a command that fails because of its files has written nothing. Any other
command leaves the first bytes of its output, as many as there is room for; it fails just when there
are more. It stops then at the first of its texts that does not fit, and has only logged what stands
before that text. -/
theorem limited_output (invocation : Invocation) (files : Files) (elapsed : String) (limit : Nat) :
    let limited := (invocation.script files elapsed).perform (some limit)
    let full := (invocation.script files elapsed).perform none
    (∀ failure, limited.failure = some failure → failure.isOfFiles = true →
      limited.output = .empty ∧ full.failure = some failure ∧ full.output = .empty) ∧
    ((∀ failure, limited.failure = some failure → failure.isOfFiles = false) →
      limited.output = full.output.extract 0 (min limit full.output.size) ∧
      limited.output.size = min limit full.output.size ∧
      ((∃ reason, limited.failure = some (.outputFailed reason)) ↔
        limit < full.output.size) ∧
      (limited.failure = none ↔ full.output.size ≤ limit) ∧ full.failure = none ∧
      (limit < full.output.size → ∃ before text behind,
        (invocation.script files elapsed).events = before ++ .write text :: behind ∧
        (written before).toUTF8.size ≤ limit ∧
        limit < ((written before).toUTF8 ++ text.toUTF8).size ∧
        limited.log = before.filterMap Event.record?)) := by
  intro limited full
  have fullFailure := (invocation.script files elapsed).perform_unlimited.2
  cases ends : (invocation.script files elapsed).failure with
  | some cause =>
    obtain ⟨ofFiles, quiet⟩ := Invocation.written_of_failure ends
    obtain ⟨nothing, alsoNothing, failure⟩ := Script.perform_quiet quiet limit
    constructor
    · intro other same _
      obtain rfl := Option.some.inj ((failure.trans ends).symm.trans same)
      exact ⟨alsoNothing, fullFailure.trans ends, nothing⟩
    · intro notOfFiles
      rw [notOfFiles cause (failure.trans ends)] at ofFiles
      exact nomatch ofFiles
  | none =>
    have outcomes := Script.perform_without_failure ends limit
    have output := ((invocation.script files elapsed).perform_limited limit).1
    constructor
    · intro cause same ofFiles
      rcases outcomes with ⟨_, succeeds⟩ | ⟨_, fails⟩
      · exact nomatch succeeds.symm.trans same
      · obtain rfl := Option.some.inj (fails.symm.trans same)
        exact nomatch ofFiles
    · intro _
      refine ⟨?_, ?_, ?_, ?_, fullFailure.trans ends, fun beyond => ?_⟩
      · exact output.trans (extract_min_size _ _).symm
      · exact (congrArg ByteArray.size output).trans ByteArray.size_extract
      · rcases outcomes with ⟨room, succeeds⟩ | ⟨beyond, fails⟩
        · simp [limited, full, succeeds, Nat.not_lt.2 room]
        · simp [limited, full, fails, beyond]
      · rcases outcomes with ⟨room, succeeds⟩ | ⟨beyond, fails⟩
        · simp [limited, full, succeeds, room]
        · simp [limited, full, fails, Nat.not_le.2 beyond]
      · obtain ⟨before, text, behind, split, fits, isBeyond, stopped⟩ :=
          (invocation.script files elapsed).perform_stopped beyond
        exact ⟨before, text, behind, split, fits, isBeyond, congrArg Outcome.log stopped⟩

/-- A validation without the file of the grammar. -/
def validateNothing : Script :=
  (⟨.validate "grammar", .off, none⟩ : Invocation).script (fun _ => .error .notFound) "2.5ms"

/-- A line of a tree that does not fit is cut, and the next tree is not written. Without the file of the
grammar nothing is. -/
theorem limited_output_twofold :
    (((twofoldScript ⟨.indented, false, false⟩ "so\n").perform none).output =
        "# so\nROOT [2]\n  WORD so\nROOT [1]\n  UNKNOWN so\n".toUTF8 ∧
      ((twofoldScript ⟨.indented, false, false⟩ "so\n").perform (some 18)).output =
        "# so\nROOT [2]\n  WO".toUTF8 ∧
      (∃ reason, ((twofoldScript ⟨.indented, false, false⟩ "so\n").perform (some 18)).failure =
        some (.outputFailed reason)) ∧
      ((twofoldScript ⟨.indented, false, false⟩ "so\n").perform (some 46)).failure = none) ∧
    (validateNothing.perform (some 18)).failure = some (.grammarUnreadable "grammar" .notFound) ∧
      (validateNothing.perform (some 18)).output = .empty := by
  constructor
  · obtain ⟨treesOf, answers⟩ := exists_treesOf twofold.grammar
    obtain ⟨found, _⟩ := treesOf_twofold (answers .off (.start twofold) rfl)
    have sentences : sentencesOf "so\n" = [["so"]] := by decide +kernel
    obtain ⟨completes, output⟩ := twofoldScript_output ⟨.indented, false, false⟩ "so\n" (answers .off)
    have full : ((twofoldScript ⟨.indented, false, false⟩ "so\n").perform none).output =
        "# so\nROOT [2]\n  WORD so\nROOT [1]\n  UNKNOWN so\n".toUTF8 := by
      rw [output, sentences, List.map_singleton, found]
      decide +kernel
    have bounded (limit : Nat) := limited_output
      ⟨.parse "grammar" "sentences" ⟨.indented, false, false⟩, .off, none⟩ (twofoldFiles "so\n")
      "2.5ms" limit
    have others (limit : Nat) : ∀ failure,
        ((twofoldScript ⟨.indented, false, false⟩ "so\n").perform (some limit)).failure =
          some failure → failure.isOfFiles = false := by
      intro failure same
      by_contra ofFiles
      obtain ⟨_, fails, _⟩ := (bounded limit).1 failure same (by simpa using ofFiles)
      exact nomatch fails.symm.trans completes
    obtain ⟨cut, _, fails, _⟩ := (bounded 18).2 (others 18)
    obtain ⟨_, _, _, succeeds, _⟩ := (bounded 46).2 (others 46)
    refine ⟨full, cut.trans ?_, fails.2 ?_, succeeds.2 ?_⟩
    · rw [← twofoldScript, full]
      decide +kernel
    · rw [← twofoldScript, full]
      decide +kernel
    · rw [← twofoldScript, full]
      decide +kernel
  · have fails : (validateNothing.perform (some 18)).failure =
        some (.grammarUnreadable "grammar" .notFound) := rfl
    obtain ⟨nothing, _⟩ := (limited_output ⟨.validate "grammar", .off, none⟩
      (fun _ => .error .notFound) "2.5ms" 18).1 _ fails rfl
    exact ⟨fails, nothing⟩

end Command

end ChartParsing
