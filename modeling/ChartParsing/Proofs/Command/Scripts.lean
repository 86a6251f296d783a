import ChartParsing.Command.Execution

/-!
Contract: commands and their scripts.

Owns what a command does in surroundings that read given files and tell one text for all times: it
performs the events of its script, in order, and ends as the script does. So a script, which is only the
record of a command, stands for what the command does anywhere, and can be put together from the events
of its parts.
-/

set_option autoImplicit false

namespace ChartParsing.Command

open ChartParsing.Text

/-! ## Planned events -/

/-- All that is done about the words of one line, given the report of their parse. -/
def sentenceEvents (options : ParseOptions) (threshold : Threshold) (elapsed : String)
    (number : Nat) (words : List String) (report : ParseReport) : List Event :=
  .write (header words) ::
    (report.log.map .log ++ answer options threshold elapsed number words report.analysis)

/-- All that is done about numbered lines, one after the other. -/
def linesEvents (options : ParseOptions) (threshold : Threshold) (elapsed : String) :
    Session → List (Nat × List Char) → List Event
  | _, [] => []
  | session, (number, line) :: others =>
    match lineWords? line with
    | none => linesEvents options threshold elapsed session others
    | some words =>
      let report := session.parse threshold { words }
      sentenceEvents options threshold elapsed number words report
        ++ linesEvents options threshold elapsed report.session others

/-- What is done once a grammar is there. -/
def taskScript (threshold : Threshold) (files : Files) (elapsed : String) (parser : Parser) :
    Task → Script
  | .validate path => ⟨[.write (validLine path parser.grammar)], none⟩
  | .parse _ path options =>
    match files path with
    | .error cause => ⟨[], some (.sentencesUnreadable path cause)⟩
    | .ok text =>
      ⟨linesEvents options threshold elapsed (.start parser) (numberedLines text.toList) ++ [.flush],
        none⟩

/-- The events of an invocation, put together from those of its parts. -/
def Invocation.plan (invocation : Invocation) (files : Files) (elapsed : String) : Script :=
  let path := invocation.task.grammarPath
  let ⟨records, result⟩ := openGrammar path (files path)
  let beginning := logged invocation.threshold records
  match result with
  | .error failure => ⟨beginning, some failure⟩
  | .ok parser =>
    let ⟨events, failure⟩ := taskScript invocation.threshold files elapsed parser invocation.task
    ⟨beginning ++ events, failure⟩

/-! ## What a command performs -/

/-- Surroundings that read given files and tell one text for all times, without doing anything else. -/
structure Surroundings.Give {Effect : Type → Type} [Monad Effect] (surroundings : Surroundings Effect)
    (files : Files) (elapsed : String) : Prop where
  read : ∀ path, surroundings.read path = pure (files path)
  timed : ∀ {Value : Type} (value : Unit → Value),
    surroundings.timed value = pure (value (), elapsed)

section Perform

variable {Effect : Type → Type} [Monad Effect] {surroundings : Surroundings Effect} {files : Files}
  {elapsed : String}

namespace Surroundings

theorem performAll_nil : surroundings.performAll [] = pure () :=
  List.forM_nil

theorem performAll_cons (event : Event) (others : List Event) :
    surroundings.performAll (event :: others) =
      (do surroundings.perform event; surroundings.performAll others) :=
  List.forM_cons

variable [LawfulMonad Effect]

theorem performAll_singleton (event : Event) :
    surroundings.performAll [event] = surroundings.perform event := by
  simp [performAll]

theorem performAll_append (first second : List Event) :
    surroundings.performAll (first ++ second) =
      (do surroundings.performAll first; surroundings.performAll second) :=
  List.forM_append

end Surroundings

variable [LawfulMonad Effect] (gives : surroundings.Give files elapsed)

include gives

theorem parseLines_eq (options : ParseOptions) (threshold : Threshold) (session : Session)
    (lines : List (Nat × List Char)) :
    parseLines surroundings options threshold session lines =
      surroundings.performAll (linesEvents options threshold elapsed session lines) := by
  induction lines generalizing session with
  | nil => exact Surroundings.performAll_nil.symm
  | cons line others inductionHypothesis =>
    obtain ⟨number, line⟩ := line
    cases words : lineWords? line with
    | none =>
      simp only [parseLines, linesEvents, words]
      exact inductionHypothesis session
    | some found =>
      simp only [parseLines, linesEvents, words, gives.timed, pure_bind, inductionHypothesis]
      simp only [sentenceEvents, List.cons_append, Surroundings.performAll_cons,
        Surroundings.performAll_append, bind_assoc]

theorem runTask_eq (threshold : Threshold) (parser : Parser) (task : Task) :
    runTask surroundings threshold parser task =
      (let script := taskScript threshold files elapsed parser task
       do surroundings.performAll script.events; pure script.failure) := by
  cases task with
  | validate path =>
    simp only [runTask, taskScript, Surroundings.performAll_singleton]
  | parse grammarPath path options =>
    cases found : files path with
    | error cause =>
      simp only [runTask, taskScript, gives.read, found, pure_bind, Surroundings.performAll_nil]
    | ok text =>
      simp only [runTask, taskScript, gives.read, found, pure_bind, parseLines_eq gives,
        Surroundings.performAll_append, Surroundings.performAll_singleton, bind_assoc]

theorem run_eq_plan (invocation : Invocation) :
    invocation.run surroundings =
      (do
        surroundings.performAll (invocation.plan files elapsed).events
        pure (invocation.plan files elapsed).failure) := by
  cases opened : (openGrammar invocation.task.grammarPath
      (files invocation.task.grammarPath)).result with
  | error failure =>
    simp only [Invocation.run, Invocation.plan, gives.read, pure_bind, opened]
  | ok parser =>
    simp only [Invocation.run, Invocation.plan, gives.read, pure_bind, opened, runTask_eq gives,
      Surroundings.performAll_append, bind_assoc]

end Perform

/-! ## Scripts -/

theorem give_recording (files : Files) (elapsed : String) :
    (Surroundings.recording files elapsed).Give files elapsed :=
  ⟨fun _ => rfl, fun _ => rfl⟩

theorem run_performAll_recording (files : Files) (elapsed : String) (recorded : Array Event)
    (events : List Event) :
    ((Surroundings.recording files elapsed).performAll events).run recorded =
      ((), recorded ++ events.toArray) := by
  induction events generalizing recorded with
  | nil => exact congrArg (Prod.mk ()) Array.append_empty.symm
  | cons event others inductionHypothesis =>
    rw [Surroundings.performAll_cons, StateT.run_bind]
    show ((Surroundings.recording files elapsed).performAll others).run (recorded.push event) = _
    rw [inductionHypothesis (recorded.push event)]
    simp

/-- The script of a command consists of the events of its parts. -/
theorem script_eq_plan (invocation : Invocation) (files : Files) (elapsed : String) :
    invocation.script files elapsed = invocation.plan files elapsed := by
  rw [Invocation.script, run_eq_plan (give_recording files elapsed), Script.ofRecording,
    StateT.run_bind, run_performAll_recording, Array.empty_append]
  rfl

/-- In surroundings that read given files and tell one text for all times, a command performs the events
of its script, one after the other, and ends as its script does. -/
theorem run_eq_script {Effect : Type → Type} [Monad Effect] [LawfulMonad Effect]
    {surroundings : Surroundings Effect} {files : Files} {elapsed : String}
    (gives : surroundings.Give files elapsed) (invocation : Invocation) :
    invocation.run surroundings =
      (do
        surroundings.performAll (invocation.script files elapsed).events
        pure (invocation.script files elapsed).failure) := by
  rw [script_eq_plan]
  exact run_eq_plan gives invocation

end ChartParsing.Command
