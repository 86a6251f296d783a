import ChartParsing.Proofs.Cancellation
import ChartParsing.Proofs.Command.Scripts
import ChartParsing.Proofs.Ranking

/-!
Contract: the answers of the parse command.

Owns the text that a script writes when there is room for all of it, and what a parse command writes:
for every line that is not blank its tokens, the time of its parse if that is asked for, and its trees
or the note that it has none. Showing only the best tree takes all trees but the first from the
answers, and changes nothing else.
-/

set_option autoImplicit false

namespace ChartParsing.Command

open ChartParsing.Text

/-! ## What is written -/

/-- The text that events write, one after the other. -/
def written : List Event → String
  | [] => ""
  | .write text :: others => text ++ written others
  | .flush :: others => written others
  | .log _ :: others => written others

@[simp] theorem written_append (first second : List Event) :
    written (first ++ second) = written first ++ written second := by
  induction first with
  | nil => simp [written]
  | cons event others inductionHypothesis =>
    cases event with
    | write text => simp [written, inductionHypothesis, String.append_assoc]
    | flush => simpa [written] using inductionHypothesis
    | log record => simpa [written] using inductionHypothesis

@[simp] theorem written_log (records : List LogRecord) : written (records.map .log) = "" := by
  induction records with
  | nil => rfl
  | cons record others inductionHypothesis => exact inductionHypothesis

theorem written_logged (threshold : Threshold) (records : List LogRecord) :
    written (logged threshold records) = "" :=
  written_log _

/-- The record that an event logs, if it logs one. -/
def Event.record? : Event → Option LogRecord
  | .log record => some record
  | _ => none

/-- When there is room for everything, all events are carried out. -/
theorem performEvents_unlimited (failure : Option Failure) (bytes : ByteArray)
    (log : Array LogRecord) (events : List Event) :
    let outcome := performEvents failure ⟨none, bytes⟩ log events
    outcome.output = bytes ++ (written events).toUTF8 ∧ outcome.failure = failure := by
  induction events generalizing bytes log with
  | nil => simp [performEvents, written]
  | cons event others inductionHypothesis =>
    cases event with
    | write text =>
      have rest := inductionHypothesis (bytes ++ text.toUTF8) log
      simpa [performEvents, written, ByteSink.write, ByteSink.fitting, ByteArray.append_assoc]
        using rest
    | flush => exact inductionHypothesis bytes log
    | log record => exact inductionHypothesis bytes (log.push record)

theorem Script.perform_unlimited (script : Script) :
    (script.perform none).output = (written script.events).toUTF8 ∧
      (script.perform none).failure = script.failure := by
  obtain ⟨output, failure⟩ := performEvents_unlimited script.failure .empty #[] script.events
  exact ⟨output.trans ByteArray.empty_append, failure⟩

/-! ## Answers -/

/-- What is shown of the trees of a sentence. -/
def shownText (format : TreeFormat) (words : List String) : List Tree → String
  | [] => noParse words ++ "\n"
  | best :: others => Tree.writtenAll format (best :: others)

/-- The answer to a sentence with given trees. -/
def answerText (options : ParseOptions) (elapsed : String) (words : List String)
    (trees : List Tree) : String :=
  header words ++ (if options.timing then timingLine elapsed else "")
    ++ shownText options.format words (if options.best then trees.take 1 else trees)

/-- The sentences of a text: the tokens of its lines that are not blank. -/
def sentencesOf (text : String) : List (List String) :=
  (numberedLines text.toList).filterMap fun (_, line) => lineWords? line

theorem written_texts (texts : List String) : written (texts.map .write) = String.join texts := by
  induction texts with
  | nil => rfl
  | cons text others inductionHypothesis =>
    rw [List.map_cons, written, inductionHypothesis, String.join_cons]

theorem written_trees (format : TreeFormat) (trees : List Tree) :
    written (trees.flatMap fun tree => (tree.linesIn format).map .write) =
      Tree.writtenAll format trees := by
  induction trees with
  | nil => rfl
  | cons tree others inductionHypothesis =>
    rw [List.flatMap_cons, written_append, inductionHypothesis, written_texts, Tree.writtenAll,
      Tree.written]

theorem written_shownTrees (options : ParseOptions) (words : List String) (trees : List Tree) :
    written (shownTrees options words trees) =
      shownText options.format words (if options.best then trees.take 1 else trees) := by
  cases trees with
  | nil => simp [shownTrees, shownText, written]
  | cons best others =>
    cases alone : options.best with
    | true => simpa [shownTrees, shownText, alone] using written_trees options.format [best]
    | false =>
      simpa [shownTrees, shownText, alone] using written_trees options.format (best :: others)

theorem written_sentenceEvents (options : ParseOptions) (threshold : Threshold) (elapsed : String)
    (number : Nat) (words : List String) {report : ParseReport} {trees : List Tree}
    (answered : report.analysis = .trees trees) :
    written (sentenceEvents options threshold elapsed number words report) =
      answerText options elapsed words trees := by
  rw [sentenceEvents, written, written_append, written_log, String.empty_append,
    answered, answer, written_append, written_shownTrees, answerText, String.append_assoc]
  cases options.timing with
  | true => simp [written]
  | false => simp [written]

/-- The answers to lines, one after the other, given the trees of all sentences. -/
theorem written_linesEvents (options : ParseOptions) (threshold : Threshold) (elapsed : String)
    {treesOf : List String → List Tree} {grammar : Grammar}
    (answers : ∀ session : Session, session.parser.grammar = grammar → ∀ words,
      (session.parse threshold { words }).analysis = .trees (treesOf words))
    (session : Session) (same : session.parser.grammar = grammar) (lines : List (Nat × List Char)) :
    written (linesEvents options threshold elapsed session lines) =
      String.join ((lines.filterMap fun (_, line) => lineWords? line).map fun words =>
        answerText options elapsed words (treesOf words)) := by
  induction lines generalizing session with
  | nil => rfl
  | cons line others inductionHypothesis =>
    obtain ⟨number, line⟩ := line
    cases blank : lineWords? line with
    | none =>
      simp only [linesEvents, blank, List.filterMap_cons]
      exact inductionHypothesis session same
    | some words =>
      have kept : (session.parse threshold { words }).session.parser = session.parser :=
        session.parser_respond (.parse threshold { words })
      simp only [linesEvents, blank, List.filterMap_cons, List.map_cons, String.join_cons,
        written_append]
      rw [written_sentenceEvents _ _ _ _ _ (answers session same words),
        inductionHypothesis _ (kept ▸ same)]

/-- The trees of sentences that no word stops, the same for every session with a parser. -/
theorem exists_treesOf (grammar : Grammar) :
    ∃ treesOf : List String → List Tree, ∀ (threshold : Threshold) (session : Session),
      session.parser.grammar = grammar → ∀ words,
        (session.parse threshold { words }).analysis = .trees (treesOf words) := by
  have each (words : List String) : ∃ trees, ∀ (threshold : Threshold) (session : Session),
      session.parser.grammar = grammar →
        (session.parse threshold { words }).analysis = .trees trees := by
    obtain ⟨charts, trees, undisturbed⟩ := Session.exists_undisturbed grammar { words }
    refine ⟨trees, fun threshold session same => ?_⟩
    subst same
    exact undisturbed.answers threshold
  choose treesOf answers using each
  exact ⟨treesOf, fun threshold session same words => answers words threshold session same⟩

/-- What a parse command writes when its grammar and its sentences are there. -/
theorem parse_output (options : ParseOptions) {threshold : Threshold} (logFile : Option String)
    {files : Files} (elapsed : String) {grammarPath sentencesPath text : String} {parser : Parser}
    {treesOf : List String → List Tree}
    (answers : ∀ session : Session, session.parser.grammar = parser.grammar → ∀ words,
      (session.parse threshold { words }).analysis = .trees (treesOf words))
    (opened : (openGrammar grammarPath (files grammarPath)).result = .ok parser)
    (found : files sentencesPath = .ok text) :
    let invocation : Invocation := ⟨.parse grammarPath sentencesPath options, threshold, logFile⟩
    let outcome := (invocation.script files elapsed).perform none
    outcome.failure = none ∧
      outcome.output = (String.join ((sentencesOf text).map fun words =>
        answerText options elapsed words (treesOf words))).toUTF8 := by
  intro invocation outcome
  have script : invocation.script files elapsed =
      ⟨logged threshold (openGrammar grammarPath (files grammarPath)).log ++
        (linesEvents options threshold elapsed (.start parser) (numberedLines text.toList) ++
          [.flush]), none⟩ := by
    simp only [script_eq_plan, invocation, Invocation.plan, Task.grammarPath, opened, taskScript,
      found]
  obtain ⟨output, failure⟩ := (invocation.script files elapsed).perform_unlimited
  refine ⟨failure.trans (congrArg Script.failure script), output.trans ?_⟩
  rw [script, written_append, written_append, written_logged, String.empty_append,
    written_linesEvents options threshold elapsed answers (.start parser) rfl, sentencesOf]
  simp [written]

/-- A parse that is not cancelled comes to the reconstructions of the rows of whole analyses, ranked by
weight and then by age. In a grammar without empty bodies and empty terminals the first tree of a
sentence with a derivation is by a heaviest production of all derivations. Asking for the best trees
only takes all trees but the first from every answer of the parse command. -/
theorem ranking_and_best (session : Session) :
    (∀ (threshold : Threshold) (sentence : Sentence),
      ((session.parse threshold sentence).analysis = .cancelled ∧
        ∃ position, sentence.raisesStop position = true) ∨
      ∃ trees, (session.parse threshold sentence).analysis = .trees trees ∧
        (∃ charts ranked build,
          Session.Ranked session.parser.grammar sentence charts ranked build trees) ∧
        (session.parser.grammar.Wordful →
          Nonempty (Derivation session.parser.grammar sentence.words [.root] 0
            sentence.words.length) →
          ∃ best others, trees = best :: others ∧
            IsGreatest (Session.rootWeights session.parser.grammar sentence.words) best.weight)) ∧
    ∃ treesOf : List String → List Tree,
      (∀ threshold words,
        (session.parse threshold { words }).analysis = .trees (treesOf words)) ∧
      ∀ (grammarPath sentencesPath : String) (format : TreeFormat) (threshold : Threshold)
        (logFile : Option String) (files : Files) (elapsed text : String),
        (openGrammar grammarPath (files grammarPath)).result = .ok session.parser →
        files sentencesPath = .ok text →
        ∀ best : Bool,
          let invocation : Invocation :=
            ⟨.parse grammarPath sentencesPath ⟨format, best, false⟩, threshold, logFile⟩
          let outcome := (invocation.script files elapsed).perform none
          outcome.failure = none ∧
            outcome.output = (String.join ((sentencesOf text).map fun words =>
              header words ++ shownText format words
                (if best then (treesOf words).take 1 else treesOf words))).toUTF8 := by
  constructor
  · intro threshold sentence
    rcases session.parse_cases threshold sentence with stopped | ⟨_, trees, same, _⟩
    · exact .inl stopped
    · exact .inr ⟨trees, same, session.exists_ranked_of_trees threshold same,
        session.first_heaviest_of_wordful threshold same⟩
  · obtain ⟨treesOf, answers⟩ := exists_treesOf session.parser.grammar
    refine ⟨treesOf, fun threshold => answers threshold session rfl, ?_⟩
    intro grammarPath sentencesPath format threshold logFile files elapsed text opened found best
    have output := parse_output ⟨format, best, false⟩ logFile elapsed (answers threshold) opened
      found
    simpa [answerText] using output

/-! ## A word with two analyses -/

theorem openGrammar_of_load {path text : String} {loading : Loading} {parser : Parser}
    (loaded : Grammar.load text = .ok loading) (same : parser.grammar = loading.grammar) :
    (openGrammar path (.ok text)).result = .ok parser := by
  have covered : loading.grammar.missingRule? = none := same ▸ parser.covered
  have accepted : Parser.ofGrammar loading.grammar = .ok parser := by
    unfold Parser.ofGrammar
    split
    case h_1 => simp only [← same]
    case h_2 missing found => exact nomatch covered.symm.trans found
  simp only [openGrammar, loaded, accepted]

/-- A text in which a word has two analyses, the later one with the higher weight. -/
def twofoldText : String := "ROOT -> UNKNOWN [1] | WORD [2]\nWORD : so\n"

/-- The parser of that text. -/
def twofold : Parser where
  grammar := (((Grammar.empty.register .terminal "WORD").2.classify "so" ⟨2⟩).2.addProduction
    ⟨.root, [.unknown], 1, ""⟩).addProduction ⟨.root, [⟨2⟩], 2, ""⟩
  covered := by decide +kernel

theorem load_twofold : Grammar.load twofoldText = .ok ⟨twofold.grammar, #[]⟩ := by
  have read : GrammarText.readDocument twofoldText.toList =
      .ok [⟨1, .rule "ROOT" [⟨["UNKNOWN"], some 1, none⟩, ⟨["WORD"], some 2, none⟩]⟩,
        ⟨2, .lexicon "WORD" ["so"]⟩] := by
    decide +kernel
  unfold Grammar.load
  rw [read]
  rfl

def heavierTree : Tree := ⟨"ROOT", "ROOT", 2, "", [⟨"so", "WORD", 0, "", []⟩]⟩

def lighterTree : Tree := ⟨"ROOT", "ROOT", 1, "", [⟨"so", "UNKNOWN", 0, "", []⟩]⟩

theorem parse_twofold : ((Session.start twofold).parse .off { words := ["so"] }).analysis =
    .trees [heavierTree, lighterTree] := by
  unfold Session.parse Charts.rankedTrees?
  rw [Tree.ranked_eq_insertionSort]
  decide +kernel

theorem parse_twofold_nil :
    ((Session.start twofold).parse .off { words := ["so", "on"] }).analysis = .trees [] := by
  decide +kernel

theorem treesOf_twofold {treesOf : List String → List Tree}
    (answers : ∀ words, ((Session.start twofold).parse .off { words }).analysis =
      .trees (treesOf words)) :
    treesOf ["so"] = [heavierTree, lighterTree] ∧ treesOf ["so", "on"] = [] :=
  ⟨Analysis.trees.inj ((answers ["so"]).symm.trans parse_twofold),
    Analysis.trees.inj ((answers ["so", "on"]).symm.trans parse_twofold_nil)⟩

/-- Files with that text and a text of sentences. -/
def twofoldFiles (sentences : String) : Files :=
  fun path => .ok (if path = "grammar" then twofoldText else sentences)

/-- What a parse command does with these files. -/
def twofoldScript (options : ParseOptions) (sentences : String) : Script :=
  (⟨.parse "grammar" "sentences" options, .off, none⟩ : Invocation).script (twofoldFiles sentences)
    "2.5ms"

theorem twofoldScript_output (options : ParseOptions) (sentences : String)
    {treesOf : List String → List Tree}
    (answers : ∀ session : Session, session.parser.grammar = twofold.grammar → ∀ words,
      (session.parse .off { words }).analysis = .trees (treesOf words)) :
    ((twofoldScript options sentences).perform none).failure = none ∧
      ((twofoldScript options sentences).perform none).output =
        (String.join ((sentencesOf sentences).map fun words =>
          answerText options "2.5ms" words (treesOf words))).toUTF8 :=
  parse_output options none "2.5ms" answers (openGrammar_of_load load_twofold rfl) rfl

theorem ranking_and_best_twofold :
    (openGrammar "grammar" (.ok twofoldText)).result = .ok twofold ∧
    ((Session.start twofold).parse .off { words := ["so"] }).analysis =
      .trees [heavierTree, lighterTree] ∧
    IsGreatest (Session.rootWeights twofold.grammar ["so"]) 2 ∧
    (((twofoldScript ⟨.bracketed, false, false⟩ "so\n\nso on\n").perform none).failure = none ∧
      ((twofoldScript ⟨.bracketed, false, false⟩ "so\n\nso on\n").perform none).output =
        "# so\n(ROOT (WORD so))\n(ROOT (UNKNOWN so))\n# so on\n(NOPARSE so on)\n".toUTF8) ∧
    (((twofoldScript ⟨.bracketed, true, false⟩ "so\n\nso on\n").perform none).failure = none ∧
      ((twofoldScript ⟨.bracketed, true, false⟩ "so\n\nso on\n").perform none).output =
        "# so\n(ROOT (WORD so))\n# so on\n(NOPARSE so on)\n".toUTF8) := by
  have opened : (openGrammar "grammar" (.ok twofoldText)).result = .ok twofold :=
    openGrammar_of_load load_twofold rfl
  obtain ⟨trees, treesOf, answers, outputs⟩ := ranking_and_best (.start twofold)
  obtain ⟨found, nothing⟩ := treesOf_twofold (answers .off)
  have sentences : sentencesOf "so\n\nso on\n" = [["so"], ["so", "on"]] := by decide +kernel
  have output (best : Bool) := outputs "grammar" "sentences" .bracketed .off none
    (twofoldFiles "so\n\nso on\n") "2.5ms" "so\n\nso on\n" opened rfl best
  have greatest : IsGreatest (Session.rootWeights twofold.grammar ["so"]) 2 := by
    have wordful : twofold.grammar.Wordful := by decide +kernel
    have derivation : Derivation twofold.grammar ["so"] [.root] 0 1 :=
      .phrase ⟨.root, [.unknown], 1, ""⟩ (by decide) (by decide +kernel)
        (.word "so" (by decide) rfl (.inr rfl) (.done 1)) (.done 1)
    rcases trees .off { words := ["so"] } with ⟨cancelled, _⟩ | ⟨_, same, _, greatest⟩
    · exact nomatch cancelled.symm.trans parse_twofold
    · obtain rfl := Analysis.trees.inj (same.symm.trans parse_twofold)
      obtain ⟨best, others, first, isGreatest⟩ := greatest wordful ⟨derivation⟩
      obtain rfl := (List.cons.inj first).1
      exact isGreatest
  simp only [sentences, List.map_cons, List.map_nil, found, nothing] at output
  refine ⟨opened, parse_twofold, greatest, ?_, ?_⟩
  · refine ⟨(output false).1, (output false).2.trans (congrArg String.toUTF8 ?_)⟩
    decide +kernel
  · refine ⟨(output true).1, (output true).2.trans (congrArg String.toUTF8 ?_)⟩
    decide +kernel

end ChartParsing.Command
