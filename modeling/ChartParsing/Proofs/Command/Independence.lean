import ChartParsing.Proofs.Command.Answers
import ChartParsing.Proofs.Sentence.Runs

/-!
Contract: the independence of the sentences of a file.

Owns what each line of a file of sentences adds to the output of the parse command. A line of blanks adds
nothing. Any other line has words, and adds them with their trees or with the note that they have none;
the trees of the same words are the same in every line of every file. So two files one after the other
are answered by the answers to the two, when the first ends with its last line.
-/

set_option autoImplicit false

namespace ChartParsing.Command

open ChartParsing.Text

/-! ## Lines -/

theorem lineWords?_eq_none_iff {line : List Char} :
    lineWords? line = none ↔ ∀ character ∈ line, isBlank character = true := by
  rw [← trim_eq_nil_iff]
  cases trimmed : trim line with
  | nil => simp [lineWords?, trimmed]
  | cons first others => simp [lineWords?, trimmed]

/-- A line that is not blank has words. -/
theorem lineWords?_eq_some_iff {line : List Char} {words : List String} :
    lineWords? line = some words ↔ words = Sentence.tokens (String.ofList line) ∧ words ≠ [] := by
  have nothing : Sentence.tokens (String.ofList line) = [] ↔ trim line = [] := by
    rw [Sentence.tokens_eq_nil_iff, String.toList_ofList]
  cases trimmed : trim line with
  | nil =>
    have noWords := nothing.2 trimmed
    simp [lineWords?, trimmed, noWords]
  | cons first others =>
    have someWords : Sentence.tokens (String.ofList line) ≠ [] := by
      rw [ne_eq, nothing, trimmed]
      exact List.cons_ne_nil _ _
    simp only [lineWords?, trimmed, Option.some.injEq]
    constructor
    · rintro rfl
      exact ⟨rfl, someWords⟩
    · exact fun same => same.1.symm

theorem sentencesOf_eq (text : String) :
    sentencesOf text = (lines text.toList).filterMap lineWords? := by
  rw [sentencesOf, ← map_numberedLines, List.filterMap_map]
  rfl

/-! ## Answers -/

/-- What a line adds to the output, given the trees of all sentences. -/
def lineText (options : ParseOptions) (elapsed : String) (treesOf : List String → List Tree)
    (line : List Char) : String :=
  match lineWords? line with
  | none => ""
  | some words => answerText options elapsed words (treesOf words)

section LineText

variable {options : ParseOptions} {elapsed : String} {treesOf : List String → List Tree}

theorem join_answers (lines : List (List Char)) :
    String.join ((lines.filterMap lineWords?).map fun words =>
        answerText options elapsed words (treesOf words)) =
      String.join (lines.map (lineText options elapsed treesOf)) := by
  induction lines with
  | nil => rfl
  | cons line others inductionHypothesis =>
    rw [List.map_cons, String.join_cons, ← inductionHypothesis]
    cases words : lineWords? line with
    | none => simp [lineText, words]
    | some found => simp [lineText, words]

theorem lineText_of_blank {line : List Char} (blank : ∀ character ∈ line, isBlank character = true) :
    lineText options elapsed treesOf line = "" := by
  rw [lineText, lineWords?_eq_none_iff.2 blank]

theorem lineText_of_not_blank (options : ParseOptions) (elapsed : String)
    (treesOf : List String → List Tree) {line : List Char}
    (someChar : ∃ character ∈ line, isBlank character = false) :
    let words := Sentence.tokens (String.ofList line)
    words ≠ [] ∧
      lineText options elapsed treesOf line = answerText options elapsed words (treesOf words) := by
  obtain ⟨character, member, notBlank⟩ := someChar
  cases found : lineWords? line with
  | none =>
    have blank := lineWords?_eq_none_iff.1 found character member
    exact absurd (notBlank.symm.trans blank) Bool.false_ne_true
  | some words =>
    obtain ⟨rfl, someWords⟩ := lineWords?_eq_some_iff.1 found
    exact ⟨someWords, by rw [lineText, found]⟩

end LineText

/-! ## The text of an answer -/

section AnswerText

variable (options : ParseOptions) (elapsed : String) {words : List String}

/-- What an answer begins with: the words behind a sharp sign, and the time if that is asked for. -/
theorem answer_beginning (words : List String) :
    header words ++ (if options.timing then timingLine elapsed else "") =
      "# " ++ " ".intercalate words ++ "\n" ++
        (if options.timing then "# parsed in " ++ elapsed ++ "\n" else "") :=
  rfl

/-- Words without trees are shown again, in a note. -/
theorem answerText_nil (someWords : words ≠ []) :
    answerText options elapsed words [] =
      "# " ++ " ".intercalate words ++ "\n" ++
        (if options.timing then "# parsed in " ++ elapsed ++ "\n" else "") ++
        ("(NOPARSE " ++ " ".intercalate words ++ ")\n") := by
  have nothing : (if options.best then [].take 1 else []) = ([] : List Tree) := by simp
  have note : shownText options.format words [] = "(NOPARSE " ++ " ".intercalate words ++ ")\n" := by
    cases words with
    | nil => exact absurd rfl someWords
    | cons first others => exact String.append_assoc
  rw [answerText, nothing, note, answer_beginning]

theorem answerText_cons (words : List String) (best : Tree) (others : List Tree) :
    answerText options elapsed words (best :: others) =
      "# " ++ " ".intercalate words ++ "\n" ++
        (if options.timing then "# parsed in " ++ elapsed ++ "\n" else "") ++
        Tree.writtenAll options.format (best :: if options.best then [] else others) := by
  rw [answerText, answer_beginning]
  cases options.best with
  | true => rfl
  | false => rfl

end AnswerText

/-! ## Runs -/

/-- Files in which a parse command finds a grammar and a text of sentences. -/
structure Finds (parser : Parser) (grammarPath sentencesPath text : String) (files : Files) :
    Prop where
  opened : (openGrammar grammarPath (files grammarPath)).result = .ok parser
  found : files sentencesPath = .ok text

/-- The parse command answers line by line. -/
theorem Finds.output {parser : Parser} {grammarPath sentencesPath text : String} {files : Files}
    (finds : Finds parser grammarPath sentencesPath text files) (options : ParseOptions)
    {threshold : Threshold} (logFile : Option String) (elapsed : String)
    {treesOf : List String → List Tree}
    (answers : ∀ session : Session, session.parser.grammar = parser.grammar → ∀ words,
      (session.parse threshold { words }).analysis = .trees (treesOf words)) :
    let invocation : Invocation := ⟨.parse grammarPath sentencesPath options, threshold, logFile⟩
    let outcome := (invocation.script files elapsed).perform none
    outcome.failure = none ∧
      outcome.output =
        (String.join ((lines text.toList).map (lineText options elapsed treesOf))).toUTF8 := by
  have output := parse_output options logFile elapsed answers finds.opened finds.found
  rwa [sentencesOf_eq, join_answers] at output

theorem join_map_lines_append (textOf : List Char → String) {first : String}
    (ends : first = "" ∨ ∃ before, first = before ++ "\n") (second : String) :
    String.join ((lines (first ++ second).toList).map textOf) =
      String.join ((lines first.toList).map textOf) ++
        String.join ((lines second.toList).map textOf) := by
  have endsLine : first.toList = [] ∨ ∃ before, first.toList = before ++ ['\n'] := by
    rcases ends with rfl | ⟨before, rfl⟩
    · exact .inl rfl
    · exact .inr ⟨before.toList, String.toList_append⟩
  rw [String.toList_append, lines_append endsLine, List.map_append, String.join_append]

/-- The parse command answers each line of the sentences by itself. Whatever was parsed before, the
trees of a line are those of its words in the grammar, heaviest first. A line of blanks adds nothing to
the output; any other line has words and adds a line with them, and then its trees or, if it has none, a
note with the same words. So the output for two texts one after the other is the output for the first and
then that for the second, when the first is empty or ends in a line feed. -/
theorem sentences_are_independent (parser : Parser) :
    ∃ treesOf : List String → List Tree,
      (∀ (session : Session) (threshold : Threshold) (words : List String),
        session.parser.grammar = parser.grammar →
        (session.parse threshold { words }).analysis = .trees (treesOf words) ∧
          (treesOf words).Pairwise fun left right => right.weight ≤ left.weight) ∧
      ∀ (options : ParseOptions) (elapsed : String), ∃ textOf : List Char → String,
        (∀ line, (∀ character ∈ line, isBlank character = true) → textOf line = "") ∧
        (∀ line, (∃ character ∈ line, isBlank character = false) →
          let words := Sentence.tokens (String.ofList line)
          let beginning := "# " ++ " ".intercalate words ++ "\n" ++
            (if options.timing then "# parsed in " ++ elapsed ++ "\n" else "")
          words ≠ [] ∧
            (treesOf words = [] →
              textOf line = beginning ++ ("(NOPARSE " ++ " ".intercalate words ++ ")\n")) ∧
            ∀ best others, treesOf words = best :: others →
              textOf line = beginning ++
                Tree.writtenAll options.format (best :: if options.best then [] else others)) ∧
        ∀ (grammarPath sentencesPath : String) (threshold : Threshold) (logFile : Option String),
          let invocation : Invocation :=
            ⟨.parse grammarPath sentencesPath options, threshold, logFile⟩
          let outcome (files : Files) := (invocation.script files elapsed).perform none
          (∀ files text, Finds parser grammarPath sentencesPath text files →
            (outcome files).failure = none ∧
              (outcome files).output =
                (String.join ((lines text.toList).map textOf)).toUTF8) ∧
          ∀ first second, (first = "" ∨ ∃ before, first = before ++ "\n") →
            ∀ files firstFiles secondFiles,
              Finds parser grammarPath sentencesPath (first ++ second) files →
              Finds parser grammarPath sentencesPath first firstFiles →
              Finds parser grammarPath sentencesPath second secondFiles →
              (outcome files).output =
                (outcome firstFiles).output ++ (outcome secondFiles).output := by
  obtain ⟨treesOf, answers⟩ := exists_treesOf parser.grammar
  refine ⟨treesOf, ?_, ?_⟩
  · intro session threshold words same
    have answered := answers threshold session same words
    obtain ⟨charts, ranked, build, isRanked⟩ := session.exists_ranked_of_trees threshold answered
    exact ⟨answered, isRanked.pairwise⟩
  intro options elapsed
  refine ⟨lineText options elapsed treesOf, fun line => lineText_of_blank, ?_, ?_⟩
  · intro line someChar words beginning
    obtain ⟨someWords, text⟩ := lineText_of_not_blank options elapsed treesOf someChar
    refine ⟨someWords, fun noTrees => ?_, fun best others trees => ?_⟩
    · rw [text, noTrees]
      exact answerText_nil options elapsed someWords
    · rw [text, trees]
      exact answerText_cons options elapsed words best others
  intro grammarPath sentencesPath threshold logFile invocation outcome
  have output (files : Files) (text : String)
      (finds : Finds parser grammarPath sentencesPath text files) :=
    finds.output options logFile elapsed (answers threshold)
  refine ⟨output, ?_⟩
  intro first second ends files firstFiles secondFiles both onFirst onSecond
  calc (outcome files).output
      = (String.join ((lines (first ++ second).toList).map
          (lineText options elapsed treesOf))).toUTF8 := (output files _ both).2
    _ = (String.join ((lines first.toList).map (lineText options elapsed treesOf))).toUTF8 ++
          (String.join ((lines second.toList).map
            (lineText options elapsed treesOf))).toUTF8 := by
        rw [join_map_lines_append _ ends]
        exact String.toByteArray_append
    _ = (outcome firstFiles).output ++ (outcome secondFiles).output := by
        rw [(output firstFiles _ onFirst).2, (output secondFiles _ onSecond).2]

theorem finds_twofold (text : String) :
    Finds twofold "grammar" "sentences" text (twofoldFiles text) :=
  ⟨openGrammar_of_load load_twofold rfl, rfl⟩

/-- A line with two trees, a line of blanks and a line without trees, at once and apart. -/
theorem sentences_are_independent_twofold :
    (Finds twofold "grammar" "sentences" "so\n\t\nso  on" (twofoldFiles "so\n\t\nso  on") ∧
      Finds twofold "grammar" "sentences" "so\n" (twofoldFiles "so\n") ∧
      Finds twofold "grammar" "sentences" "\t\nso  on" (twofoldFiles "\t\nso  on")) ∧
    ((twofoldScript ⟨.bracketed, false, true⟩ "so\n\t\nso  on").perform none).failure = none ∧
    ((twofoldScript ⟨.bracketed, false, true⟩ "so\n\t\nso  on").perform none).output =
      ((twofoldScript ⟨.bracketed, false, true⟩ "so\n").perform none).output ++
        ((twofoldScript ⟨.bracketed, false, true⟩ "\t\nso  on").perform none).output ∧
    ((twofoldScript ⟨.bracketed, false, true⟩ "so\n").perform none).output =
      "# so\n# parsed in 2.5ms\n(ROOT (WORD so))\n(ROOT (UNKNOWN so))\n".toUTF8 ∧
    ((twofoldScript ⟨.bracketed, false, true⟩ "\t\nso  on").perform none).output =
      "# so on\n# parsed in 2.5ms\n(NOPARSE so on)\n".toUTF8 := by
  obtain ⟨treesOf, answers, texts⟩ := sentences_are_independent twofold
  obtain ⟨textOf, blank, shown, outputs⟩ := texts ⟨.bracketed, false, true⟩ "2.5ms"
  obtain ⟨output, joined⟩ := outputs "grammar" "sentences" .off none
  obtain ⟨found, nothing⟩ :=
    treesOf_twofold fun words => (answers (.start twofold) .off words rfl).1
  have first : textOf "so".toList =
      "# so\n# parsed in 2.5ms\n(ROOT (WORD so))\n(ROOT (UNKNOWN so))\n" := by
    have tokens : Sentence.tokens (String.ofList "so".toList) = ["so"] := by decide +kernel
    obtain ⟨_, _, withTrees⟩ := shown "so".toList ⟨'s', by decide +kernel, by decide +kernel⟩
    rw [tokens] at withTrees
    rw [withTrees _ _ found]
    decide +kernel
  have second : textOf "\t".toList = "" :=
    blank _ (List.all_eq_true.1 (by decide +kernel : "\t".toList.all isBlank = true))
  have third : textOf "so  on".toList = "# so on\n# parsed in 2.5ms\n(NOPARSE so on)\n" := by
    have tokens : Sentence.tokens (String.ofList "so  on".toList) = ["so", "on"] := by
      decide +kernel
    obtain ⟨_, withoutTrees, _⟩ :=
      shown "so  on".toList ⟨'s', by decide +kernel, by decide +kernel⟩
    rw [tokens] at withoutTrees
    rw [withoutTrees nothing]
    decide +kernel
  refine ⟨⟨finds_twofold _, finds_twofold _, finds_twofold _⟩, (output _ _ (finds_twofold _)).1,
    joined "so\n" "\t\nso  on" (.inr ⟨"so", rfl⟩) _ _ _ (finds_twofold _) (finds_twofold _)
      (finds_twofold _), ?_, ?_⟩
  · have isLines : lines "so\n".toList = ["so".toList] := by decide +kernel
    refine (output _ _ (finds_twofold "so\n")).2.trans (congrArg String.toUTF8 ?_)
    rw [isLines, List.map_singleton, first]
    rfl
  · have isLines : lines "\t\nso  on".toList = ["\t".toList, "so  on".toList] := by decide +kernel
    refine (output _ _ (finds_twofold "\t\nso  on")).2.trans (congrArg String.toUTF8 ?_)
    rw [isLines, List.map_cons, List.map_singleton, second, third]
    rfl

end ChartParsing.Command
