import ChartParsing.Grammar.Loading
import ChartParsing.Proofs.Symbol.Table

/-!
Contract: what the lines of a grammar text say, apart from the order in which a loader comes by it.

Owns the names that stand for terminal symbols and those that stand for phrase symbols, the
alternatives of a head, the category of a word, the first contradiction between lines about the kind of
a name, and the warnings about words that are put into another category. `Describes` says that a
grammar is what the lines say.
-/

set_option autoImplicit false

namespace ChartParsing

namespace GrammarText

/-- The name that a line makes a symbol of a kind. -/
def Line.named : SymbolKind → Line → Option String
  | .terminal, .lexicon category _ => some category
  | .phrase, .rule head _ => some head
  | .terminal, .rule _ _ => none
  | .phrase, .lexicon _ _ => none

/-- The alternatives of a line, each with the head that it belongs to. -/
def Line.said : Line → List (String × Alternative)
  | .rule head alternatives => alternatives.map fun alternative => (head, alternative)
  | .lexicon _ _ => []

/-- A word with the category and the number of the line that lists it. -/
structure Entry where
  number : Nat
  category : String
  word : String
deriving DecidableEq, Repr

def NumberedLine.entries (numbered : NumberedLine) : List Entry :=
  match numbered.line with
  | .lexicon category words => words.map fun word => ⟨numbered.number, category, word⟩
  | .rule _ _ => []

section Lines

variable (lines : List NumberedLine)

def named (kind : SymbolKind) : List String :=
  lines.filterMap fun numbered => numbered.line.named kind

def said : List (String × Alternative) :=
  lines.flatMap fun numbered => numbered.line.said

def entries : List Entry :=
  lines.flatMap NumberedLine.entries

/-- The names that stand for terminal symbols: the reserved ones and the categories of lexicon lines. -/
def lexicalNames : List String :=
  SymbolTable.reserved.names .terminal ++ named lines .terminal

/-- The names in the bodies of alternatives. -/
def bodyNames : List String :=
  (said lines).flatMap fun pair => pair.2.symbols

/-- The names that stand for symbols of a kind. -/
def symbolNames : SymbolKind → List String
  | .terminal => lexicalNames lines
  | .phrase => (SymbolTable.reserved.names .phrase ++ named lines .phrase ++ bodyNames lines).filter
      fun name => name ∉ lexicalNames lines

/-- The alternatives of a head, in the order of the text. -/
def alternativesOf (head : String) : List Alternative :=
  ((said lines).filter fun pair => pair.1 = head).map Prod.snd

end Lines

theorem mem_named {lines : List NumberedLine} {kind : SymbolKind} {name : String}
    {numbered : NumberedLine} (member : numbered ∈ lines)
    (isNamed : numbered.line.named kind = some name) : name ∈ named lines kind :=
  List.mem_filterMap.2 ⟨numbered, member, isNamed⟩

theorem head_mem_named {lines : List NumberedLine} {pair : String × Alternative}
    (isSaid : pair ∈ said lines) : pair.1 ∈ named lines .phrase := by
  obtain ⟨⟨number, line⟩, member, inLine⟩ := List.mem_flatMap.1 isSaid
  cases line with
  | lexicon category words => exact absurd inLine List.not_mem_nil
  | rule head alternatives =>
    obtain ⟨alternative, _, rfl⟩ := List.mem_map.1 inLine
    exact mem_named member rfl

theorem mem_lexicalNames {lines : List NumberedLine} {name : String} :
    name ∈ lexicalNames lines ↔ name ∈ SymbolTable.reserved.names .terminal ∨ name ∈ named lines .terminal :=
  List.mem_append

theorem mem_phraseNames {lines : List NumberedLine} {name : String} :
    name ∈ symbolNames lines .phrase ↔
      (name ∈ SymbolTable.reserved.names .phrase ∨ name ∈ named lines .phrase ∨ name ∈ bodyNames lines) ∧
        name ∉ lexicalNames lines := by
  show name ∈ List.filter _ _ ↔ _
  rw [List.mem_filter, List.mem_append, List.mem_append, or_assoc, decide_eq_true_iff]

/-! ## Words -/

/-- The category of a word, which is that of its last entry. -/
def categoryOf? (entries : List Entry) (word : String) : Option String :=
  ((entries.filter fun entry => entry.word = word).getLast?).map Entry.category

/-- The warning about an entry whose word has another category by the entries before. -/
def reclassification? (earlier : List Entry) (entry : Entry) : Option LogRecord :=
  match categoryOf? earlier entry.word with
  | none => none
  | some previous =>
    if previous = entry.category then none
    else some ⟨.warn,
      s!"Line {entry.number}: word '{entry.word}' reclassified from {previous} to {entry.category}"⟩

/-- The warnings about entries that follow other entries. -/
def reclassifications (earlier : List Entry) : List Entry → List LogRecord
  | [] => []
  | entry :: later =>
    (reclassification? earlier entry).toList ++ reclassifications (earlier ++ [entry]) later

theorem categoryOf?_concat (entries : List Entry) (entry : Entry) (word : String) :
    categoryOf? (entries ++ [entry]) word =
      if entry.word = word then some entry.category else categoryOf? entries word := by
  unfold categoryOf?
  rw [List.filter_append, List.filter_singleton]
  by_cases same : entry.word = word
  · rw [if_pos same, decide_eq_true same, cond_true, List.getLast?_concat]
    rfl
  · rw [if_neg same, decide_eq_false same, cond_false, List.append_nil]

theorem reclassifications_concat (earlier later : List Entry) (entry : Entry) :
    reclassifications earlier (later ++ [entry]) =
      reclassifications earlier later ++ (reclassification? (earlier ++ later) entry).toList := by
  induction later generalizing earlier with
  | nil => simp [reclassifications]
  | cons first others inductionHypothesis =>
    rw [List.cons_append, reclassifications, reclassifications, inductionHypothesis,
      List.append_assoc, List.append_assoc, List.singleton_append]

example : reclassifications [] [⟨1, "A", "a"⟩, ⟨2, "B", "a"⟩, ⟨3, "B", "a"⟩] =
    [⟨.warn, "Line 2: word 'a' reclassified from A to B"⟩] := by
  decide

/-! ## Contradictions -/

/-- The error of a line that makes a name a symbol of a kind although the name is taken. -/
def conflictWith (taken : List String) (kind : SymbolKind) (numbered : NumberedLine) :
    Option LoadError :=
  match numbered.line.named kind with
  | none => none
  | some name =>
    if name ∈ taken then some (.symbol numbered.number (.kindConflict name kind.other)) else none

/-- The first contradiction about the kind of a name: a lexicon line for a reserved phrase symbol, or
else a rule line whose head stands for a terminal symbol. -/
def conflict? (lines : List NumberedLine) : Option LoadError :=
  (lines.findSome? (conflictWith (SymbolTable.reserved.names .phrase) .terminal)).or
    (lines.findSome? (conflictWith (lexicalNames lines) .phrase))

/-- Some line puts words into the root symbol, or gives alternatives to a terminal symbol. -/
def Contradictory (lines : List NumberedLine) : Prop :=
  (∃ number words, ⟨number, .lexicon "ROOT" words⟩ ∈ lines) ∨
    ∃ number head alternatives, ⟨number, .rule head alternatives⟩ ∈ lines ∧ head ∈ lexicalNames lines

theorem findSome?_conflictWith_isSome {taken : List String} {kind : SymbolKind}
    {lines : List NumberedLine} :
    (lines.findSome? (conflictWith taken kind)).isSome = true ↔
      ∃ numbered ∈ lines, ∃ name ∈ taken, numbered.line.named kind = some name := by
  rw [List.findSome?_isSome_iff]
  refine exists_congr fun numbered => and_congr_right fun _ => ?_
  unfold conflictWith
  cases named : numbered.line.named kind with
  | none => simp
  | some name =>
    by_cases member : name ∈ taken
    · simp [member]
    · simp [member]

theorem Line.named_terminal_iff {line : Line} {name : String} :
    line.named .terminal = some name ↔ ∃ words, line = .lexicon name words := by
  cases line with
  | rule head alternatives => simp [named]
  | lexicon category words => simp [named]

theorem Line.named_phrase_iff {line : Line} {name : String} :
    line.named .phrase = some name ↔ ∃ alternatives, line = .rule name alternatives := by
  cases line with
  | rule head alternatives => simp [named]
  | lexicon category words => simp [named]

theorem conflict?_isSome_iff {lines : List NumberedLine} :
    (conflict? lines).isSome = true ↔ Contradictory lines := by
  unfold conflict?
  rw [Option.isSome_or, Bool.or_eq_true, findSome?_conflictWith_isSome, findSome?_conflictWith_isSome]
  refine or_congr ?_ ?_
  · constructor
    · intro ⟨⟨number, line⟩, member, name, taken, named⟩
      obtain rfl : name = "ROOT" := List.mem_singleton.1 taken
      obtain ⟨words, rfl⟩ := Line.named_terminal_iff.1 named
      exact ⟨number, words, member⟩
    · intro ⟨number, words, member⟩
      exact ⟨_, member, "ROOT", List.mem_singleton_self _, rfl⟩
  · constructor
    · intro ⟨⟨number, line⟩, member, head, lexical, named⟩
      obtain ⟨alternatives, rfl⟩ := Line.named_phrase_iff.1 named
      exact ⟨number, head, alternatives, member, lexical⟩
    · intro ⟨number, head, alternatives, member, lexical⟩
      exact ⟨_, member, head, lexical, rfl⟩

/-- A head is reported where it stands, although the line that makes it lexical comes later. -/
example : conflict? [⟨1, .rule "ROOT" []⟩, ⟨2, .rule "A" []⟩, ⟨3, .lexicon "A" ["a"]⟩] =
    some (.symbol 2 (.kindConflict "A" .terminal)) := by
  decide

end GrammarText

open GrammarText

/-! ## Grammars that are what the lines say -/

/-- A line is given up because there are more names of a kind than symbols. -/
def OutOfNumbers (lines : List NumberedLine) (rejection : Rejection) : Prop :=
  ∃ kind number, rejection.cause = .symbol number kind.exhausted ∧
    kind.room < (symbolNames lines kind).dedup.length

/-- A production is made of an alternative: of the symbols of its names, its weight or else 0, and its
note or else the empty text. -/
structure MadeOf (symbols : SymbolTable) (alternative : Alternative) (production : Production) :
    Prop where
  body : alternative.symbols.map symbols.symbol? = production.body.map some
  weight : production.weight = alternative.weight.getD 0
  note : production.note = alternative.note.getD ""

/-- A grammar, with what was logged while it was loaded, is what the lines say. -/
structure Describes (lines : List NumberedLine) (loading : Loading) : Prop where
  reserved : SymbolTable.reserved.Extends loading.grammar.symbols
  names : ∀ kind name, name ∈ loading.grammar.symbols.names kind ↔ name ∈ symbolNames lines kind
  /-- A name that a line mentions has a symbol, which is terminal exactly if the name is lexical. -/
  mentioned : ∀ name, name ∈ named lines .phrase ∨ name ∈ named lines .terminal ∨ name ∈ bodyNames lines →
    ∃ symbol, loading.grammar.symbols.symbol? name = some symbol ∧
      (symbol.isTerminal = true ↔ name ∈ lexicalNames lines)
  distinct : ∀ name other symbol, loading.grammar.symbols.symbol? name = some symbol →
    loading.grammar.symbols.symbol? other = some symbol → name = other
  /-- The productions of a head are its alternatives, in the order of the text. -/
  productions : ∀ head symbol, loading.grammar.symbols.symbol? head = some symbol →
    List.Forall₂ (MadeOf loading.grammar.symbols) (alternativesOf lines head)
      (loading.grammar.productionsOf symbol)
  /-- Only heads have productions. -/
  productive : ∀ symbol, loading.grammar.productionsOf symbol ≠ [] →
    ∃ head ∈ named lines .phrase, loading.grammar.symbols.symbol? head = some symbol
  listed : ∀ word category, categoryOf? (entries lines) word = some category →
    loading.grammar.symbols.symbol? category = some (loading.grammar.wordCategory word)
  unlisted : ∀ word, categoryOf? (entries lines) word = none →
    loading.grammar.wordCategory word = .unknown
  warnings : (loading.log.toList.filter fun record => record.severity = .warn) =
    reclassifications [] (entries lines)

end ChartParsing
