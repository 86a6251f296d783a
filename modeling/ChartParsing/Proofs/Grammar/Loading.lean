import ChartParsing.Proofs.Grammar.Registration
import ChartParsing.Proofs.Lists

/-!
Contract: what a grammar text is loaded as.

Owns the pass that adds words and productions to a loading in which the names of all lines are
registered. `Builds` is what the pass preserves, line by line; it can fail only for want of numbers.
-/

set_option autoImplicit false

namespace ChartParsing

open GrammarText

variable {lines : List NumberedLine}

/-! ## What has been added so far -/

/-- A production is made of an alternative and its head. -/
def Produced (symbols : SymbolTable) (pair : String × Alternative) (production : Production) : Prop :=
  symbols.symbol? pair.1 = some production.head ∧ MadeOf symbols pair.2 production

/-- A word's category has the symbol that the word is put into. -/
def Categorised (symbols : SymbolTable) (symbol : Symbol) (category : String) : Prop :=
  symbols.symbol? category = some symbol

/-- A loading in which every name of a line is registered, and to which the given alternatives and
words of the lines have been added. -/
structure Builds (lines : List NumberedLine) (added : List (String × Alternative))
    (words : List Entry) (loading : Loading) : Prop where
  reserved : SymbolTable.reserved.Extends loading.symbols
  terminals : ∀ name, name ∈ loading.symbols.names .terminal ↔ name ∈ lexicalNames lines
  heads : ∀ name ∈ named lines .phrase, name ∈ loading.symbols.names .phrase
  known : ∀ name ∈ loading.symbols.names .phrase, name ∈ symbolNames lines .phrase
  productions : List.Forall₂ (Produced loading.symbols) added loading.grammar.productions.toList
  categories : ∀ word, Option.Rel (Categorised loading.symbols) loading.grammar.lexicon[word]?
    (categoryOf? words word)
  warnings : (loading.log.toList.filter fun record => record.severity = .warn) =
    reclassifications [] words

section Growing

variable {symbols next : SymbolTable}

theorem map_symbol?_of_extends (grows : symbols.Extends next) {names : List String}
    {found : List Symbol} (resolved : names.map symbols.symbol? = found.map some) :
    names.map next.symbol? = found.map some := by
  rw [← List.forall₂_eq_eq_eq, List.forall₂_map_left_iff, List.forall₂_map_right_iff] at resolved ⊢
  exact resolved.imp fun name symbol => grows.symbol?

theorem Produced.extends_ (grows : symbols.Extends next) {pair : String × Alternative}
    {production : Production} (produced : Produced symbols pair production) :
    Produced next pair production :=
  ⟨grows.symbol? produced.1, map_symbol?_of_extends grows produced.2.body, produced.2.weight,
    produced.2.note⟩

theorem categorised_of_extends (grows : symbols.Extends next) {symbol? : Option Symbol}
    {category? : Option String} (categorised : Option.Rel (Categorised symbols) symbol? category?) :
    Option.Rel (Categorised next) symbol? category? := by
  cases categorised with
  | none => exact .none
  | some found => exact .some (grows.symbol? found)

end Growing

section Steps

variable {added : List (String × Alternative)} {words : List Entry} {loading : Loading}

/-- A loading stays what it is when more phrase symbols are registered and nothing is warned of. -/
theorem Builds.grown (builds : Builds lines added words loading) {symbols : SymbolTable}
    {log : Array LogRecord} (grows : loading.symbols.Extends symbols)
    (terminals : symbols.names .terminal = loading.symbols.names .terminal)
    (known : ∀ name ∈ symbols.names .phrase, name ∈ symbolNames lines .phrase)
    (quiet : (log.toList.filter fun record => record.severity = .warn) =
      loading.log.toList.filter fun record => record.severity = .warn) :
    Builds lines added words { grammar := { loading.grammar with symbols }, log } where
  reserved := builds.reserved.trans grows
  terminals := by
    intro name
    show name ∈ symbols.names .terminal ↔ _
    rw [terminals]
    exact builds.terminals name
  heads := fun name member => (grows .phrase).subset (builds.heads name member)
  known := known
  productions := builds.productions.imp fun _ _ produced => produced.extends_ grows
  categories := fun word => categorised_of_extends grows (builds.categories word)
  warnings := quiet.trans builds.warnings

/-- The symbol of a name of a body is found, or is registered as a phrase symbol. -/
theorem Builds.bodySymbol (builds : Builds lines added words loading) (number : Nat) {name : String}
    (member : name ∈ bodyNames lines) :
    Outcome lines none
      (fun result => result.2.symbols.symbol? name = some result.1 ∧
        loading.symbols.Extends result.2.symbols ∧ Builds lines added words result.2)
      (loading.bodySymbol number name) := by
  unfold Loading.bodySymbol
  cases found : loading.grammar.symbols.symbol? name with
  | some symbol => exact ⟨rfl, found, .refl _, builds⟩
  | none =>
    -- All lexical names are registered by now, so a name without a symbol cannot become one of them.
    have notLexical : name ∉ lexicalNames lines := by
      rw [← builds.terminals]
      exact SymbolTable.not_mem_names found .terminal
    have isAllowed := mem_phraseNames.2 ⟨.inr (.inr member), notLexical⟩
    unfold Loading.phrase Grammar.phrase Grammar.register Loading.report
    rcases loading.grammar.symbols.register_cases .phrase name with
      ⟨symbol, symbols, registered, registers⟩ | ⟨_, taken⟩ | ⟨exhausted, _, full⟩
    · simp only [registered, Grammar.granted]
      refine ⟨rfl, registers.found, registers.extends_, ?_⟩
      refine builds.grown registers.extends_ registers.others ?_ ?_
      · intro other listed
        rcases (registers.mem_iff other).1 listed with old | rfl
        · exact builds.known other old
        · exact isAllowed
      · simp
    · exact absurd taken (SymbolTable.not_mem_names found .terminal)
    · simp only [exhausted, Grammar.granted]
      exact .inr ⟨.phrase, number, rfl,
        SymbolTable.room_lt_of_exhausted found full builds.known isAllowed⟩

theorem Loading.bodySymbols_cons (number : Nat) (loading : Loading) (name : String)
    (names : List String) :
    Loading.bodySymbols number loading (name :: names) =
      (do
        let (symbol, resolved) ← loading.bodySymbol number name
        let (symbols, loaded) ← Loading.bodySymbols number resolved names
        .ok (symbol :: symbols, loaded)) := by
  rw [Loading.bodySymbols]
  cases loading.bodySymbol number name with
  | error rejection => rfl
  | ok result =>
    show _ = Loading.bodySymbols number result.2 names >>= _
    dsimp only
    cases Loading.bodySymbols number result.2 names <;> rfl

theorem Builds.bodySymbols (number : Nat) {names : List String}
    (members : ∀ name ∈ names, name ∈ bodyNames lines) (builds : Builds lines added words loading) :
    Outcome lines none
      (fun result => names.map result.2.symbols.symbol? = result.1.map some ∧
        loading.symbols.Extends result.2.symbols ∧ Builds lines added words result.2)
      (Loading.bodySymbols number loading names) := by
  induction names generalizing loading with
  | nil => exact ⟨rfl, rfl, .refl _, builds⟩
  | cons name names inductionHypothesis =>
    rw [Loading.bodySymbols_cons]
    have first := builds.bodySymbol number (members name List.mem_cons_self)
    refine first.bind fun ⟨symbol, resolved⟩ ⟨found, grows, buildsNext⟩ => ?_
    have others := inductionHypothesis
      (fun other member => members other (List.mem_cons_of_mem _ member)) buildsNext
    refine others.bind fun ⟨symbols, loaded⟩ ⟨foundOthers, growsOn, buildsLast⟩ => ?_
    refine ⟨rfl, ?_, grows.trans growsOn, buildsLast⟩
    rw [List.map_cons, List.map_cons, growsOn.symbol? found, foundOthers]

theorem Loading.addAlternative_eq (number : Nat) (head : Symbol) (loading : Loading)
    (alternative : Alternative) :
    Loading.addAlternative number head loading alternative =
      (do
        let (body, resolved) ← Loading.bodySymbols number loading alternative.symbols
        .ok { resolved with
          grammar := resolved.grammar.addProduction
            { head, body, weight := alternative.weight.getD defaultWeight,
              note := alternative.note.getD "" } }) := by
  rw [Loading.addAlternative]
  cases Loading.bodySymbols number loading alternative.symbols <;> rfl

theorem Builds.addAlternative (builds : Builds lines added words loading) (number : Nat)
    {head : String} {symbol : Symbol} {alternative : Alternative}
    (isHead : loading.symbols.symbol? head = some symbol)
    (members : ∀ name ∈ alternative.symbols, name ∈ bodyNames lines) :
    Outcome lines none
      (fun next => next.symbols.symbol? head = some symbol ∧
        Builds lines (added ++ [(head, alternative)]) words next)
      (Loading.addAlternative number symbol loading alternative) := by
  rw [Loading.addAlternative_eq]
  refine (builds.bodySymbols number members).bind fun ⟨body, resolved⟩ ⟨found, grows, buildsNext⟩ => ?_
  refine ⟨rfl, grows.symbol? isHead, { buildsNext with productions := ?_ }⟩
  show List.Forall₂ _ _ (resolved.grammar.productions.push _).toList
  rw [Array.toList_push]
  exact List.rel_append buildsNext.productions (.cons ⟨grows.symbol? isHead, found, rfl, rfl⟩ .nil)

theorem Builds.classify (builds : Builds lines added words loading) {entry : Entry} {symbol : Symbol}
    (isCategory : loading.symbols.symbol? entry.category = some symbol) {log : Array LogRecord}
    (warned : (log.toList.filter fun record => record.severity = .warn) =
      reclassifications [] (words ++ [entry])) :
    Builds lines added (words ++ [entry])
      { grammar := (loading.grammar.classify entry.word symbol).2, log } where
  reserved := builds.reserved
  terminals := builds.terminals
  heads := builds.heads
  known := builds.known
  productions := builds.productions
  categories := by
    intro word
    show Option.Rel _ (loading.grammar.lexicon.insert entry.word symbol)[word]? _
    rw [categoryOf?_concat, Std.TreeMap.getElem?_insert]
    by_cases same : entry.word = word
    · rw [if_pos same, if_pos (Std.LawfulEqCmp.compare_eq_iff_eq.2 same)]
      exact .some isCategory
    · rw [if_neg same, if_neg (mt Std.LawfulEqCmp.compare_eq_iff_eq.1 same)]
      exact builds.categories word
  warnings := warned

theorem Grammar.categoryName_of_symbol? {grammar : Grammar} {name : String} {symbol : Symbol}
    (found : grammar.symbols.symbol? name = some symbol) : grammar.categoryName symbol = name := by
  unfold Grammar.categoryName
  rw [SymbolTable.symbol?_eq_some_iff.1 found]
  rfl

/-- A word that is put into a category is warned of exactly if its last entry says otherwise. -/
theorem Builds.addWord (builds : Builds lines added words loading) (entry : Entry) {symbol : Symbol}
    (isCategory : loading.symbols.symbol? entry.category = some symbol) :
    Builds lines added (words ++ [entry])
      (Loading.addWord entry.number symbol entry.category loading entry.word) := by
  -- The category that the word leaves is that of its last entry, and symbols differ as names do.
  have warnings := reclassifications_concat [] words entry
  rw [List.nil_append, ← builds.warnings, reclassification?] at warnings
  have related := builds.categories entry.word
  unfold Loading.addWord
  dsimp only [Grammar.classify]
  generalize loading.grammar.lexicon[entry.word]? = left at related
  cases categorised : categoryOf? words entry.word with
  | none =>
    rw [categorised] at related warnings
    cases related
    refine builds.classify isCategory ?_
    rw [warnings]
    exact (List.append_nil _).symm
  | some previousName =>
    rw [categorised] at related warnings
    cases related with
    | @some previous _ isPrevious =>
      dsimp only at warnings ⊢
      by_cases same : previous = symbol
      · rw [if_pos same]
        refine builds.classify isCategory ?_
        rw [warnings, if_pos (SymbolTable.eq_of_symbol?_eq isPrevious (same ▸ isCategory))]
        exact (List.append_nil _).symm
      · have differs : previousName ≠ entry.category := by
          intro equal
          exact same (Option.some.inj (isPrevious.symm.trans (equal ▸ isCategory)))
        rw [if_neg same]
        refine builds.classify isCategory ?_
        rw [warnings, if_neg differs]
        show ((loading.log.push _).toList.filter _) = _
        have named : Grammar.categoryName
            { loading.grammar with lexicon := loading.grammar.lexicon.insert entry.word symbol }
            previous = previousName := Grammar.categoryName_of_symbol? isPrevious
        rw [Array.toList_push, List.filter_append, named]
        rfl

theorem Loading.symbols_addWord (number : Nat) (symbol : Symbol) (category word : String)
    (loading : Loading) :
    (Loading.addWord number symbol category loading word).symbols = loading.symbols := by
  unfold Loading.addWord
  dsimp only [Grammar.classify]
  split
  · rfl
  · split <;> rfl

theorem Builds.addWords (builds : Builds lines added words loading) (number : Nat)
    {category : String} {symbol : Symbol} (isCategory : loading.symbols.symbol? category = some symbol)
    (listed : List String) :
    Builds lines added (words ++ listed.map fun word => ⟨number, category, word⟩)
      (listed.foldl (Loading.addWord number symbol category) loading) := by
  induction listed generalizing words loading with
  | nil =>
    rw [List.map_nil, List.append_nil]
    exact builds
  | cons word others inductionHypothesis =>
    rw [List.map_cons, List.foldl_cons, List.append_cons]
    refine inductionHypothesis (builds.addWord ⟨number, category, word⟩ isCategory) ?_
    rw [Loading.symbols_addWord]
    exact isCategory

theorem Loading.terminal_of_mem {name : String} (number : Nat)
    (member : name ∈ loading.symbols.names .terminal) :
    ∃ symbol, loading.terminal number name = .ok (symbol, loading) ∧
      loading.symbols.symbol? name = some symbol := by
  obtain ⟨symbol, registered, found⟩ := SymbolTable.register_of_mem member
  refine ⟨symbol, ?_, found⟩
  unfold Loading.terminal Grammar.terminal Grammar.register
  rw [show loading.grammar.symbols.register .terminal name = _ from registered]
  rfl

theorem Loading.phrase_of_mem {name : String} (number : Nat)
    (member : name ∈ loading.symbols.names .phrase) :
    ∃ symbol, loading.phrase number name = .ok (symbol, loading) ∧
      loading.symbols.symbol? name = some symbol := by
  obtain ⟨symbol, registered, found⟩ := SymbolTable.register_of_mem member
  refine ⟨symbol, ?_, found⟩
  unfold Loading.phrase Grammar.phrase Grammar.register
  rw [show loading.grammar.symbols.register .phrase name = _ from registered]
  rfl

theorem Builds.addLine (builds : Builds lines added words loading) {numbered : NumberedLine}
    (member : numbered ∈ lines) :
    Outcome lines none (Builds lines (added ++ numbered.line.said) (words ++ numbered.entries))
      (loading.addLine numbered) := by
  obtain ⟨number, line⟩ := numbered
  unfold Loading.addLine
  cases line with
  | lexicon category listed =>
    have isLexical : category ∈ loading.symbols.names .terminal := by
      rw [builds.terminals]
      exact mem_lexicalNames.2 (.inr (mem_named member rfl))
    obtain ⟨symbol, registered, found⟩ := Loading.terminal_of_mem number isLexical
    dsimp only
    rw [registered]
    show none = none ∧ Builds lines (added ++ []) _ _
    rw [List.append_nil]
    exact ⟨rfl, builds.addWords number found listed⟩
  | rule head alternatives =>
    have isHead := builds.heads head (mem_named member rfl)
    obtain ⟨symbol, registered, found⟩ := Loading.phrase_of_mem number isHead
    dsimp only
    rw [registered]
    have ran : Outcome lines none
        (fun next => next.symbols.symbol? head = some symbol ∧
          Builds lines (added ++ alternatives.map fun alternative => (head, alternative)) words next)
        (alternatives.foldlM (Loading.addAlternative number symbol) loading) := by
      refine Outcome.foldlM_of_free
        (fun done next => next.symbols.symbol? head = some symbol ∧
          Builds lines (added ++ done.map fun alternative => (head, alternative)) words next)
        ⟨found, by simpa using builds⟩ ?_
      intro done alternative next listed ⟨foundNow, buildsNow⟩
      rw [List.map_append, ← List.append_assoc]
      refine buildsNow.addAlternative number foundNow fun name inBody => ?_
      refine List.mem_flatMap.2 ⟨(head, alternative), List.mem_flatMap.2 ⟨_, member, ?_⟩, inBody⟩
      exact List.mem_map_of_mem listed
    show Outcome lines none (Builds lines _ (words ++ [])) _
    rw [List.append_nil]
    exact ran.imp fun next good => good.2

end Steps

theorem Builds.addLines {loading : Loading} (builds : Builds lines [] [] loading) :
    Outcome lines none (Builds lines (said lines) (entries lines))
      (lines.foldlM Loading.addLine loading) := by
  refine Outcome.foldlM_of_free (fun done => Builds lines (said done) (entries done)) builds ?_
  intro done numbered next member buildsNow
  unfold said entries
  rw [List.flatMap_append, List.flatMap_append, List.flatMap_singleton, List.flatMap_singleton]
  exact buildsNow.addLine member

/-! ## The grammar of a text -/

section Finished

variable {loading : Loading} (builds : Builds lines (said lines) (entries lines) loading)

include builds

theorem Builds.exists_symbol?_of_mem_bodyNames {name : String} (inBody : name ∈ bodyNames lines) :
    ∃ symbol, loading.symbols.symbol? name = some symbol := by
  obtain ⟨pair, isSaid, inAlternative⟩ := List.mem_flatMap.1 inBody
  obtain ⟨production, _, produced⟩ := exists_related builds.productions isSaid
  have resolved : loading.symbols.symbol? name ∈ production.body.map some := by
    rw [← produced.2.body]
    exact List.mem_map_of_mem inAlternative
  obtain ⟨symbol, _, found⟩ := List.mem_map.1 resolved
  exact ⟨symbol, found.symm⟩

theorem Builds.names (kind : SymbolKind) (name : String) :
    name ∈ loading.symbols.names kind ↔ name ∈ symbolNames lines kind := by
  cases kind with
  | terminal => exact builds.terminals name
  | phrase =>
    refine ⟨builds.known name, fun member => ?_⟩
    obtain ⟨reserved | isHead | inBody, notLexical⟩ := mem_phraseNames.1 member
    · exact (builds.reserved .phrase).subset reserved
    · exact builds.heads name isHead
    · obtain ⟨symbol, found⟩ := builds.exists_symbol?_of_mem_bodyNames inBody
      have isPhrase : symbol.kind = .phrase := by
        cases actual : symbol.kind with
        | phrase => rfl
        | terminal =>
          have isTerminal := (SymbolTable.kind_eq_iff found .terminal).1 actual
          exact absurd ((builds.terminals name).1 isTerminal) notLexical
      exact (SymbolTable.kind_eq_iff found .phrase).1 isPhrase

theorem Builds.mentioned {name : String}
    (occurs : name ∈ named lines .phrase ∨ name ∈ named lines .terminal ∨ name ∈ bodyNames lines) :
    ∃ symbol, loading.symbols.symbol? name = some symbol ∧
      (symbol.isTerminal = true ↔ name ∈ lexicalNames lines) := by
  have registered : ∃ symbol, loading.symbols.symbol? name = some symbol := by
    rcases occurs with isHead | isCategory | inBody
    · exact SymbolTable.exists_symbol? (builds.heads name isHead)
    · exact SymbolTable.exists_symbol? ((builds.terminals name).2 (mem_lexicalNames.2 (.inr isCategory)))
    · exact builds.exists_symbol?_of_mem_bodyNames inBody
  obtain ⟨symbol, found⟩ := registered
  refine ⟨symbol, found, ?_⟩
  rw [← Symbol.kind_eq_terminal_iff, SymbolTable.kind_eq_iff found, builds.terminals]

theorem Builds.productionsOf {head : String} {symbol : Symbol}
    (isHead : loading.symbols.symbol? head = some symbol) :
    List.Forall₂ (MadeOf loading.symbols) (alternativesOf lines head)
      (loading.grammar.productionsOf symbol) := by
  unfold alternativesOf Grammar.productionsOf
  rw [List.forall₂_map_left_iff]
  -- A production has the symbol of a head exactly if its alternative belongs to that head.
  have sameHead : ∀ ⦃pair production⦄, Produced loading.symbols pair production →
      (decide (pair.1 = head) = true ↔ decide (production.head = symbol) = true) := by
    intro pair production produced
    rw [decide_eq_true_iff, decide_eq_true_iff]
    constructor
    · rintro rfl
      exact Option.some.inj (produced.1.symm.trans isHead)
    · rintro rfl
      exact SymbolTable.eq_of_symbol?_eq produced.1 isHead
  have filtered := List.rel_filter sameHead builds.productions
  exact filtered.imp fun _ _ produced => produced.2

theorem Builds.productive {symbol : Symbol} (productive : loading.grammar.productionsOf symbol ≠ []) :
    ∃ head ∈ named lines .phrase, loading.symbols.symbol? head = some symbol := by
  obtain ⟨production, member⟩ := List.exists_mem_of_ne_nil _ productive
  obtain ⟨isProduction, isHead⟩ := Grammar.mem_productionsOf.1 member
  obtain ⟨pair, isSaid, produced⟩ := exists_related builds.productions.flip isProduction
  exact ⟨pair.1, head_mem_named isSaid, isHead ▸ produced.1⟩

theorem Builds.listed {word category : String}
    (isCategory : categoryOf? (entries lines) word = some category) :
    loading.symbols.symbol? category = some (loading.grammar.wordCategory word) := by
  have related := builds.categories word
  rw [isCategory] at related
  unfold Grammar.wordCategory
  generalize loading.grammar.lexicon[word]? = symbol? at related
  cases related with
  | some found => exact found

theorem Builds.unlisted {word : String} (absent : categoryOf? (entries lines) word = none) :
    loading.grammar.wordCategory word = .unknown := by
  have related := builds.categories word
  rw [absent] at related
  unfold Grammar.wordCategory
  generalize loading.grammar.lexicon[word]? = symbol? at related
  cases related
  rfl

theorem Builds.describes : Describes lines loading where
  reserved := builds.reserved
  names := builds.names
  mentioned := fun _ => builds.mentioned
  distinct := fun _ _ _ => SymbolTable.eq_of_symbol?_eq
  productions := fun _ _ => builds.productionsOf
  productive := fun _ => builds.productive
  listed := fun _ _ => builds.listed
  unlisted := fun _ => builds.unlisted
  warnings := builds.warnings

end Finished

theorem builds_of_registered {categorised headed : Loading}
    (categories : Loading.Registered .terminal (named lines .terminal) .initial categorised)
    (heads : Loading.Registered .phrase (named lines .phrase) categorised headed)
    (known : ∀ name ∈ headed.symbols.names .phrase, name ∈ symbolNames lines .phrase) :
    Builds lines [] [] headed := by
  have untouched : headed = { Loading.initial with
      grammar := { Grammar.empty with symbols := headed.symbols } } := by
    rw [heads.kept, categories.kept]
    rfl
  refine ⟨categories.grows.trans heads.grows, fun name => ?_, fun name isHead => ?_, known, ?_,
    fun word => ?_, ?_⟩
  · rw [show headed.symbols.names .terminal = categorised.symbols.names .terminal from heads.others]
    exact mem_terminals_iff categories name
  · exact (heads.mem_iff name).2 (.inr isHead)
  · rw [untouched]
    exact .nil
  · rw [untouched]
    show Option.Rel _ (∅ : Std.TreeMap String Symbol)[word]? none
    rw [Std.TreeMap.getElem?_emptyc]
    exact .none
  · rw [untouched]
    rfl

/-- Loading meets the first contradiction, or comes to what the lines say, or runs out of numbers. -/
theorem Loading.addLines_outcome (lines : List NumberedLine) :
    Outcome lines (conflict? lines) (Describes lines) (Loading.addLines lines .initial) := by
  have free : conflict? lines =
      (lines.findSome? (conflictWith (SymbolTable.reserved.names .phrase) .terminal)).or
        ((lines.findSome? (conflictWith (lexicalNames lines) .phrase)).or none) := by
    rw [Option.or_none]
    rfl
  rw [free]
  refine (categories_outcome lines).bind fun categorised categories => ?_
  refine (heads_outcome categories).bind fun headed ⟨heads, known⟩ => ?_
  exact (builds_of_registered categories heads known).addLines.imp fun _ => Builds.describes

theorem exists_describes_of_load {text : String} {loading : Loading}
    (loaded : Grammar.load text = .ok loading) :
    ∃ lines, readDocument text.toList = .ok lines ∧
      Loading.addLines lines .initial = .ok loading ∧ Describes lines loading := by
  unfold Grammar.load at loaded
  cases read : readDocument text.toList with
  | error fault =>
    rw [read] at loaded
    exact nomatch loaded
  | ok lines =>
    rw [read] at loaded
    have outcome := Loading.addLines_outcome lines
    rw [show Loading.addLines lines .initial = .ok loading from loaded] at outcome
    exact ⟨lines, rfl, loaded, outcome.2⟩

/-- A text whose lines can all be read is rejected for its first contradiction if its lines contradict
each other about the kind of a name, and otherwise loaded as a grammar that is what the lines say,
unless there are more names of a kind than symbols. -/
theorem Grammar.load_of_readDocument {text : String} {lines : List NumberedLine}
    (read : readDocument text.toList = .ok lines) :
    (Contradictory lines ∧
      ∃ cause, conflict? lines = some cause ∧ Grammar.load text = .error ⟨cause, #[]⟩) ∨
    (¬ Contradictory lines ∧
      ∃ loading, Grammar.load text = .ok loading ∧ Describes lines loading) ∨
    ∃ rejection, Grammar.load text = .error rejection ∧ OutOfNumbers lines rejection := by
  have loaded : Grammar.load text = Loading.addLines lines .initial := by
    unfold Grammar.load
    rw [read]
    rfl
  have outcome := Loading.addLines_outcome lines
  rw [loaded, ← conflict?_isSome_iff]
  cases ran : Loading.addLines lines .initial with
  | ok loading =>
    rw [ran] at outcome
    obtain ⟨free, describes⟩ := outcome
    refine .inr (.inl ⟨?_, loading, rfl, describes⟩)
    rw [free]
    exact Bool.false_ne_true
  | error rejection =>
    rw [ran] at outcome
    rcases outcome with ⟨first, silent⟩ | exhausted
    · refine .inl ⟨?_, rejection.cause, first, ?_⟩
      · rw [first]
        rfl
      · rw [← silent]
    · exact .inr (.inr ⟨rejection, rfl, exhausted⟩)

/-- A body may name a category whose line comes later, and a word may change its category. -/
theorem Grammar.load_with_later_categories :
    ∃ lines loading, readDocument "ROOT -> A B | A\nA : a b\nB : b".toList = .ok lines ∧
      Grammar.load "ROOT -> A B | A\nA : a b\nB : b" = .ok loading ∧ Describes lines loading := by
  have read : readDocument "ROOT -> A B | A\nA : a b\nB : b".toList = .ok
      [⟨1, .rule "ROOT" [⟨["A", "B"], none, none⟩, ⟨["A"], none, none⟩]⟩,
        ⟨2, .lexicon "A" ["a", "b"]⟩, ⟨3, .lexicon "B" ["b"]⟩] := by
    decide +kernel
  rcases Grammar.load_of_readDocument read with ⟨contradictory, _⟩ | ⟨_, loading, loaded, describes⟩ |
    ⟨_, _, kind, _, _, exceeded⟩
  · rw [← conflict?_isSome_iff] at contradictory
    exact absurd contradictory (by decide)
  · exact ⟨_, loading, read, loaded, describes⟩
  · cases kind with
    | terminal => exact absurd exceeded (by decide)
    | phrase => exact absurd exceeded (by decide)

end ChartParsing
