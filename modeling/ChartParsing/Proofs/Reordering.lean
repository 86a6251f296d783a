import ChartParsing.Proofs.Grammar.Room
import ChartParsing.Proofs.GrammarText.Reordering
import ChartParsing.Proofs.PairedTrees

/-!
Contract: grammars loaded from lines in another order.

Owns that the order of lines matters only among the rule lines of one head and among lexicon lines.
Texts whose lines are reordered otherwise are loaded as grammars that differ in nothing but the numbers
of their symbols, so they can be parsed with together or not at all, and every parse comes to the same
trees in the same order.
-/

set_option autoImplicit false

namespace ChartParsing

open GrammarText

/-! ## Loading -/

section Loading

variable {lines others : List NumberedLine} (same : SameMeaning lines others)

include same

/-- Lines that mean the same are loaded together. -/
theorem exists_loading_of_sameMeaning {loading : Loading}
    (loaded : Loading.addLines lines .initial = .ok loading) :
    ∃ loading', Loading.addLines others .initial = .ok loading' := by
  have outcome := Loading.addLines_outcome lines
  have outcome' := Loading.addLines_outcome others
  rw [loaded] at outcome
  obtain ⟨free, describes⟩ := outcome
  cases loaded' : Loading.addLines others .initial with
  | ok loading' => exact ⟨loading', rfl⟩
  | error rejection =>
    rw [loaded'] at outcome'
    rcases outcome' with ⟨first, _⟩ | ⟨kind, _, _, exceeded⟩
    · have contradictory : Contradictory lines := by
        rw [same.contradictory_iff, ← conflict?_isSome_iff, first]
        rfl
      rw [← conflict?_isSome_iff, free] at contradictory
      exact nomatch contradictory
    · have within := describes.room (Loading.addLines_within lines loading loaded) kind
      have alike : (symbolNames lines kind).dedup.Perm (symbolNames others kind).dedup := by
        refine (List.perm_ext_iff_of_nodup (List.nodup_dedup _) (List.nodup_dedup _)).2 fun name => ?_
        rw [List.mem_dedup, List.mem_dedup, same.mem_symbolNames_iff]
      rw [alike.length_eq] at within
      exact absurd within (Nat.not_le.2 exceeded)

end Loading

/-! ## The pairing of the grammars -/

/-- Symbols of two tables that have one name. -/
def SameName (table table' : SymbolTable) (symbol symbol' : Symbol) : Prop :=
  ∃ name, table.symbol? name = some symbol ∧ table'.symbol? name = some symbol'

/-- Productions that differ in nothing but the numbers of their symbols. -/
structure SameNames (table table' : SymbolTable) (production production' : Production) : Prop where
  head : SameName table table' production.head production'.head
  body : List.Forall₂ (SameName table table') production.body production'.body
  weight : production.weight = production'.weight
  note : production.note = production'.note

theorem sameName_biUnique (table table' : SymbolTable) :
    Relator.BiUnique (SameName table table') := by
  constructor
  · rintro left right symbol ⟨name, found, found'⟩ ⟨other, alsoFound, alsoFound'⟩
    obtain rfl := SymbolTable.eq_of_symbol?_eq found' alsoFound'
    exact Option.some.inj (found.symm.trans alsoFound)
  · rintro symbol left right ⟨name, found, found'⟩ ⟨other, alsoFound, alsoFound'⟩
    obtain rfl := SymbolTable.eq_of_symbol?_eq found alsoFound
    exact Option.some.inj (found'.symm.trans alsoFound')

theorem sameNames_biUnique (table table' : SymbolTable) :
    Relator.BiUnique (SameNames table table') := by
  obtain ⟨leftUnique, rightUnique⟩ := sameName_biUnique table table'
  constructor
  · rintro ⟨leftHead, leftBody, _, _⟩ ⟨rightHead, rightBody, _, _⟩ production first second
    obtain rfl := leftUnique first.head second.head
    obtain rfl := List.left_unique_forall₂' leftUnique first.body second.body
    obtain rfl := first.weight.trans second.weight.symm
    obtain rfl := first.note.trans second.note.symm
    rfl
  · rintro production ⟨leftHead, leftBody, _, _⟩ ⟨rightHead, rightBody, _, _⟩ first second
    obtain rfl := rightUnique first.head second.head
    obtain rfl := List.right_unique_forall₂' rightUnique first.body second.body
    obtain rfl := first.weight.symm.trans second.weight
    obtain rfl := first.note.symm.trans second.note
    rfl

theorem sameNames_of_madeOf {table table' : SymbolTable} {alternative : Alternative}
    {production production' : Production}
    (head : SameName table table' production.head production'.head)
    (made : MadeOf table alternative production) (made' : MadeOf table' alternative production') :
    SameNames table table' production production' where
  head := head
  body := by
    have found := made.body
    have found' := made'.body
    rw [← List.forall₂_eq_eq_eq, List.forall₂_map_left_iff, List.forall₂_map_right_iff]
      at found found'
    exact related_join found.flip found'.flip fun _ _ name isName isName' => ⟨name, isName, isName'⟩
  weight := made.weight.trans made'.weight.symm
  note := made.note.trans made'.note.symm

section Pairing

variable {lines others : List NumberedLine} {loading loading' : Loading}

theorem Describes.productionsOf (describes : Describes lines loading) {head : String}
    {symbol : Symbol} (found : loading.grammar.symbols.symbol? head = some symbol) :
    List.Forall₂ (fun production alternative => production.head = symbol ∧
      MadeOf loading.grammar.symbols alternative production)
      (loading.grammar.productionsOf symbol) (alternativesOf lines head) :=
  (List.forall₂_and_left _ _).2
    ⟨fun _ listed => (Grammar.mem_productionsOf.1 listed).2,
      (describes.productions head symbol found).flip⟩

/-- The reserved names stand for the reserved symbols. -/
theorem Describes.sameName_of_reserved (describes : Describes lines loading)
    (describes' : Describes others loading') (name : String) {symbol : Symbol}
    (isReserved : SymbolTable.reserved.symbol? name = some symbol) :
    SameName loading.grammar.symbols loading'.grammar.symbols symbol symbol :=
  ⟨name, describes.reserved.symbol? isReserved, describes'.reserved.symbol? isReserved⟩

/-- The grammars of lines that mean the same are paired by the names of their symbols. -/
def pairingOf (describes : Describes lines loading) (describes' : Describes others loading')
    (same : SameMeaning lines others) : Pairing loading.grammar loading'.grammar where
  symbol := SameName loading.grammar.symbols loading'.grammar.symbols
  production := SameNames loading.grammar.symbols loading'.grammar.symbols
  symbol_biUnique := sameName_biUnique _ _
  production_biUnique := sameNames_biUnique _ _
  isPhrase := by
    rintro left right ⟨name, found, found'⟩
    rw [Bool.eq_iff_iff, ← Symbol.kind_eq_phrase_iff, ← Symbol.kind_eq_phrase_iff,
      SymbolTable.kind_eq_iff found, SymbolTable.kind_eq_iff found', describes.names,
      describes'.names, same.mem_symbolNames_iff]
  root := describes.sameName_of_reserved describes' "ROOT" (by decide)
  empty := describes.sameName_of_reserved describes' "EMPTY" (by decide)
  unknown := describes.sameName_of_reserved describes' "UNKNOWN" (by decide)
  head := fun alike => alike.head
  body := fun alike => alike.body
  productionsOf := by
    rintro left right ⟨head, found, found'⟩
    have alternatives := describes.productionsOf found
    rw [same.alternatives head] at alternatives
    refine related_join alternatives (describes'.productionsOf found') ?_
    rintro production production' alternative ⟨rfl, made⟩ ⟨rfl, made'⟩
    exact sameNames_of_madeOf ⟨head, found, found'⟩ made made'

theorem sameName_wordCategory (describes : Describes lines loading)
    (describes' : Describes others loading') (same : SameMeaning lines others) (word : String) :
    SameName loading.grammar.symbols loading'.grammar.symbols (loading.grammar.wordCategory word)
      (loading'.grammar.wordCategory word) := by
  cases categorised : categoryOf? (entries lines) word with
  | none =>
    have unlisted := describes.unlisted word categorised
    have unlisted' := describes'.unlisted word ((same.categories word).symm.trans categorised)
    rw [unlisted, unlisted']
    exact (pairingOf describes describes' same).unknown
  | some category =>
    exact ⟨category, describes.listed word category categorised,
      describes'.listed word category ((same.categories word).symm.trans categorised)⟩

/-- The same sentence is parsed in lockstep with both grammars. -/
def lockstepOf (describes : Describes lines loading) (describes' : Describes others loading')
    (same : SameMeaning lines others) (sentence : Sentence) :
    Lockstep loading.grammar loading'.grammar sentence sentence :=
  (pairingOf describes describes' same).lockstep sentence
    (sameName_wordCategory describes describes' same)

theorem SameName.categoryName {left right : Symbol}
    (alike : SameName loading.grammar.symbols loading'.grammar.symbols left right) :
    loading.grammar.categoryName left = loading'.grammar.categoryName right := by
  obtain ⟨name, found, found'⟩ := alike
  rw [Grammar.categoryName_of_symbol? found, Grammar.categoryName_of_symbol? found']

section Shown

variable {describes : Describes lines loading} {describes' : Describes others loading'}
  {same : SameMeaning lines others} {sentence : Sentence}

/-- Rules that are alike are shown alike. -/
theorem shown_eq_of_alike {start stop : Nat} {rule rule' : Rule}
    (alike : (lockstepOf describes describes' same sentence).Rules start stop rule rule') :
    rule.label loading.grammar = rule'.label loading'.grammar ∧ rule.weight = rule'.weight ∧
      rule.note = rule'.note := by
  cases alike with
  | seed =>
    have root := (pairingOf describes describes' same).root
    exact ⟨SameName.categoryName root, rfl, rfl⟩
  | phrase paired =>
    have names : SameNames _ _ _ _ := paired
    exact ⟨names.head.categoryName, names.weight, names.note⟩
  | word paired stands stands' =>
    exact ⟨Option.some.inj (stands.symm.trans stands'), rfl, rfl⟩
  | nothing => exact ⟨rfl, rfl, rfl⟩

/-- Rows that are alike have equal trees over equal children. -/
theorem lockstepOf_grows : (lockstepOf describes describes' same sentence).Grows Eq := by
  intro row row' rows children children' each
  obtain rfl : children = children' := by rwa [← List.forall₂_eq_eq_eq]
  have head : SameName loading.grammar.symbols loading'.grammar.symbols row.rule.head
      row'.rule.head := rows.item.rule.head
  obtain ⟨label, weight, note⟩ := shown_eq_of_alike rows.item.rule
  rw [Row.treeOver, Row.treeOver, label, weight, note, head.categoryName]

end Shown

/-- The checks of the two grammars report the same name. -/
theorem name_missing_eq (describes : Describes lines loading)
    (describes' : Describes others loading') (same : SameMeaning lines others) :
    loading.grammar.missingRule?.map MissingRule.name =
      loading'.grammar.missingRule?.map MissingRule.name := by
  have found := (pairingOf describes describes' same).missing_related
  unfold Grammar.missingRule?
  generalize loading.grammar.firstMissing? _ _ = missing? at found
  generalize loading'.grammar.firstMissing? _ _ = missing?' at found
  cases found with
  | none => rfl
  | some alike => exact congrArg some (SameName.categoryName alike)

end Pairing

/-- Every parse with one of the grammars comes to what the parse with the other comes to. -/
theorem analysis_eq_of_sameMeaning {lines others : List NumberedLine} {loading loading' : Loading}
    (describes : Describes lines loading) (describes' : Describes others loading')
    (same : SameMeaning lines others) {session session' : Session}
    (parsesWith : session.parser.grammar = loading.grammar)
    (parsesWith' : session'.parser.grammar = loading'.grammar) (threshold threshold' : Threshold)
    (sentence : Sentence) :
    (session.parse threshold sentence).analysis = (session'.parse threshold' sentence).analysis := by
  have grows : (lockstepOf describes describes' same sentence).Grows Eq := lockstepOf_grows
  have alike := Lockstep.parse_alike grows parsesWith parsesWith' threshold threshold'
  generalize (session.parse threshold sentence).analysis = analysis at alike ⊢
  generalize (session'.parse threshold' sentence).analysis = analysis' at alike ⊢
  cases alike with
  | cancelled => rfl
  | astray => rfl
  | trees alike =>
    rw [List.forall₂_eq_eq_eq] at alike
    rw [alike]

/-! ## Reordered texts -/

theorem exists_sameMeaning_of_reordered {text other : String}
    (reordered : Reordered (significantLines text.toList) (significantLines other.toList))
    {lines : List NumberedLine} (read : readDocument text.toList = .ok lines) :
    ∃ others, readDocument other.toList = .ok others ∧ SameMeaning lines others := by
  obtain ⟨said, read', linesReordered⟩ :=
    reordered.exists_lines ((readDocument_iff _ _).1 ⟨lines, read, rfl⟩)
  obtain ⟨others, readOther, rfl⟩ := (readDocument_iff _ _).2 read'
  exact ⟨others, readOther, linesReordered.sameMeaning⟩

theorem exists_load_of_reordered {text other : String}
    (reordered : Reordered (significantLines text.toList) (significantLines other.toList))
    (loads : ∃ loading, Grammar.load text = .ok loading) :
    ∃ loading, Grammar.load other = .ok loading := by
  obtain ⟨loading, loaded⟩ := loads
  obtain ⟨lines, read, added, _⟩ := exists_describes_of_load loaded
  obtain ⟨others, readOther, same⟩ := exists_sameMeaning_of_reordered reordered read
  obtain ⟨loading', added'⟩ := exists_loading_of_sameMeaning same added
  refine ⟨loading', ?_⟩
  unfold Grammar.load
  rw [readOther]
  exact added'

section OfGrammar

variable {grammar : Grammar}

theorem Parser.grammar_of_ofGrammar {parser : Parser} (accepted : ofGrammar grammar = .ok parser) :
    parser.grammar = grammar := by
  unfold ofGrammar at accepted
  split at accepted
  · obtain rfl := Except.ok.inj accepted
    rfl
  · exact nomatch accepted

theorem Parser.missingRule?_of_ofGrammar {missing : MissingRule}
    (rejected : ofGrammar grammar = .error missing) : grammar.missingRule? = some missing := by
  unfold ofGrammar at rejected
  split at rejected
  case h_1 => exact nomatch rejected
  case h_2 found isMissing =>
    obtain rfl := Except.error.inj rejected
    exact isMissing

theorem Parser.exists_ofGrammar_iff :
    (∃ parser, ofGrammar grammar = .ok parser) ↔
      grammar.missingRule?.map MissingRule.name = none := by
  rw [Option.map_eq_none_iff]
  constructor
  · rintro ⟨parser, accepted⟩
    rw [← Parser.grammar_of_ofGrammar accepted]
    exact parser.covered
  · intro covered
    unfold ofGrammar
    split
    case h_1 => exact ⟨_, rfl⟩
    case h_2 missing found => exact nomatch covered.symm.trans found

end OfGrammar

/-- Two grammar texts that nothing tells apart but the numbers of symbols: they are loaded together,
their grammars can be parsed with together, for want of a production of the same name otherwise, and
all sentences are parsed alike. -/
structure Interchangeable (text other : String) : Prop where
  loads : (∃ loading, Grammar.load text = .ok loading) ↔ ∃ loading, Grammar.load other = .ok loading
  accepted : ∀ loading loading', Grammar.load text = .ok loading → Grammar.load other = .ok loading' →
    ((∃ parser, Parser.ofGrammar loading.grammar = .ok parser) ↔
      ∃ parser, Parser.ofGrammar loading'.grammar = .ok parser)
  missing : ∀ loading loading', Grammar.load text = .ok loading → Grammar.load other = .ok loading' →
    ∀ missing missing', Parser.ofGrammar loading.grammar = .error missing →
      Parser.ofGrammar loading'.grammar = .error missing' → missing.name = missing'.name
  analyses : ∀ loading loading', Grammar.load text = .ok loading → Grammar.load other = .ok loading' →
    ∀ session session' : Session, Parser.ofGrammar loading.grammar = .ok session.parser →
      Parser.ofGrammar loading'.grammar = .ok session'.parser →
      ∀ (threshold threshold' : Threshold) (sentence : Sentence),
        (session.parse threshold sentence).analysis = (session'.parse threshold' sentence).analysis

/-- The order of lines matters only among the rule lines of one head and among lexicon lines. -/
theorem interchangeable_of_reordered {text other : String}
    (reordered : Reordered (significantLines text.toList) (significantLines other.toList)) :
    Interchangeable text other := by
  have meanings {loading loading' : Loading} (loaded : Grammar.load text = .ok loading)
      (loaded' : Grammar.load other = .ok loading') :
      ∃ lines others, Describes lines loading ∧ Describes others loading' ∧
        SameMeaning lines others := by
    obtain ⟨lines, read, _, describes⟩ := exists_describes_of_load loaded
    obtain ⟨others, readOther, same⟩ := exists_sameMeaning_of_reordered reordered read
    obtain ⟨others', readOther', _, describes'⟩ := exists_describes_of_load loaded'
    obtain rfl : others = others' := Except.ok.inj (readOther.symm.trans readOther')
    exact ⟨lines, others, describes, describes', same⟩
  refine ⟨⟨exists_load_of_reordered reordered, exists_load_of_reordered reordered.symm⟩, ?_, ?_, ?_⟩
  · intro loading loading' loaded loaded'
    obtain ⟨lines, others, describes, describes', same⟩ := meanings loaded loaded'
    rw [Parser.exists_ofGrammar_iff, Parser.exists_ofGrammar_iff,
      name_missing_eq describes describes' same]
  · intro loading loading' loaded loaded' missing missing' rejected rejected'
    obtain ⟨lines, others, describes, describes', same⟩ := meanings loaded loaded'
    have names := name_missing_eq describes describes' same
    rw [Parser.missingRule?_of_ofGrammar rejected, Parser.missingRule?_of_ofGrammar rejected'] at names
    exact Option.some.inj names
  · intro loading loading' loaded loaded' session session' accepted accepted'
    obtain ⟨lines, others, describes, describes', same⟩ := meanings loaded loaded'
    exact analysis_eq_of_sameMeaning describes describes' same
      (Parser.grammar_of_ofGrammar accepted) (Parser.grammar_of_ofGrammar accepted')

/-- The heads of these texts, and so the numbers of their symbols, come in another order. -/
theorem interchangeable_heads :
    Reordered (significantLines "ROOT -> S T\nS -> A\nT -> A\nA : a".toList)
        (significantLines "T -> A\nA : a\nS -> A\nROOT -> S T".toList) ∧
      Interchangeable "ROOT -> S T\nS -> A\nT -> A\nA : a"
        "T -> A\nA : a\nS -> A\nROOT -> S T" := by
  have first : significantLines "ROOT -> S T\nS -> A\nT -> A\nA : a".toList =
      ["ROOT -> S T".toList, "S -> A".toList, "T -> A".toList, "A : a".toList] := by
    decide +kernel
  have second : significantLines "T -> A\nA : a\nS -> A\nROOT -> S T".toList =
      ["T -> A".toList, "A : a".toList, "S -> A".toList, "ROOT -> S T".toList] := by
    decide +kernel
  have root : nameOf? .phrase "ROOT -> S T".toList = some "ROOT" := by decide +kernel
  have left : nameOf? .phrase "S -> A".toList = some "S" := by decide +kernel
  have right : nameOf? .phrase "T -> A".toList = some "T" := by decide +kernel
  have words : nameOf? .phrase "A : a".toList = none := by decide +kernel
  have reordered : Reordered (significantLines "ROOT -> S T\nS -> A\nT -> A\nA : a".toList)
      (significantLines "T -> A\nA : a\nS -> A\nROOT -> S T".toList) := by
    rw [first, second]
    refine ⟨by decide +kernel, fun head => ?_, by decide +kernel⟩
    simp only [List.filter_cons, root, left, right, words]
    by_cases isRoot : "ROOT" = head
    · subst isRoot
      simp
    by_cases isLeft : "S" = head
    · subst isLeft
      simp
    simp only [Option.some.injEq, reduceCtorEq, isRoot, isLeft, decide_false, Bool.false_eq_true,
      if_false]
  exact ⟨reordered, interchangeable_of_reordered reordered⟩

end ChartParsing
