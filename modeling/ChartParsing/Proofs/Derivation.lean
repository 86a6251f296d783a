import ChartParsing.Grammar.Basic
import ChartParsing.Production
import ChartParsing.Chart.Row
import ChartParsing.Tree

/-!
Contract: derivations in a grammar.

Owns what it means that symbols derive a span of a sentence, independently of any chart. A derivation
of a string of symbols is a forest with one member for each symbol: a matched word, an empty match, or
a production with a derivation of its body. Owns also the trees that a derivation is shown as, and the
positions of the words that it matches.
-/

set_option autoImplicit false

namespace ChartParsing

/-- The derivations of strings of symbols over spans of a sentence. -/
inductive Derivation (grammar : Grammar) (words : List String) : List Symbol → Nat → Nat → Type where
  | done (position : Nat) : Derivation grammar words [] position position
  /-- A terminal derives a word of its category, and the terminal of unknown words any word. -/
  | word {symbol : Symbol} {rest : List Symbol} {start stop : Nat} (text : String)
      (isTerminal : symbol.isTerminal = true) (stands : words[start]? = some text)
      (fits : grammar.wordCategory text = symbol ∨ symbol = .unknown)
      (others : Derivation grammar words rest (start + 1) stop) :
      Derivation grammar words (symbol :: rest) start stop
  | nothing {rest : List Symbol} {start stop : Nat}
      (others : Derivation grammar words rest start stop) :
      Derivation grammar words (.empty :: rest) start stop
  | phrase {rest : List Symbol} {start middle stop : Nat} (production : Production)
      (isPhrase : production.head.isPhrase = true)
      (listed : production ∈ grammar.productionsOf production.head)
      (parts : Derivation grammar words production.body start middle)
      (others : Derivation grammar words rest middle stop) :
      Derivation grammar words (production.head :: rest) start stop

def Production.tree (grammar : Grammar) (production : Production) (children : List Tree) : Tree where
  label := grammar.categoryName production.head
  category := grammar.categoryName production.head
  weight := production.weight
  note := production.note
  children

/-- The tree of a matched terminal; its label is the word, or empty when no word is matched. -/
def Grammar.leaf (grammar : Grammar) (symbol : Symbol) (label : String) : Tree where
  label
  category := grammar.categoryName symbol
  weight := 0
  note := ""
  children := []

/-- Every constituent covers words: no body of a production is empty or contains the empty
terminal. -/
def Grammar.Wordful (grammar : Grammar) : Prop :=
  ∀ production ∈ grammar.productions.toList, production.body ≠ [] ∧ Symbol.empty ∉ production.body

instance (grammar : Grammar) : Decidable grammar.Wordful :=
  inferInstanceAs (Decidable (∀ production ∈ grammar.productions.toList,
    production.body ≠ [] ∧ Symbol.empty ∉ production.body))

namespace Derivation

variable {grammar : Grammar} {words : List String}

def trees {symbols : List Symbol} {start stop : Nat} :
    Derivation grammar words symbols start stop → List Tree
  | done _ => []
  | @word _ _ symbol _ _ _ text _ _ _ others => grammar.leaf symbol text :: others.trees
  | nothing others => grammar.leaf .empty "" :: others.trees
  | phrase production _ _ parts others => production.tree grammar parts.trees :: others.trees

def positions {symbols : List Symbol} {start stop : Nat} :
    Derivation grammar words symbols start stop → List Nat
  | done _ => []
  | @word _ _ _ _ start _ _ _ _ _ others => start :: others.positions
  | nothing others => others.positions
  | phrase _ _ _ parts others => parts.positions ++ others.positions

/-- A condition on every constituent without words, given the item that waits for it and its symbol.
The derivation itself is of the constituents of a rule from some dot on, of an item with an origin. -/
def EachEmpty (condition : Item → Symbol → Prop) {symbols : List Symbol} {start stop : Nat}
    (rule : Rule) (dot origin : Nat) : Derivation grammar words symbols start stop → Prop
  | done _ => True
  | word _ _ _ _ others => others.EachEmpty condition rule (dot + 1) origin
  | @nothing _ _ _ start _ others =>
    condition ⟨rule, dot, origin, start⟩ .empty ∧ others.EachEmpty condition rule (dot + 1) origin
  | @phrase _ _ _ start middle _ production _ _ parts others =>
    parts.EachEmpty condition (.phrase production) 0 start ∧
      (start = middle → condition ⟨rule, dot, origin, start⟩ production.head) ∧
      others.EachEmpty condition rule (dot + 1) origin

theorem eachEmpty_mono {condition weaker : Item → Symbol → Prop}
    (implies : ∀ item symbol, condition item symbol → weaker item symbol) {symbols : List Symbol}
    {start stop : Nat} (derivation : Derivation grammar words symbols start stop) {rule : Rule}
    {dot origin : Nat} (each : derivation.EachEmpty condition rule dot origin) :
    derivation.EachEmpty weaker rule dot origin := by
  induction derivation generalizing rule dot origin with
  | done position => trivial
  | word text isTerminal stands fits others inductionHypothesis => exact inductionHypothesis each
  | nothing others inductionHypothesis =>
    exact ⟨implies _ _ each.1, inductionHypothesis each.2⟩
  | phrase production isPhrase listed parts others first second =>
    obtain ⟨eachPart, empty, eachOther⟩ := each
    exact ⟨first eachPart, fun noWords => implies _ _ (empty noWords), second eachOther⟩

theorem length_trees {symbols : List Symbol} {start stop : Nat}
    (derivation : Derivation grammar words symbols start stop) :
    derivation.trees.length = symbols.length := by
  induction derivation with
  | done position => rfl
  | word text isTerminal stands fits others inductionHypothesis =>
    rw [trees, List.length_cons, List.length_cons, inductionHypothesis]
  | nothing others inductionHypothesis =>
    rw [trees, List.length_cons, List.length_cons, inductionHypothesis]
  | phrase production isPhrase listed parts others first second =>
    rw [trees, List.length_cons, List.length_cons, second]

/-! ## Spans -/

theorem start_le_stop {symbols : List Symbol} {start stop : Nat}
    (derivation : Derivation grammar words symbols start stop) : start ≤ stop := by
  induction derivation with
  | done position => exact Nat.le_refl position
  | word text isTerminal stands fits others inductionHypothesis => omega
  | nothing others inductionHypothesis => exact inductionHypothesis
  | phrase production isPhrase listed parts others first second => exact Nat.le_trans first second

/-- A derivation matches every word of its span once, in order, and no other. -/
theorem positions_eq {symbols : List Symbol} {start stop : Nat}
    (derivation : Derivation grammar words symbols start stop) :
    derivation.positions = List.range' start (stop - start) := by
  induction derivation with
  | done position => simp [positions]
  | @word symbol rest start stop text isTerminal stands fits others inductionHypothesis =>
    have after := others.start_le_stop
    have length : stop - start = (stop - (start + 1)) + 1 := by omega
    rw [positions, inductionHypothesis, length, List.range'_succ]
  | nothing others inductionHypothesis => exact inductionHypothesis
  | @phrase rest start middle stop production isPhrase listed parts others first second =>
    have before := parts.start_le_stop
    have after := others.start_le_stop
    have length : stop - start = (middle - start) + (stop - middle) := by omega
    have next : middle = start + (middle - start) := by omega
    rw [positions, first, second, length, ← List.range'_append_1, ← next]

/-! ## Concatenation -/

def append {first second : List Symbol} {start middle stop : Nat} :
    Derivation grammar words first start middle → Derivation grammar words second middle stop →
      Derivation grammar words (first ++ second) start stop
  | done _, later => later
  | word text isTerminal stands fits others, later =>
    .word text isTerminal stands fits (others.append later)
  | nothing others, later => .nothing (others.append later)
  | phrase production isPhrase listed parts others, later =>
    .phrase production isPhrase listed parts (others.append later)

theorem trees_append {first second : List Symbol} {start middle stop : Nat}
    (earlier : Derivation grammar words first start middle)
    (later : Derivation grammar words second middle stop) :
    (earlier.append later).trees = earlier.trees ++ later.trees := by
  induction earlier with
  | done position => rfl
  | word text isTerminal stands fits others inductionHypothesis =>
    simp only [append, trees, inductionHypothesis, List.cons_append]
  | nothing others inductionHypothesis =>
    simp only [append, trees, inductionHypothesis, List.cons_append]
  | phrase production isPhrase listed parts others _ inductionHypothesis =>
    simp only [append, trees, inductionHypothesis, List.cons_append]

theorem eachEmpty_append {condition : Item → Symbol → Prop} {first second : List Symbol}
    {start middle stop : Nat} (earlier : Derivation grammar words first start middle)
    (later : Derivation grammar words second middle stop) (rule : Rule) (dot origin : Nat) :
    (earlier.append later).EachEmpty condition rule dot origin ↔
      earlier.EachEmpty condition rule dot origin ∧
        later.EachEmpty condition rule (dot + first.length) origin := by
  induction earlier generalizing rule dot origin with
  | done position => simp [append, EachEmpty]
  | word text isTerminal stands fits others inductionHypothesis =>
    simp only [append, EachEmpty, inductionHypothesis, List.length_cons]
    rw [Nat.add_right_comm dot 1, Nat.add_assoc]
  | nothing others inductionHypothesis =>
    simp only [append, EachEmpty, inductionHypothesis, List.length_cons, and_assoc]
    rw [Nat.add_right_comm dot 1, Nat.add_assoc]
  | phrase production isPhrase listed parts others _ inductionHypothesis =>
    simp only [append, EachEmpty, inductionHypothesis, List.length_cons, and_assoc]
    rw [Nat.add_right_comm dot 1, Nat.add_assoc]

/-! ## The root of a derivation -/

/-- A derivation of a single phrase symbol is one of the body of a production. -/
theorem exists_parts {symbol : Symbol} (isPhrase : symbol.isPhrase = true) {start stop : Nat}
    (derivation : Derivation grammar words [symbol] start stop) :
    ∃ production ∈ grammar.productionsOf symbol,
      ∃ parts : Derivation grammar words production.body start stop,
        derivation.trees = [production.tree grammar parts.trees] := by
  generalize single : [symbol] = symbols at derivation
  cases derivation with
  | done position => exact nomatch single
  | word text isTerminal stands fits others =>
    obtain ⟨rfl, _⟩ := List.cons.inj single
    rw [Symbol.isTerminal, isPhrase] at isTerminal
    exact nomatch isTerminal
  | nothing others =>
    obtain ⟨rfl, _⟩ := List.cons.inj single
    exact nomatch isPhrase
  | phrase production _ listed parts others =>
    obtain ⟨rfl, rfl⟩ := List.cons.inj single
    cases others with
    | done position => exact ⟨production, listed, parts, rfl⟩

theorem exists_of_parts {symbol : Symbol} (isPhrase : symbol.isPhrase = true) {start stop : Nat}
    {production : Production} (listed : production ∈ grammar.productionsOf symbol)
    (parts : Derivation grammar words production.body start stop) :
    ∃ whole : Derivation grammar words [symbol] start stop,
      whole.trees = [production.tree grammar parts.trees] := by
  obtain ⟨_, rfl⟩ := Grammar.mem_productionsOf.1 listed
  exact ⟨.phrase production isPhrase listed parts (.done stop), rfl⟩

theorem nonempty_singleton_iff {symbol : Symbol} (isPhrase : symbol.isPhrase = true)
    {start stop : Nat} :
    Nonempty (Derivation grammar words [symbol] start stop) ↔
      ∃ production ∈ grammar.productionsOf symbol,
        Nonempty (Derivation grammar words production.body start stop) := by
  constructor
  · rintro ⟨derivation⟩
    obtain ⟨production, listed, parts, _⟩ := derivation.exists_parts isPhrase
    exact ⟨production, listed, ⟨parts⟩⟩
  · rintro ⟨production, listed, ⟨parts⟩⟩
    obtain ⟨whole, _⟩ := exists_of_parts isPhrase listed parts
    exact ⟨whole⟩

/-! ## Grammars in which every constituent covers words -/

section Wordful

variable {symbols : List Symbol} {start stop : Nat}

theorem bodies_of_wordful (wordful : grammar.Wordful) {symbol : Symbol} {production : Production}
    (listed : production ∈ grammar.productionsOf symbol) :
    production.body ≠ [] ∧ Symbol.empty ∉ production.body :=
  wordful production (Grammar.mem_productionsOf.1 listed).1

theorem start_lt_stop (wordful : grammar.Wordful)
    (derivation : Derivation grammar words symbols start stop) (some : symbols ≠ [])
    (noEmpty : Symbol.empty ∉ symbols) : start < stop := by
  induction derivation with
  | done position => exact absurd rfl some
  | word text isTerminal stands fits others => exact others.start_le_stop
  | nothing others => exact absurd List.mem_cons_self noEmpty
  | phrase production isPhrase listed parts others first =>
    obtain ⟨someParts, noEmptyPart⟩ := bodies_of_wordful wordful listed
    exact Nat.lt_of_lt_of_le (first someParts noEmptyPart) others.start_le_stop

theorem eachEmpty_of_wordful (wordful : grammar.Wordful)
    (derivation : Derivation grammar words symbols start stop) (noEmpty : Symbol.empty ∉ symbols)
    (condition : Item → Symbol → Prop) (rule : Rule) (dot origin : Nat) :
    derivation.EachEmpty condition rule dot origin := by
  induction derivation generalizing rule dot origin with
  | done position => trivial
  | word text isTerminal stands fits others inductionHypothesis =>
    exact inductionHypothesis (fun member => noEmpty (List.mem_cons_of_mem _ member)) _ _ _
  | nothing others => exact absurd List.mem_cons_self noEmpty
  | phrase production isPhrase listed parts others first second =>
    obtain ⟨someParts, noEmptyPart⟩ := bodies_of_wordful wordful listed
    have covers := parts.start_lt_stop wordful someParts noEmptyPart
    refine ⟨first noEmptyPart _ _ _, fun noWords => absurd noWords (Nat.ne_of_lt covers), ?_⟩
    exact second (fun member => noEmpty (List.mem_cons_of_mem _ member)) _ _ _

end Wordful

end Derivation

end ChartParsing
