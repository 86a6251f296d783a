import ChartParsing.Proofs.Chart.Deduction
import Mathlib.Data.Set.Card
import Mathlib.Tactic.Ring

/-!
Contract: the items that a sentence can have.

Owns the finite universe of items over a grammar and a sentence, its enumeration, and the bound that
it puts on the number of rows: every row of sound charts has an item of the universe, and no two rows
have the same.
-/

set_option autoImplicit false

namespace ChartParsing

def Grammar.MentionsTerminal (grammar : Grammar) (symbol : Symbol) : Prop :=
  symbol.isTerminal = true ∧ ∃ production ∈ grammar.productions.toList, symbol ∈ production.body

/-- The rules that an item with a start can be an item of: the seed, a production, or the match of a
terminal of some body with the word at the start or with no word. -/
inductive Rule.Fits (grammar : Grammar) (words : List String) (start : Nat) : Rule → Prop where
  | seed : Fits grammar words start .seed
  | phrase {production : Production} (listed : production ∈ grammar.productions.toList) :
      Fits grammar words start (.phrase production)
  | word {symbol : Symbol} {text : String} (mentioned : grammar.MentionsTerminal symbol)
      (stands : words[start]? = some text) : Fits grammar words start (.terminal symbol text)
  | nothing (mentioned : grammar.MentionsTerminal .empty) :
      Fits grammar words start (.terminal .empty "")

/-- An item that a sentence can have: a fitting rule, no more constituents matched than the rule has,
and a span of the sentence. -/
structure Item.Possible (grammar : Grammar) (words : List String) (item : Item) : Prop where
  rule : item.rule.Fits grammar words item.start
  dot : item.dot ≤ item.rule.arity
  start : item.start ≤ item.stop
  stop : item.stop ≤ words.length

namespace Charts

variable {grammar : Grammar} {words : List String} {charts : Charts}

theorem mentionsTerminal_of_expects {item : Item} {symbol : Symbol}
    (fits : item.rule.Fits grammar words item.start) (expects : item.next? = some symbol)
    (isTerminal : symbol.isTerminal = true) : grammar.MentionsTerminal symbol := by
  rw [Item.next?_eq] at expects
  have member := List.mem_of_getElem? expects
  obtain ⟨rule, dot, start, stop⟩ := item
  cases fits with
  | seed =>
    obtain rfl : symbol = .root := by simpa [Rule.constituents] using member
    exact absurd isTerminal (by decide)
  | phrase listed => exact ⟨isTerminal, _, listed, member⟩
  | word mentioned stands => simp [Rule.constituents] at member
  | nothing mentioned => simp [Rule.constituents] at member

theorem dot_lt_arity_of_expects {item : Item} {symbol : Symbol}
    (expects : item.next? = some symbol) : item.dot < item.rule.arity := by
  rw [Item.next?_eq] at expects
  have inside := (List.getElem?_eq_some_iff.1 expects).1
  obtain ⟨rule, dot, start, stop⟩ := item
  cases rule with
  | phrase production => exact inside
  | terminal category word => simp [Rule.constituents] at inside
  | seed => exact inside

theorem Sound.possible (sound : charts.Sound grammar words) :
    ∀ row ∈ charts.rows.toList, row.toItem.Possible grammar words := by
  refine sound.induction ⟨.seed, Nat.zero_le _, Nat.le_refl 0, Nat.zero_le _⟩ ?_
  intro id made member calls
  obtain ⟨start, stop⟩ := sound.span _ member
  cases calls with
  | predict isKnown expects isPhrase listed =>
    exact ⟨.phrase (Grammar.mem_productionsOf.1 listed).1, Nat.zero_le _, start, stop⟩
  | word isKnown expects isTerminal stands accepted =>
    have mentioned := mentionsTerminal_of_expects isKnown.2.2.rule expects isTerminal
    exact ⟨.word mentioned stands, Nat.le_refl _, start, stop⟩
  | nothing isKnown expects =>
    have mentioned := mentionsTerminal_of_expects isKnown.2.2.rule expects (by decide)
    exact ⟨.nothing mentioned, Nat.le_refl _, start, stop⟩
  | advance isKnown isAlsoKnown complete notSeed meets expects =>
    exact ⟨isKnown.2.2.rule, dot_lt_arity_of_expects expects, start, stop⟩

/-! ## Enumeration -/

def fittingRules (grammar : Grammar) (words : List String) (start : Nat) : List Rule :=
  [.seed, .terminal .empty ""] ++ grammar.productions.toList.flatMap fun production =>
    .phrase production :: production.body.map fun symbol =>
      .terminal symbol ((words[start]?).getD "")

def itemsOver (grammar : Grammar) (words : List String) (start stop : Nat) : List Item :=
  (fittingRules grammar words start).flatMap fun rule =>
    (List.range (rule.arity + 1)).map fun dot => ⟨rule, dot, start, stop⟩

def possibleItems (grammar : Grammar) (words : List String) : List Item :=
  (List.range (words.length + 1)).flatMap fun start =>
    (List.range (words.length + 1)).flatMap fun stop => itemsOver grammar words start stop

theorem mem_fittingRules {start : Nat} {rule : Rule} (fits : rule.Fits grammar words start) :
    rule ∈ fittingRules grammar words start := by
  simp only [fittingRules, List.mem_append, List.mem_flatMap]
  cases fits with
  | seed => exact .inl (by simp)
  | phrase listed => exact .inr ⟨_, listed, List.mem_cons_self⟩
  | word mentioned stands =>
    obtain ⟨_, production, listed, member⟩ := mentioned
    refine .inr ⟨production, listed, List.mem_cons_of_mem _ ?_⟩
    rw [stands]
    exact List.mem_map.2 ⟨_, member, rfl⟩
  | nothing mentioned => exact .inl (by simp)

theorem mem_possibleItems {item : Item} (possible : item.Possible grammar words) :
    item ∈ possibleItems grammar words := by
  obtain ⟨rule, dot, start, stop⟩ := item
  obtain ⟨fits, small, ordered, inside⟩ := possible
  simp only [possibleItems, itemsOver, List.mem_flatMap, List.mem_range, List.mem_map]
  simp only at small ordered inside
  exact ⟨start, by omega, stop, by omega, rule, mem_fittingRules fits, dot, by omega, rfl⟩

/-- A production has one dot position more than its body has symbols, and each of its symbols two in
a match. -/
theorem sum_dots_of_productions (text : String) (productions : List Production) :
    ((productions.flatMap fun production => Rule.phrase production :: production.body.map
        fun symbol => Rule.terminal symbol text).map fun rule => rule.arity + 1).sum =
      3 * Construction.symbolCount productions + productions.length := by
  induction productions with
  | nil => rfl
  | cons production others inductionHypothesis =>
    have matched : (production.body.map ((fun rule : Rule => rule.arity + 1) ∘
        fun symbol => Rule.terminal symbol text)).sum = 2 * production.body.length := by
      simp [Function.comp_def, Rule.arity, Nat.mul_comm]
    simp only [List.flatMap_cons, List.map_append, List.sum_append, List.map_cons, List.sum_cons,
      List.map_map, inductionHypothesis, List.length_cons, matched]
    simp only [Rule.arity, Construction.symbolCount]
    omega

theorem length_itemsOver (start stop : Nat) :
    (itemsOver grammar words start stop).length =
      3 * Construction.symbolCount grammar.productions.toList + grammar.ruleCount + 4 := by
  have dots := sum_dots_of_productions ((words[start]?).getD "") grammar.productions.toList
  simp only [itemsOver, fittingRules, List.length_flatMap, List.length_map, List.length_range,
    List.map_append, List.sum_append, dots, Grammar.ruleCount, Array.length_toList]
  simp only [List.map_cons, List.map_nil, List.sum_cons, List.sum_nil, Rule.arity]
  omega

theorem length_possibleItems (sentence : Sentence) :
    (possibleItems grammar sentence.words).length = Construction.rowBound grammar sentence := by
  simp only [possibleItems, List.length_flatMap, length_itemsOver, List.map_const',
    List.length_range, List.sum_replicate_nat, Construction.rowBound]
  ring

theorem finite_possible (grammar : Grammar) (words : List String) :
    {item : Item | item.Possible grammar words}.Finite :=
  (List.finite_toSet (possibleItems grammar words)).subset fun _ => mem_possibleItems

/-! ## The number of rows -/

theorem Sound.map_toItem_subset (sound : charts.Sound grammar words) :
    ∀ item ∈ charts.rows.toList.map Row.toItem, item.Possible grammar words := by
  intro item listed
  obtain ⟨row, member, rfl⟩ := List.mem_map.1 listed
  exact sound.possible row member

theorem Sound.rowCount_le_ncard (sound : charts.Sound grammar words) :
    charts.rowCount ≤ {item : Item | item.Possible grammar words}.ncard := by
  classical
  have counted : (charts.rows.toList.map Row.toItem).toFinset.card = charts.rowCount := by
    rw [List.toFinset_card_of_nodup sound.distinct]
    simp [rowCount]
  rw [← counted, ← Set.ncard_coe_finset]
  refine Set.ncard_le_ncard ?_ (finite_possible grammar words)
  intro item listed
  exact sound.map_toItem_subset item (List.mem_toFinset.1 listed)

theorem Sound.rowCount_le_rowBound {sentence : Sentence}
    (sound : charts.Sound grammar sentence.words) :
    charts.rowCount ≤ Construction.rowBound grammar sentence := by
  have lengths := (sound.distinct.subperm fun item listed =>
    mem_possibleItems (sound.map_toItem_subset item listed)).length_le
  rw [length_possibleItems] at lengths
  simpa [rowCount] using lengths

end Charts

end ChartParsing
