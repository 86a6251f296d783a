import ChartParsing.Proofs.Chart.Run
import ChartParsing.Proofs.Chart.Trees
import ChartParsing.Proofs.Rewriting

/-!
Contract: rows begin only where the words before them lead to them.

Owns the left context of a row, which is stored nowhere. The root symbol derives the words before a
row, then the head of its rule, and then some more symbols. A row that expects this head stops where
the row begins; it need not be the one that the row was first predicted by.
-/

set_option autoImplicit false

namespace ChartParsing

/-- The symbols that an item has matched. A match of a terminal symbol has matched that symbol. -/
def Item.matched (item : Item) : List Symbol :=
  match item.rule with
  | .terminal category _ => [category]
  | rule => rule.constituents.take item.dot

/-- The root symbol derives the words before a position, then a symbol, and then some more symbols. -/
def Viable (grammar : Grammar) (words : List String) (position : Nat) (symbol : Symbol) : Prop :=
  ∃ rest : List Symbol, grammar.Derives [.symbol .root]
    ((words.take position).map .word ++ .symbol symbol :: rest.map .symbol)

variable {grammar : Grammar} {words : List String}

/-! ## Within an item -/

theorem Item.constituents_eq {item : Item} {symbol : Symbol} (expects : item.next? = some symbol) :
    item.rule.constituents = item.rule.constituents.take item.dot ++
      symbol :: item.rule.constituents.drop (item.dot + 1) := by
  rw [Item.next?_eq] at expects
  obtain ⟨inside, rfl⟩ := List.getElem?_eq_some_iff.1 expects
  rw [← List.drop_eq_getElem_cons inside, List.take_append_drop]

theorem Viable.root : Viable grammar words 0 .root :=
  ⟨[], .refl _⟩

/-- Where the head of an item is viable before it, the symbol that it expects is viable behind it. -/
theorem Viable.expected {item : Item} {symbol : Symbol}
    (viable : Viable grammar words item.start item.rule.head) (ordered : item.start ≤ item.stop)
    (expands : grammar.Derives [.symbol item.rule.head] (item.rule.constituents.map .symbol))
    (covers : grammar.Derives ((item.rule.constituents.take item.dot).map .symbol)
      ((words.extract item.start item.stop).map .word))
    (expects : item.next? = some symbol) : Viable grammar words item.stop symbol := by
  obtain ⟨rest, derives⟩ := viable
  refine ⟨item.rule.constituents.drop (item.dot + 1) ++ rest, ?_⟩
  have opened := derives.trans
    (expands.context ((words.take item.start).map .word) (rest.map .symbol))
  rw [Item.constituents_eq expects, List.map_append, List.append_assoc] at opened
  have passed := opened.trans (covers.context ((words.take item.start).map .word) _)
  rw [← take_append_extract words ordered, List.map_append, List.map_append, List.append_assoc]
  exact passed

namespace Charts

variable {charts : Charts}

/-- What comes before a row: its head is viable there, and another row expects it. -/
structure LeftContext (grammar : Grammar) (words : List String) (charts : Charts) (row : Row) :
    Prop where
  viable : Viable grammar words row.start row.rule.head
  awaited : row.rule.isSeed = false → ∃ waiting ∈ charts.rows.toList,
    waiting.stop = row.start ∧ waiting.next? = some row.rule.head

section Stands

variable {condition : Item → Symbol → Prop} {forest : Array Tree} {row : Row}

/-- The head of a rule with constituents derives them. -/
theorem Stands.expands (stands : Stands grammar words condition forest row)
    (notTerminal : row.rule.isTerminal = false) :
    grammar.Derives [.symbol row.rule.head] (row.rule.constituents.map .symbol) := by
  have listed := stands.listed
  obtain ⟨⟨rule, dot, start, stop⟩, id, parents, origin⟩ := row
  cases rule with
  | phrase production =>
    obtain ⟨isPhrase, member⟩ := listed production rfl
    exact .of_replaces (.production isPhrase member)
  | terminal category word => exact nomatch notTerminal
  | seed => exact .refl _

theorem Stands.derives_matched (stands : Stands grammar words condition forest row) :
    grammar.Derives (row.matched.map .symbol) ((words.extract row.start row.stop).map .word) := by
  obtain ⟨⟨rule, dot, start, stop⟩, id, parents, origin⟩ := row
  cases rule with
  | phrase production =>
    obtain ⟨parts, _⟩ := stands.parts rfl
    exact parts.derives
  | terminal category word =>
    obtain ⟨whole, _⟩ := stands.whole rfl rfl
    exact whole.derives
  | seed =>
    obtain ⟨parts, _⟩ := stands.parts rfl
    exact parts.derives

/-- The symbol that a row expects is viable where the row stops. -/
theorem Stands.viable_next (stands : Stands grammar words condition forest row)
    (viable : Viable grammar words row.start row.rule.head) {symbol : Symbol}
    (expects : row.next? = some symbol) : Viable grammar words row.stop symbol := by
  have notTerminal := isTerminal_eq_false_of_expects expects
  obtain ⟨parts, _⟩ := stands.parts notTerminal
  exact viable.expected parts.start_le_stop (stands.expands notTerminal) parts.derives expects

/-- A row that begins where another stops, for the symbol that the other expects, has a left
context. -/
theorem LeftContext.of_expected {waiting made : Row}
    (context : LeftContext grammar words charts waiting)
    (stands : Stands grammar words condition forest waiting) (member : waiting ∈ charts.rows.toList)
    (begins : made.start = waiting.stop) (expects : waiting.next? = some made.rule.head) :
    LeftContext grammar words charts made where
  viable := by
    rw [begins]
    exact stands.viable_next context.viable expects
  awaited := fun _ => ⟨waiting, member, begins.symm, expects⟩

end Stands

/-- Every row of sound charts stands for derivations, on no condition. -/
theorem Sound.exists_stands (sound : charts.Sound grammar words) :
    ∃ forest, ∀ row ∈ charts.rows.toList, Stands grammar words (fun _ _ => True) forest row := by
  obtain ⟨forest, _, shown⟩ := sound.exists_forest
  have met : charts.MeetOnEmpty fun _ _ => True := fun _ _ _ _ _ => trivial
  exact ⟨forest, sound.stands met shown⟩

theorem Sound.leftContext (sound : charts.Sound grammar words) :
    ∀ row ∈ charts.rows.toList, LeftContext grammar words charts row := by
  obtain ⟨forest, stands⟩ := sound.exists_stands
  refine sound.induction ?first ?called
  case first => exact ⟨.root, fun notSeed => nomatch notSeed⟩
  case called =>
    intro id made _ calls
    cases calls with
    | predict isKnown expects isPhrase listed =>
      obtain ⟨_, rfl⟩ := Grammar.mem_productionsOf.1 listed
      exact isKnown.2.2.of_expected (stands _ isKnown.1) isKnown.1 rfl expects
    | word isKnown expects isTerminal isWord accepted =>
      exact isKnown.2.2.of_expected (stands _ isKnown.1) isKnown.1 rfl expects
    | nothing isKnown expects =>
      exact isKnown.2.2.of_expected (stands _ isKnown.1) isKnown.1 rfl expects
    | advance isKnown isAlsoKnown complete notSeed meets expects =>
      -- An advanced row keeps its rule and where it begins, and with them its left context.
      exact ⟨isKnown.2.2.viable, isKnown.2.2.awaited⟩

/-- Only the seed and productions of the grammar expect symbols. -/
theorem Sound.rule_of_expects (sound : charts.Sound grammar words) {row : Row} {symbol : Symbol}
    (member : row ∈ charts.rows.toList) (expects : row.next? = some symbol) :
    row.rule = .seed ∨ ∃ production ∈ grammar.productions.toList, row.rule = .phrase production := by
  have notTerminal := isTerminal_eq_false_of_expects expects
  have fits := (sound.possible row member).rule
  cases rule : row.rule with
  | phrase production =>
    rw [rule] at fits
    cases fits with
    | phrase listed => exact .inr ⟨production, listed, rfl⟩
  | terminal category word =>
    rw [rule] at notTerminal
    exact nomatch notTerminal
  | seed => exact .inl rfl

end Charts

namespace Construction

/-- At every moment of a construction, what a row has matched derives the words of its span. The row
begins where the seed or a production of the grammar expects its head, and behind the words before it
its head can be the next symbol of what the root symbol derives. -/
theorem viable_at_every_moment (grammar : Grammar) (sentence : Sentence) :
    ∀ steps charts,
      (Progress.advance grammar sentence steps (.running (initial sentence))).charts? =
        some charts →
      ∀ id row, charts.row? id = some row → row.rule.isSeed = false →
        (row.start ≤ row.stop ∧ row.stop ≤ sentence.words.length ∧
          grammar.Derives (row.matched.map .symbol)
            ((sentence.words.extract row.start row.stop).map .word)) ∧
        (∃ rows, charts.rowsOf? row.start = some rows ∧ ∃ waiting ∈ rows,
          (waiting.rule = .seed ∨
            ∃ production ∈ grammar.productions.toList, waiting.rule = .phrase production) ∧
          waiting.next? = some row.rule.head) ∧
        ∃ rest : List Symbol, grammar.Derives [.symbol .root]
          ((sentence.words.take row.start).map .word ++
            .symbol row.rule.head :: rest.map .symbol) := by
  intro steps charts shown id row found notSeed
  have sound := sound_of_advance shown
  have member := Charts.row?_mem found
  obtain ⟨forest, stands⟩ := sound.exists_stands
  obtain ⟨ordered, within⟩ := sound.span row member
  have context := sound.leftContext row member
  obtain ⟨waiting, isStored, stops, expects⟩ := context.awaited notSeed
  have inside : row.start < charts.length := by
    rw [sound.length_eq]
    omega
  refine ⟨⟨ordered, within, (stands row member).derives_matched⟩, ?_, context.viable⟩
  exact ⟨_, sound.coherent.rowsOf?_eq inside, waiting, sound.mem_rowsAt.2 ⟨isStored, stops⟩,
    sound.rule_of_expects isStored expects, expects⟩

/-- A grammar of sentences of two words. -/
def twoWords : Grammar :=
  .addProduction .empty ⟨.root, [.unknown, .unknown], 0, ""⟩

/-- The row of the second word, as soon as it is there, begins behind the first word. -/
theorem viable_second_of_twoWords :
    ∃ charts row,
      (Progress.advance twoWords ⟨["a", "b"], fun _ => false⟩ 13
        (.running (initial ⟨["a", "b"], fun _ => false⟩))).charts? = some charts ∧
      charts.row? 4 = some row ∧ row.rule = .terminal .unknown "b" ∧ row.rule.isSeed = false ∧
      (row.start ≤ row.stop ∧ row.stop ≤ 2 ∧
        twoWords.Derives (row.matched.map .symbol)
          ((["a", "b"].extract row.start row.stop).map .word)) ∧
      (∃ rows, charts.rowsOf? row.start = some rows ∧ ∃ waiting ∈ rows,
        (waiting.rule = .seed ∨
          ∃ production ∈ twoWords.productions.toList, waiting.rule = .phrase production) ∧
        waiting.next? = some row.rule.head) ∧
      ∃ rest : List Symbol, twoWords.Derives [.symbol .root]
        ((["a", "b"].take row.start).map .word ++ .symbol row.rule.head :: rest.map .symbol) := by
  have stored : (Progress.advance twoWords ⟨["a", "b"], fun _ => false⟩ 13
      (.running (initial ⟨["a", "b"], fun _ => false⟩))).charts?.bind (fun charts => charts.row? 4) =
      some ⟨⟨.terminal .unknown "b", 1, 1, 2⟩, 4, [], .scan⟩ := by decide +kernel
  obtain ⟨charts, shown, found⟩ := Option.bind_eq_some_iff.1 stored
  exact ⟨charts, _, shown, found, rfl, rfl, viable_at_every_moment twoWords
    ⟨["a", "b"], fun _ => false⟩ 13 charts shown 4 _ found rfl⟩

end Construction

end ChartParsing
