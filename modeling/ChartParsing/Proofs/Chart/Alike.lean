import ChartParsing.Proofs.Chart.Run
import ChartParsing.Proofs.Chart.Trees
import ChartParsing.Proofs.Grammar.Pairing

/-!
Contract: charts of two grammars side by side.

Owns what it means that rules, items, rows and charts of two constructions are alike, when their
grammars are paired and their sentences have words of paired categories. Items that are alike are found
or missed together, so rows that are alike are entered together and charts stay alike.
-/

set_option autoImplicit false

namespace ChartParsing

/-- Paired grammars with sentences whose words are of paired categories and raise the stop flag at the
same positions. -/
structure Lockstep (grammar grammar' : Grammar) (sentence sentence' : Sentence) extends
    Pairing grammar grammar' where
  words : List.Forall₂
    (fun word word' => symbol (grammar.wordCategory word) (grammar'.wordCategory word'))
    sentence.words sentence'.words
  raisesStop : ∀ position, sentence.raisesStop position = sentence'.raisesStop position

/-- Paired grammars with one sentence, when they pair the categories of all words. -/
def Pairing.lockstep {grammar grammar' : Grammar} (pairing : Pairing grammar grammar')
    (sentence : Sentence)
    (words : ∀ word, pairing.symbol (grammar.wordCategory word) (grammar'.wordCategory word)) :
    Lockstep grammar grammar' sentence sentence where
  toPairing := pairing
  words := List.forall₂_same.2 fun word _ => words word
  raisesStop := fun _ => rfl

namespace Lockstep

open Construction

variable {grammar grammar' : Grammar} {sentence sentence' : Sentence}

/-! ## What is alike -/

/-- Rules of rows over one span: paired productions, matches of the words at one position, or matches
of no word. -/
inductive Rules (lockstep : Lockstep grammar grammar' sentence sentence') (start stop : Nat) :
    Rule → Rule → Prop where
  | seed : Rules lockstep start stop .seed .seed
  | phrase {production production' : Production}
      (paired : lockstep.production production production') :
      Rules lockstep start stop (.phrase production) (.phrase production')
  | word {symbol symbol' : Symbol} {text text' : String} (paired : lockstep.symbol symbol symbol')
      (stands : sentence.words[start]? = some text)
      (stands' : sentence'.words[start]? = some text') (one : stop = start + 1) :
      Rules lockstep start stop (.terminal symbol text) (.terminal symbol' text')
  | nothing (noWords : stop = start) :
      Rules lockstep start stop (.terminal .empty "") (.terminal .empty "")

variable (lockstep : Lockstep grammar grammar' sentence sentence')

structure Items (item item' : Item) : Prop where
  rule : lockstep.Rules item.start item.stop item.rule item'.rule
  dot : item.dot = item'.dot
  start : item.start = item'.start
  stop : item.stop = item'.stop

structure Rows (row row' : Row) : Prop where
  item : lockstep.Items row.toItem row'.toItem
  id : row.id = row'.id
  parents : row.parents = row'.parents
  origin : row.origin = row'.origin

/-- Alike charts list the same numbers, under which rows that are alike are stored. -/
structure Stores (charts charts' : Charts) : Prop where
  rows : List.Forall₂ lockstep.Rows charts.rows.toList charts'.rows.toList
  charts : charts.charts = charts'.charts

variable {lockstep}

/-! ## Rules and items -/

section Rules

variable {start stop : Nat} {rule rule' : Rule}

theorem Rules.head (alike : lockstep.Rules start stop rule rule') :
    lockstep.symbol rule.head rule'.head := by
  cases alike with
  | seed => exact lockstep.root
  | phrase paired => exact lockstep.head paired
  | word paired => exact paired
  | nothing => exact lockstep.empty

theorem Rules.constituents (alike : lockstep.Rules start stop rule rule') :
    List.Forall₂ lockstep.symbol rule.constituents rule'.constituents := by
  cases alike with
  | seed => exact .cons lockstep.root .nil
  | phrase paired => exact lockstep.body paired
  | word => exact .nil
  | nothing => exact .nil

theorem Rules.arity (alike : lockstep.Rules start stop rule rule') : rule.arity = rule'.arity := by
  cases alike with
  | seed => rfl
  | phrase paired => exact (lockstep.body paired).length_eq
  | word => rfl
  | nothing => rfl

theorem Rules.isPhrase (alike : lockstep.Rules start stop rule rule') :
    rule.isPhrase = rule'.isPhrase := by
  cases alike <;> rfl

theorem Rules.isSeed (alike : lockstep.Rules start stop rule rule') :
    rule.isSeed = rule'.isSeed := by
  cases alike <;> rfl

/-- A rule that is not the match of a terminal is alike over every span. -/
theorem Rules.over (alike : lockstep.Rules start stop rule rule')
    (notTerminal : rule.isTerminal = false) (start' stop' : Nat) :
    lockstep.Rules start' stop' rule rule' := by
  cases alike with
  | seed => exact .seed
  | phrase paired => exact .phrase paired
  | word => exact nomatch notTerminal
  | nothing => exact nomatch notTerminal

/-- Rules over one span are equal exactly if the rules that are like them are. -/
theorem Rules.eq_iff {other other' : Rule} (alike : lockstep.Rules start stop rule rule')
    (also : lockstep.Rules start stop other other') : rule = other ↔ rule' = other' := by
  cases alike with
  | seed =>
    cases also with
    | seed => exact iff_of_true rfl rfl
    | _ => exact iff_of_false nofun nofun
  | phrase paired =>
    cases also with
    | phrase alsoPaired =>
      rw [Rule.phrase.injEq, Rule.phrase.injEq, lockstep.production_eq_iff paired alsoPaired]
    | _ => exact iff_of_false nofun nofun
  | word paired stands stands' one =>
    cases also with
    | word alsoPaired alsoStands alsoStands' =>
      obtain rfl := Option.some.inj (stands.symm.trans alsoStands)
      obtain rfl := Option.some.inj (stands'.symm.trans alsoStands')
      rw [Rule.terminal.injEq, Rule.terminal.injEq, lockstep.eq_iff paired alsoPaired]
      exact and_congr_right fun _ => iff_of_true rfl rfl
    | nothing noWords => omega
    | _ => exact iff_of_false nofun nofun
  | nothing noWords =>
    cases also with
    | word _ _ _ one => omega
    | nothing => exact iff_of_true rfl rfl
    | _ => exact iff_of_false nofun nofun

end Rules

section Items

variable {item item' other other' : Item}

theorem Items.placement (alike : lockstep.Items item item') : item.placement = item'.placement := by
  rw [Item.placement, Item.placement, alike.start, alike.stop, alike.dot]

theorem Items.next? (alike : lockstep.Items item item') :
    Option.Rel lockstep.symbol item.next? item'.next? := by
  rw [Item.next?_eq, Item.next?_eq, ← alike.dot]
  exact related_getElem? alike.rule.constituents item.dot

theorem Items.isComplete (alike : lockstep.Items item item') :
    item.isComplete = item'.isComplete := by
  rw [Item.isComplete, Item.isComplete, alike.rule.arity, alike.dot]

/-- Items are equal exactly if the items that are like them are. -/
theorem Items.eq_iff (alike : lockstep.Items item item') (also : lockstep.Items other other') :
    item = other ↔ item' = other' := by
  obtain ⟨rule, dot, start, stop⟩ := item
  obtain ⟨rule', dot', start', stop'⟩ := item'
  obtain ⟨otherRule, otherDot, otherStart, otherStop⟩ := other
  obtain ⟨otherRule', otherDot', otherStart', otherStop'⟩ := other'
  obtain ⟨rules, dots, starts, stops⟩ := alike
  obtain ⟨otherRules, otherDots, otherStarts, otherStops⟩ := also
  dsimp only at *
  subst dots starts stops otherDots otherStarts otherStops
  simp only [Item.mk.injEq]
  constructor
  · rintro ⟨rfl, rfl, rfl, rfl⟩
    exact ⟨(rules.eq_iff otherRules).1 rfl, rfl, rfl, rfl⟩
  · rintro ⟨rfl, rfl, rfl, rfl⟩
    exact ⟨(rules.eq_iff otherRules).2 rfl, rfl, rfl, rfl⟩

end Items

section Rows

variable {row row' : Row}

theorem Rows.numbered (alike : lockstep.Rows row row') (id : Nat) :
    lockstep.Rows (row.numbered id) (row'.numbered id) :=
  ⟨alike.item, rfl, alike.parents, alike.origin⟩

theorem Rows.advance (alike : lockstep.Rows row row') {symbol : Symbol}
    (expects : row.next? = some symbol) (stop child : Nat) :
    lockstep.Rows (row.advance stop child) (row'.advance stop child) where
  item := ⟨alike.item.rule.over (Charts.isTerminal_eq_false_of_expects expects) _ _,
    congrArg (· + 1) alike.item.dot, alike.item.start, rfl⟩
  id := rfl
  parents := congrArg (child :: ·) alike.parents
  origin := rfl

theorem Rows.predicted {production production' : Production}
    (paired : lockstep.production production production') (position : Nat) :
    lockstep.Rows (Row.opening (.phrase production) position position .predict)
      (Row.opening (.phrase production') position position .predict) :=
  ⟨⟨.phrase paired, rfl, rfl, rfl⟩, rfl, rfl, rfl⟩

theorem Rows.awaits (alike : lockstep.Rows row row') {symbol symbol' : Symbol}
    (paired : lockstep.symbol symbol symbol') (position : Nat) :
    awaits row position symbol = awaits row' position symbol' := by
  have expects : row.next? = some symbol ↔ row'.next? = some symbol' := by
    have related := alike.item.next?
    generalize row.next? = next at related ⊢
    generalize row'.next? = next' at related ⊢
    cases related with
    | none => exact iff_of_false nofun nofun
    | some found => rw [Option.some.injEq, Option.some.injEq, lockstep.eq_iff found paired]
  rw [Construction.awaits, Construction.awaits, alike.item.stop, decide_eq_decide.2 expects]

theorem Rows.isRootOver (alike : lockstep.Rows row row') (position : Nat) :
    Charts.isRootOver position row = Charts.isRootOver position row' := by
  have head := alike.item.rule.head
  unfold Charts.isRootOver
  rw [alike.item.rule.isPhrase, decide_eq_decide.2 (lockstep.eq_iff head lockstep.root),
    alike.item.isComplete, alike.item.start, alike.item.stop]

end Rows

/-! ## Charts -/

section Stores

variable {charts charts' : Charts} (alike : lockstep.Stores charts charts')

include alike

theorem Stores.length : charts.length = charts'.length := by
  rw [Charts.length, Charts.length, alike.charts]

theorem Stores.size? (position : Nat) : charts.size? position = charts'.size? position := by
  rw [Charts.size?, Charts.size?, alike.charts]

theorem Stores.row? (id : Nat) : Option.Rel lockstep.Rows (charts.row? id) (charts'.row? id) := by
  rw [Charts.row?, Charts.row?, ← Array.getElem?_toList, ← Array.getElem?_toList]
  exact related_getElem? alike.rows id

theorem Stores.rowAt? (position index : Nat) :
    Option.Rel lockstep.Rows (charts.rowAt? position index) (charts'.rowAt? position index) := by
  unfold Charts.rowAt?
  rw [alike.charts]
  cases charts'.charts[position]? with
  | none => exact .none
  | some chart =>
    dsimp only
    cases chart.ids[index]? with
    | none => exact .none
    | some id => exact alike.row? id

theorem Stores.rowsOf? (position : Nat) :
    Option.Rel (List.Forall₂ lockstep.Rows) (charts.rowsOf? position)
      (charts'.rowsOf? position) := by
  unfold Charts.rowsOf?
  rw [alike.charts]
  cases charts'.charts[position]? with
  | none => exact .none
  | some chart =>
    refine related_mapM (List.forall₂_same.2 fun _ _ => rfl) fun id other same => ?_
    obtain rfl : id = other := same
    exact alike.row? id

theorem Stores.roots? (position : Nat) :
    Option.Rel (List.Forall₂ lockstep.Rows) (charts.roots? position) (charts'.roots? position) := by
  refine related_map? (alike.rowsOf? position) fun rows rows' each => ?_
  refine List.rel_filter (fun row row' rows => ?_) each
  exact Bool.eq_iff_iff.1 (rows.isRootOver position)

theorem Stores.holds? {item item' : Item} (items : lockstep.Items item item') (position : Nat) :
    charts.holds? position item = charts'.holds? position item' := by
  unfold Charts.holds?
  rw [alike.charts]
  refine congrArg (Option.map · _) (funext fun chart => ?_)
  rw [items.placement]
  refine congrArg ((chart.placed item'.placement).any ·) (funext fun id => ?_)
  have found := alike.row? id
  generalize charts.row? id = row? at found
  generalize charts'.row? id = row?' at found
  cases found with
  | none => rfl
  | some rows => exact decide_eq_decide.2 (rows.item.eq_iff items)

theorem Stores.add? {row row' : Row} (rows : lockstep.Rows row row') (position : Nat) :
    Option.Rel (fun added added' => lockstep.Stores added.2 added'.2) (charts.add? position row)
      (charts'.add? position row') := by
  obtain ⟨stored, perPosition⟩ := charts
  obtain ⟨stored', perPosition'⟩ := charts'
  obtain ⟨storedAlike, same⟩ := alike
  obtain rfl : perPosition = perPosition' := same
  have size : stored.size = stored'.size := storedAlike.length_eq
  unfold Charts.add?
  dsimp only
  by_cases inside : position < perPosition.size
  · rw [if_pos inside, if_pos inside]
    refine .some ⟨?_, ?_⟩
    · rw [Array.toList_push, Array.toList_push, size]
      exact List.rel_append storedAlike (.cons (rows.numbered _) .nil)
    · simp only [size, rows.item.placement]
  · rw [if_neg inside, if_neg inside]
    exact .none

/-- Rows that are alike are entered side by side, or both are known. -/
theorem Stores.enter? {row row' : Row} (rows : lockstep.Rows row row') (position : Nat) :
    Option.Rel lockstep.Stores (charts.enter? position row) (charts'.enter? position row') := by
  unfold Charts.enter?
  rw [alike.holds? rows.item]
  have added := alike.add? rows position
  cases charts'.holds? position row'.toItem with
  | none => exact .none
  | some known =>
    cases known with
    | true => exact .some alike
    | false =>
      generalize charts.add? position row = added? at added
      generalize charts'.add? position row' = added?' at added
      cases added with
      | none => exact .none
      | some stores => exact .some stores

end Stores

end Lockstep

end ChartParsing
