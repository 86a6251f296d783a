import ChartParsing.Proofs.Chart.Timing
import Mathlib.Order.Bounds.Defs

/-!
Contract: finished charts against the deduction system.

Owns the deduction system on items, apart from any order of work, and its least closed set. The items
of finished charts are all derivable. They are closed under every rule, except that a complete item
without words need not have advanced an item that came late. In a grammar in which every constituent
covers words nothing is late, and the items are exactly the least closed set.
-/

set_option autoImplicit false

namespace ChartParsing

/-- The items that follow from the seed by prediction, by matching a word or no word, and by
completion. -/
inductive Derivable (grammar : Grammar) (words : List String) : Item → Prop where
  | seed : Derivable grammar words ⟨.seed, 0, 0, 0⟩
  | predict {waiting : Item} {symbol : Symbol} {production : Production}
      (known : Derivable grammar words waiting) (expects : waiting.next? = some symbol)
      (isPhrase : symbol.isPhrase = true) (listed : production ∈ grammar.productionsOf symbol) :
      Derivable grammar words ⟨.phrase production, 0, waiting.stop, waiting.stop⟩
  | word {waiting : Item} {symbol : Symbol} {text : String}
      (known : Derivable grammar words waiting) (expects : waiting.next? = some symbol)
      (isTerminal : symbol.isTerminal = true) (stands : words[waiting.stop]? = some text)
      (fits : grammar.wordCategory text = symbol ∨ symbol = .unknown) :
      Derivable grammar words ⟨.terminal symbol text, 1, waiting.stop, waiting.stop + 1⟩
  | nothing {waiting : Item} (known : Derivable grammar words waiting)
      (expects : waiting.next? = some .empty) :
      Derivable grammar words ⟨.terminal .empty "", 1, waiting.stop, waiting.stop⟩
  | complete {waiting completed : Item} (known : Derivable grammar words waiting)
      (alsoKnown : Derivable grammar words completed) (complete : completed.next? = none)
      (notSeed : completed.rule.isSeed = false) (meets : waiting.stop = completed.start)
      (expects : waiting.next? = some completed.rule.head) :
      Derivable grammar words (waiting.advance completed.stop)

section Deduction

variable {grammar : Grammar} {words : List String}

/-- Items closed under every rule of the deduction system, on all constituents alike. -/
def DeductivelyClosed (grammar : Grammar) (words : List String) (known : Set Item) : Prop :=
  Saturated grammar words (fun _ _ => True) (· ∈ known)

theorem DeductivelyClosed.mem_of_derivable {known : Set Item} {item : Item}
    (closed : DeductivelyClosed grammar words known) (derivable : Derivable grammar words item) :
    item ∈ known := by
  induction derivable with
  | seed => exact closed.seed
  | predict _ expects isPhrase listed inductionHypothesis =>
    exact closed.predict inductionHypothesis expects isPhrase listed
  | word _ expects isTerminal stands fits inductionHypothesis =>
    exact closed.word inductionHypothesis expects isTerminal stands fits
  | nothing _ expects inductionHypothesis => exact closed.nothing inductionHypothesis expects
  | complete _ _ complete notSeed meets expects first second =>
    exact closed.advance first second complete notSeed meets expects fun _ => trivial

namespace Charts

variable {charts : Charts}

/-- The items of the rows of a chart. -/
def itemsAt (charts : Charts) (position : Nat) : Set Item :=
  {item | ∃ rows, charts.rowsOf? position = some rows ∧ ∃ row ∈ rows, row.toItem = item}

/-- The items that the chart of the position where they stop has a row of. -/
def items (charts : Charts) : Set Item :=
  {item | item ∈ charts.itemsAt item.stop}

theorem Sound.mem_itemsAt (sound : charts.Sound grammar words) {position : Nat} {item : Item} :
    item ∈ charts.itemsAt position ↔ charts.Has item ∧ item.stop = position := by
  constructor
  · rintro ⟨rows, answer, row, member, rfl⟩
    have inside : position < charts.length := by
      by_contra outside
      have absent : charts.charts[position]? = none :=
        Array.getElem?_eq_none (Nat.not_lt.1 outside)
      simp [rowsOf?, absent] at answer
    rw [sound.coherent.rowsOf?_eq inside] at answer
    obtain rfl := Option.some.inj answer
    obtain ⟨stored, stops⟩ := sound.mem_rowsAt.1 member
    exact ⟨⟨row, stored, rfl⟩, stops⟩
  · rintro ⟨⟨row, stored, rfl⟩, rfl⟩
    have inside : row.stop < charts.length := by
      rw [sound.length_eq]
      exact Nat.lt_succ_of_le (sound.span row stored).2
    exact ⟨_, sound.coherent.rowsOf?_eq inside, row, sound.mem_rowsAt.2 ⟨stored, rfl⟩, rfl⟩

theorem Sound.mem_items (sound : charts.Sound grammar words) {item : Item} :
    item ∈ charts.items ↔ charts.Has item := by
  show item ∈ charts.itemsAt item.stop ↔ charts.Has item
  rw [sound.mem_itemsAt]
  exact and_iff_left rfl

theorem Sound.derivable (sound : charts.Sound grammar words) :
    ∀ row ∈ charts.rows.toList, Derivable grammar words row.toItem := by
  refine sound.induction .seed ?_
  intro id made _ calls
  cases calls with
  | predict isKnown expects isPhrase listed =>
    exact .predict isKnown.2.2 expects isPhrase listed
  | word isKnown expects isTerminal stands accepted =>
    exact .word isKnown.2.2 expects isTerminal stands (accepts_eq_true_iff.1 accepted)
  | nothing isKnown expects => exact .nothing isKnown.2.2 expects
  | advance isKnown isAlsoKnown complete notSeed meets expects =>
    exact .complete isKnown.2.2 isAlsoKnown.2.2 complete notSeed meets expects

/-- In a grammar in which every constituent covers words no rule of a row expects the empty
terminal. -/
theorem not_expects_empty {item : Item} (wordful : grammar.Wordful)
    (fits : item.rule.Fits grammar words item.start) : item.next? ≠ some .empty := by
  intro expects
  rw [Item.next?_eq] at expects
  have member := List.mem_of_getElem? expects
  obtain ⟨rule, dot, start, stop⟩ := item
  cases fits with
  | seed =>
    have isRoot : Symbol.empty = .root := List.mem_singleton.1 member
    exact absurd isRoot (by decide)
  | phrase listed => exact (wordful _ listed).2 member
  | word mentioned stands => exact List.not_mem_nil member
  | nothing mentioned => exact List.not_mem_nil member

/-- In a grammar in which every constituent covers words every complete row covers words. -/
theorem Sound.covers_of_wordful (sound : charts.Sound grammar words) (wordful : grammar.Wordful) :
    ∀ row ∈ charts.rows.toList, row.next? = none → row.rule.isSeed = false →
      row.start < row.stop := by
  refine sound.induction (fun complete => nomatch complete) ?_
  intro id made _ calls complete notSeed
  cases calls with
  | predict isKnown expects isPhrase listed =>
    have some := (Derivation.bodies_of_wordful wordful listed).1
    exact absurd (List.length_eq_zero_iff.1 (Nat.le_zero.1 (List.getElem?_eq_none_iff.1 complete)))
      some
  | word isKnown expects isTerminal stands accepted => exact Nat.lt_succ_self _
  | nothing isKnown expects =>
    exact absurd expects (not_expects_empty wordful (sound.possible _ isKnown.1).rule)
  | @advance waiting completed isKnown isAlsoKnown childComplete childNotSeed meets expects =>
    have before := (sound.span waiting isKnown.1).1
    have covers := isAlsoKnown.2.2 childComplete childNotSeed
    show waiting.start < completed.stop
    omega

end Charts

end Deduction

namespace Construction

variable {grammar : Grammar} {sentence : Sentence} {charts : Charts}

/-- Over constituents that cover words finished charts are closed without any condition. -/
theorem Finished.closed_of_covering (finished : Finished grammar sentence charts) :
    Saturated grammar sentence.words (fun _ _ => False) charts.Has :=
  { finished.saturated with
    advance := by
      intro waiting completed known alsoKnown complete notSeed meets expects covers
      exact finished.saturated.advance known alsoKnown complete notSeed meets expects
        fun noWords => (covers noWords).elim }

theorem Finished.closed_of_wordful (finished : Finished grammar sentence charts)
    (wordful : grammar.Wordful) :
    Saturated grammar sentence.words (fun _ _ => True) charts.Has :=
  { finished.saturated with
    advance := by
      intro waiting completed known alsoKnown complete notSeed meets expects _
      have covers : completed.start < completed.stop := by
        obtain ⟨row, stored, rfl⟩ := alsoKnown
        exact finished.sound.covers_of_wordful wordful row stored complete notSeed
      exact finished.saturated.advance known alsoKnown complete notSeed meets expects
        fun noWords => absurd noWords (Nat.ne_of_lt covers) }

theorem Finished.isLeast_items (finished : Finished grammar sentence charts)
    (wordful : grammar.Wordful) :
    IsLeast {known | DeductivelyClosed grammar sentence.words known} charts.items := by
  have sound := finished.sound
  have sameItems : charts.items = {item | charts.Has item} := Set.ext fun _ => sound.mem_items
  constructor
  · rw [sameItems]
    exact finished.closed_of_wordful wordful
  · intro known closed item member
    obtain ⟨row, stored, rfl⟩ := sound.mem_items.1 member
    exact closed.mem_of_derivable (sound.derivable row stored)

/-- A construction that is not cancelled fills the charts with derivable items. The charts are closed
under the deduction system over constituents that cover words, and over all constituents where the
grammar has no others; then their items are the least closed set. -/
theorem finished_items_derivable_and_closed (grammar : Grammar) (sentence : Sentence) :
    (construct grammar sentence = .cancelled ∧
      ∃ position, sentence.raisesStop position = true) ∨
    ∃ charts, construct grammar sentence = .finished charts ∧
      (∀ position, ∀ item ∈ charts.itemsAt position,
        item.stop = position ∧ Derivable grammar sentence.words item) ∧
      Saturated grammar sentence.words (fun _ _ => False) (· ∈ charts.items) ∧
      (grammar.Wordful →
        IsLeast {known | DeductivelyClosed grammar sentence.words known} charts.items ∧
        ∀ item, item ∈ charts.items ↔ Derivable grammar sentence.words item) := by
  rcases construct_ends grammar sentence with ⟨charts, ended⟩ | cancelled
  · right
    have finished := finished_of_construct ended
    have sound := finished.sound
    have sameItems : (· ∈ charts.items) = charts.Has := funext fun _ => propext sound.mem_items
    refine ⟨charts, ended, ?_, ?_, ?_⟩
    · intro position item member
      obtain ⟨⟨row, stored, rfl⟩, stops⟩ := sound.mem_itemsAt.1 member
      exact ⟨stops, sound.derivable row stored⟩
    · rw [sameItems]
      exact finished.closed_of_covering
    · intro wordful
      have least := finished.isLeast_items wordful
      refine ⟨least, fun item => ⟨?_, least.1.mem_of_derivable⟩⟩
      intro member
      obtain ⟨row, stored, rfl⟩ := sound.mem_items.1 member
      exact sound.derivable row stored
  · exact .inl cancelled

end Construction

end ChartParsing
