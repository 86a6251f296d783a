import ChartParsing.Proofs.Chart.Deduction
import ChartParsing.Proofs.Derivation

/-!
Contract: what a saturated set of items contains.

Owns the closure of items under prediction, matching and advance, where the advance over a constituent
without words is only promised under a condition. A derivation that meets the condition on all such
constituents leads from an item to the item past the derived symbols, so a saturated set contains the
complete item of every production whose body has such a derivation.
-/

set_option autoImplicit false

namespace ChartParsing

def Item.advance (item : Item) (stop : Nat) : Item where
  rule := item.rule
  dot := item.dot + 1
  start := item.start
  stop

@[simp] theorem Row.toItem_advance (row : Row) (stop child : Nat) :
    (row.advance stop child).toItem = row.toItem.advance stop := rfl

theorem Item.eq_of_advance_eq {left right : Item} {stop : Nat}
    (same : left.advance stop = right.advance stop) (stops : left.stop = right.stop) :
    left = right := by
  obtain ⟨rule, dot, start, last⟩ := left
  obtain ⟨otherRule, otherDot, otherStart, otherLast⟩ := right
  simp only [advance, mk.injEq, Nat.add_right_cancel_iff] at same stops ⊢
  exact ⟨same.1, same.2.1, same.2.2.1, stops⟩

theorem Item.expects_of_drop (item : Item) {symbol : Symbol} {rest : List Symbol}
    (remaining : item.rule.constituents.drop item.dot = symbol :: rest) :
    item.next? = some symbol ∧ item.rule.constituents.drop (item.dot + 1) = rest := by
  constructor
  · rw [next?_eq, ← List.head?_drop, remaining]
    rfl
  · rw [← List.drop_drop, remaining]
    rfl

/-- Items that contain everything they call for. A constituent without words advances an item when a
condition on the item and the symbol of the constituent is met. -/
structure Saturated (grammar : Grammar) (words : List String) (condition : Item → Symbol → Prop)
    (holds : Item → Prop) : Prop where
  seed : holds Row.first.toItem
  predict : ∀ {waiting symbol production}, holds waiting → waiting.next? = some symbol →
    symbol.isPhrase = true → production ∈ grammar.productionsOf symbol →
    holds ⟨.phrase production, 0, waiting.stop, waiting.stop⟩
  word : ∀ {waiting symbol text}, holds waiting → waiting.next? = some symbol →
    symbol.isTerminal = true → words[waiting.stop]? = some text →
    (grammar.wordCategory text = symbol ∨ symbol = .unknown) →
    holds ⟨.terminal symbol text, 1, waiting.stop, waiting.stop + 1⟩
  nothing : ∀ {waiting}, holds waiting → waiting.next? = some .empty →
    holds ⟨.terminal .empty "", 1, waiting.stop, waiting.stop⟩
  advance : ∀ {waiting completed}, holds waiting → holds completed → completed.next? = none →
    completed.rule.isSeed = false → waiting.stop = completed.start →
    waiting.next? = some completed.rule.head →
    (completed.start = completed.stop → condition waiting completed.rule.head) →
    holds (waiting.advance completed.stop)

namespace Saturated

variable {grammar : Grammar} {words : List String} {condition : Item → Symbol → Prop}
  {holds : Item → Prop}

/-- An item that expects symbols leads over each derivation of them. The induction is on the
derivation; under a production it starts anew with the item that the production is predicted by. -/
theorem reaches (saturated : Saturated grammar words condition holds) {symbols : List Symbol}
    {start stop : Nat} (derivation : Derivation grammar words symbols start stop) (rule : Rule)
    (dot origin : Nat) (remaining : rule.constituents.drop dot = symbols)
    (known : holds ⟨rule, dot, origin, start⟩)
    (each : derivation.EachEmpty condition rule dot origin) :
    holds ⟨rule, dot + symbols.length, origin, stop⟩ := by
  induction derivation generalizing rule dot origin with
  | done position => exact known
  | @word symbol rest start stop text isTerminal stands fits others inductionHypothesis =>
    obtain ⟨next, later⟩ := Item.expects_of_drop ⟨rule, dot, origin, start⟩ remaining
    have matched := saturated.word known next isTerminal stands fits
    have moved := saturated.advance known matched rfl rfl rfl next
      fun noWords => absurd noWords (Nat.ne_of_lt (Nat.lt_succ_self _))
    have reached := inductionHypothesis rule (dot + 1) origin later moved each
    rwa [List.length_cons, Nat.add_comm rest.length, ← Nat.add_assoc]
  | @nothing rest start stop others inductionHypothesis =>
    obtain ⟨next, later⟩ := Item.expects_of_drop ⟨rule, dot, origin, start⟩ remaining
    have matched := saturated.nothing known next
    have moved := saturated.advance known matched rfl rfl rfl next fun _ => each.1
    have reached := inductionHypothesis rule (dot + 1) origin later moved each.2
    rwa [List.length_cons, Nat.add_comm rest.length, ← Nat.add_assoc]
  | @phrase rest start middle stop production isPhrase listed parts others first second =>
    obtain ⟨next, later⟩ := Item.expects_of_drop ⟨rule, dot, origin, start⟩ remaining
    obtain ⟨eachPart, empty, eachOther⟩ := each
    have opened := saturated.predict known next isPhrase listed
    have completed := first (.phrase production) 0 start rfl opened eachPart
    have complete : (⟨.phrase production, 0 + production.body.length, start, middle⟩ : Item).next? =
        none := by
      rw [Item.next?_eq, List.getElem?_eq_none_iff, Nat.zero_add]
      exact Nat.le_refl _
    have moved := saturated.advance known completed complete rfl rfl next empty
    have reached := second rule (dot + 1) origin later moved eachOther
    rwa [List.length_cons, Nat.add_comm rest.length, ← Nat.add_assoc]

theorem whole (saturated : Saturated grammar words condition holds) {production : Production}
    {stop : Nat} (listed : production ∈ grammar.productionsOf .root)
    (parts : Derivation grammar words production.body 0 stop)
    (each : parts.EachEmpty condition (.phrase production) 0 0) :
    holds ⟨.phrase production, production.body.length, 0, stop⟩ := by
  have opened := saturated.predict saturated.seed rfl (by decide) listed
  have reached := saturated.reaches parts (.phrase production) 0 0 rfl opened each
  rwa [Nat.zero_add] at reached

end Saturated

end ChartParsing
