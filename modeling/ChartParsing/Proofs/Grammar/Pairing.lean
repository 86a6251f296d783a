import ChartParsing.Proofs.Grammar.Coverage
import Mathlib.Data.List.Forall2

/-!
Contract: grammars that differ in the numbers of their symbols.

Owns the pairing of two grammars: a relation between their symbols, and one between their productions,
under which the productions of related symbols are related in their order. Both relations are one to
one, so whatever asks a grammar only whether symbols or productions are equal cannot tell the grammars
apart. The walk that looks for a phrase symbol without productions is the first such thing.
-/

set_option autoImplicit false

namespace ChartParsing

/-- How the symbols and the productions of one grammar stand for those of another. -/
structure Pairing (grammar other : Grammar) where
  symbol : Symbol → Symbol → Prop
  production : Production → Production → Prop
  symbol_biUnique : Relator.BiUnique symbol
  production_biUnique : Relator.BiUnique production
  isPhrase : ∀ {left right : Symbol}, symbol left right → left.isPhrase = right.isPhrase
  root : symbol .root .root
  empty : symbol .empty .empty
  unknown : symbol .unknown .unknown
  head : ∀ {left right : Production}, production left right → symbol left.head right.head
  body : ∀ {left right : Production}, production left right →
    List.Forall₂ symbol left.body right.body
  productionsOf : ∀ {left right : Symbol}, symbol left right →
    List.Forall₂ production (grammar.productionsOf left) (other.productionsOf right)

namespace Pairing

open Grammar

theorem biUnique_eq {α : Type} : Relator.BiUnique (Eq : α → α → Prop) :=
  ⟨fun _ _ _ left right => left.trans right.symm, fun _ _ _ left right => left.symm.trans right⟩

theorem forall₂_eq_of_eq {α : Type} {left right : List α} (same : left = right) :
    List.Forall₂ Eq left right := by
  rw [List.forall₂_eq_eq_eq]
  exact same

/-- A grammar beside itself. -/
def same (grammar : Grammar) : Pairing grammar grammar where
  symbol := Eq
  production := Eq
  symbol_biUnique := biUnique_eq
  production_biUnique := biUnique_eq
  isPhrase := congrArg Symbol.isPhrase
  root := rfl
  empty := rfl
  unknown := rfl
  head := congrArg Production.head
  body := fun same => forall₂_eq_of_eq (congrArg Production.body same)
  productionsOf := fun same => forall₂_eq_of_eq (congrArg grammar.productionsOf same)

variable {grammar other : Grammar} (pairing : Pairing grammar other)

theorem eq_iff {left right left' right' : Symbol} (first : pairing.symbol left left')
    (second : pairing.symbol right right') : left = right ↔ left' = right' :=
  Relator.rel_eq pairing.symbol_biUnique first second

theorem production_eq_iff {left right left' right' : Production}
    (first : pairing.production left left') (second : pairing.production right right') :
    left = right ↔ left' = right' :=
  Relator.rel_eq pairing.production_biUnique first second

/-! ## The walk -/

/-- Productions of which, for related heads, those with the heads are related in their order. -/
def Listed (left right : List Production) : Prop :=
  ∀ {head head' : Symbol}, pairing.symbol head head' →
    List.Forall₂ pairing.production (headed head left) (headed head' right)

variable {pairing} {symbol symbol' : Symbol} {unexpanded unexpanded' : List Production}

theorem Listed.exhausted (listed : pairing.Listed unexpanded unexpanded')
    (same : pairing.symbol symbol symbol') :
    takeProduction? symbol unexpanded = none ↔ takeProduction? symbol' unexpanded' = none := by
  have none_iff (head : Symbol) (productions : List Production) :
      takeProduction? head productions = none ↔ headed head productions = [] := by
    rw [takeProduction?_eq_none_iff, headed, List.filter_eq_nil_iff]
    simp only [decide_eq_true_eq, ne_eq]
  rw [none_iff, none_iff]
  have related := listed same
  constructor
  · intro nil
    rw [nil] at related
    exact List.forall₂_nil_left_iff.1 related
  · intro nil
    rw [nil] at related
    exact List.forall₂_nil_right_iff.1 related

/-- The productions taken for related symbols are related, and so are those that are left. -/
theorem Listed.take (listed : pairing.Listed unexpanded unexpanded')
    (same : pairing.symbol symbol symbol') {production production' : Production}
    {left left' : List Production}
    (taken : takeProduction? symbol unexpanded = some (production, left))
    (taken' : takeProduction? symbol' unexpanded' = some (production', left')) :
    pairing.production production production' ∧ pairing.Listed left left' := by
  have isHead := (exists_of_takeProduction? taken).1
  have isHead' := (exists_of_takeProduction? taken').1
  have split {head head' : Symbol} (alike : pairing.symbol head head') :
      List.Forall₂ pairing.production (headed head (production :: left))
        (headed head' (production' :: left')) := by
    rw [← headed_of_takeProduction? taken, ← headed_of_takeProduction? taken']
    exact listed alike
  constructor
  · have first := split same
    rw [headed_cons, headed_cons, if_pos isHead, if_pos isHead'] at first
    exact (List.forall₂_cons.1 first).1
  · intro head head' alike
    have each := split alike
    rw [headed_cons, headed_cons, isHead, isHead'] at each
    by_cases here : symbol = head
    · rw [if_pos here, if_pos ((pairing.eq_iff same alike).1 here)] at each
      exact (List.forall₂_cons.1 each).2
    · rw [if_neg here, if_neg (mt (pairing.eq_iff same alike).2 here)] at each
      exact each

theorem nil_iff (same : pairing.symbol symbol symbol') :
    grammar.productionsOf symbol = [] ↔ other.productionsOf symbol' = [] := by
  have related := pairing.productionsOf same
  rw [← List.length_eq_zero_iff, ← List.length_eq_zero_iff, related.length_eq]

/-- Walks of the two grammars from related symbols expand related productions and find related
symbols. -/
theorem walk_related {agenda agenda' : List Symbol} {expanded expanded' : List Production}
    {found found' : Option Symbol} (walk : grammar.Walk agenda unexpanded expanded found)
    (walk' : other.Walk agenda' unexpanded' expanded' found')
    (agendas : List.Forall₂ pairing.symbol agenda agenda')
    (listed : pairing.Listed unexpanded unexpanded') :
    List.Forall₂ pairing.production expanded expanded' ∧
      Option.Rel pairing.symbol found found' := by
  induction walk generalizing agenda' unexpanded' expanded' found' with
  | done unexpanded =>
    cases agendas
    cases walk'
    exact ⟨.nil, .none⟩
  | missing isPhrase unproductive =>
    cases agendas with
    | cons same _ =>
      have alsoPhrase := (pairing.isPhrase same).symm.trans isPhrase
      have alsoUnproductive := (nil_iff same).1 unproductive
      cases walk' with
      | missing => exact ⟨.nil, .some same⟩
      | terminal notPhrase => simp [alsoPhrase] at notPhrase
      | settled _ productive => exact absurd alsoUnproductive productive
      | expand _ productive => exact absurd alsoUnproductive productive
  | terminal notPhrase rest inductionHypothesis =>
    cases agendas with
    | cons same others =>
      have alsoNotPhrase := (pairing.isPhrase same).symm.trans notPhrase
      cases walk' with
      | missing isPhrase => simp [alsoNotPhrase] at isPhrase
      | terminal _ rest' => exact inductionHypothesis rest' others listed
      | settled isPhrase => simp [alsoNotPhrase] at isPhrase
      | expand isPhrase => simp [alsoNotPhrase] at isPhrase
  | settled isPhrase productive exhausted rest inductionHypothesis =>
    cases agendas with
    | cons same others =>
      have alsoPhrase := (pairing.isPhrase same).symm.trans isPhrase
      have alsoExhausted := (listed.exhausted same).1 exhausted
      cases walk' with
      | missing _ unproductive => exact absurd ((nil_iff same).2 unproductive) productive
      | terminal notPhrase => simp [alsoPhrase] at notPhrase
      | settled _ _ _ rest' => exact inductionHypothesis rest' others listed
      | expand _ _ taken => simp [alsoExhausted] at taken
  | expand isPhrase productive taken rest inductionHypothesis =>
    cases agendas with
    | cons same others =>
      have alsoPhrase := (pairing.isPhrase same).symm.trans isPhrase
      cases walk' with
      | missing _ unproductive => exact absurd ((nil_iff same).2 unproductive) productive
      | terminal notPhrase => simp [alsoPhrase] at notPhrase
      | settled _ _ exhausted => simp [(listed.exhausted same).2 exhausted] at taken
      | expand _ _ taken' rest' =>
        obtain ⟨alike, left⟩ := listed.take same taken taken'
        have agendas := List.rel_append (pairing.body alike) (.cons same others)
        obtain ⟨expanded, found⟩ := inductionHypothesis rest' agendas left
        exact ⟨.cons alike expanded, found⟩

/-- The checks of the two grammars find related symbols. -/
theorem missing_related (pairing : Pairing grammar other) :
    Option.Rel pairing.symbol (grammar.firstMissing? [.root] grammar.productions.toList)
      (other.firstMissing? [.root] other.productions.toList) := by
  obtain ⟨expanded, walk⟩ := grammar.exists_walk [.root] grammar.productions.toList
  obtain ⟨expanded', walk'⟩ := other.exists_walk [.root] other.productions.toList
  exact (walk_related walk walk' (.cons pairing.root .nil) pairing.productionsOf).2

end Pairing

end ChartParsing
