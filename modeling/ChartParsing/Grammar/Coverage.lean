import ChartParsing.Grammar.Basic

/-!
Contract: whether a grammar defines all that a sentence may need.

Owns the search for a phrase symbol without productions. It walks depth first from the root symbol
through the bodies of productions, in the order in which they were added, and expands every
production at most once; so it ends on cyclic grammars too.
-/

set_option autoImplicit false

namespace ChartParsing

/-- A phrase symbol that is needed and has no production. -/
structure MissingRule where
  symbol : Symbol
  name : String
deriving DecidableEq, Repr

def MissingRule.message (missing : MissingRule) : String :=
  s!"couldn't find rule for symbol {missing.symbol.id} (AKA {missing.name})"

namespace Grammar

/-- Takes the first production with a head out of a list. -/
def takeProduction? (head : Symbol) : List Production → Option (Production × List Production)
  | [] => none
  | production :: others =>
    if production.head = head then some (production, others)
    else (takeProduction? head others).map fun (taken, left) => (taken, production :: left)

/-- What the expansion of every listed production can still put on the agenda, each production
itself counted as well. -/
def expansionLoad : List Production → Nat
  | [] => 0
  | production :: others => production.body.length + 1 + expansionLoad others

/-- Taking a production out takes its share of the load away. -/
theorem expansionLoad_of_takeProduction? {head : Symbol} {productions left : List Production}
    {taken : Production} (found : takeProduction? head productions = some (taken, left)) :
    expansionLoad productions = taken.body.length + 1 + expansionLoad left := by
  induction productions generalizing taken left with
  | nil => simp [takeProduction?] at found
  | cons production others inductionHypothesis =>
    unfold takeProduction? at found
    by_cases matchesHead : production.head = head
    · rw [if_pos matchesHead] at found
      obtain ⟨rfl, rfl⟩ := Prod.mk.inj (Option.some.inj found)
      rfl
    · rw [if_neg matchesHead] at found
      obtain ⟨⟨deeper, rest⟩, deeperFound, same⟩ := Option.map_eq_some_iff.1 found
      obtain ⟨rfl, rfl⟩ := Prod.mk.inj same
      have load := inductionHypothesis deeperFound
      simp only [expansionLoad] at load ⊢
      omega

/-- The first phrase symbol without productions that the walk meets. The agenda holds the symbols
still to be visited; a symbol stays on it until all its productions are expanded. -/
def firstMissing? (grammar : Grammar) (agenda : List Symbol) (unexpanded : List Production) :
    Option Symbol :=
  match agenda with
  | [] => none
  | symbol :: others =>
    if symbol.isPhrase then
      if (grammar.productionsOf symbol).isEmpty then some symbol
      else
        match _found : takeProduction? symbol unexpanded with
        | none => firstMissing? grammar others unexpanded
        | some (production, left) =>
          firstMissing? grammar (production.body ++ symbol :: others) left
    else firstMissing? grammar others unexpanded
termination_by agenda.length + expansionLoad unexpanded
decreasing_by
  · simp
  · have load := expansionLoad_of_takeProduction? _found
    simp only [List.length_append, List.length_cons]
    omega
  · simp

/-- The phrase symbol without productions that makes the grammar unfit for parsing, if any. -/
def missingRule? (grammar : Grammar) : Option MissingRule :=
  (grammar.firstMissing? [.root] grammar.productions.toList).map fun symbol =>
    ⟨symbol, grammar.categoryName symbol⟩

end Grammar

end ChartParsing
