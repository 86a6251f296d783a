import ChartParsing.Proofs.Analysis

/-!
Contract: every tree shows a derivation.

Owns the soundness of parsing: each tree of a parse is the tree of a production of the root symbol
over a derivation of its body, which matches every word of the sentence once and in order.
-/

set_option autoImplicit false

namespace ChartParsing.Session

/-- A tree of a parse shows a derivation of the sentence by a production of the root symbol. -/
theorem exists_derivation_of_mem_trees (session : Session) (threshold : Threshold)
    (sentence : Sentence) {trees : List Tree} {tree : Tree}
    (answered : (session.parse threshold sentence).analysis = .trees trees)
    (member : tree ∈ trees) :
    ∃ production ∈ session.parser.grammar.productionsOf .root,
      ∃ parts : Derivation session.parser.grammar sentence.words production.body 0
          sentence.words.length,
        tree = production.tree session.parser.grammar parts.trees ∧
          parts.positions = List.range sentence.words.length := by
  rcases session.parse_cases threshold sentence with
    ⟨cancelled, _⟩ | ⟨productions, others, same, found⟩
  · rw [cancelled] at answered
    exact nomatch answered
  · obtain rfl : others = trees := Analysis.trees.inj (same.symm.trans answered)
    obtain ⟨index, inside, rfl⟩ := List.getElem_of_mem member
    have sameLength := found.derived.length_eq
    have listed : productions[index] ∈ productions := List.getElem_mem _
    obtain ⟨parts, shown⟩ := found.derived.get (by rwa [sameLength]) inside
    refine ⟨_, ((found.mem_iff _).1 listed).1, parts, shown, ?_⟩
    rw [parts.positions_eq, Nat.sub_zero, List.range_eq_range']

/-- A parser of pairs of words, with the first in a phrase of its own and nothing between them. -/
def nestedFirst : Parser where
  grammar := ((Grammar.empty.register .phrase "NP").2.addProduction
    ⟨.root, [⟨Symbol.phraseBase + 1⟩, .empty, .unknown], 3, "w"⟩).addProduction
    ⟨⟨Symbol.phraseBase + 1⟩, [.unknown], -1, ""⟩
  covered := by decide +kernel

def nestedFirstTree : Tree :=
  ⟨"ROOT", "ROOT", 3, "w",
    [⟨"NP", "NP", -1, "", [⟨"x", "UNKNOWN", 0, "", []⟩]⟩, ⟨"", "EMPTY", 0, "", []⟩,
      ⟨"y", "UNKNOWN", 0, "", []⟩]⟩

theorem parse_nestedFirst :
    ((start nestedFirst).parse .off ⟨["x", "y"], fun _ => false⟩).analysis =
      .trees [nestedFirstTree] := by
  decide +kernel

theorem exists_derivation_of_nestedFirst :
    ((start nestedFirst).parse .off ⟨["x", "y"], fun _ => false⟩).analysis =
        .trees [nestedFirstTree] ∧
      ∃ production ∈ nestedFirst.grammar.productionsOf .root,
        ∃ parts : Derivation nestedFirst.grammar ["x", "y"] production.body 0 2,
          nestedFirstTree = production.tree nestedFirst.grammar parts.trees ∧
            parts.positions = List.range 2 :=
  ⟨parse_nestedFirst, exists_derivation_of_mem_trees (start nestedFirst) .off
    ⟨["x", "y"], fun _ => false⟩ parse_nestedFirst (List.mem_singleton_self _)⟩

end ChartParsing.Session
