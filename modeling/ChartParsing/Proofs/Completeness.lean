import ChartParsing.Proofs.Analysis
import Mathlib.Data.Set.Card

/-!
Contract: which sentences have trees, and how many.

Owns the completeness of parsing. A sentence has a tree exactly if it has a derivation in which every
constituent without words is in time, so a derivation whose constituents all cover words is enough.
In a grammar without empty bodies and empty terminals nothing can be late: there is exactly one tree
for each production of the root symbol that derives the sentence.
-/

set_option autoImplicit false

namespace ChartParsing.Session

open Construction

/-! ## Recognition -/

/-- Which sentences are recognized. A sentence may have derivations and yet no tree, when in each of
them some item is late for a constituent without words. -/
theorem trees_ne_nil_iff_derives_in_time (session : Session) (threshold : Threshold)
    (sentence : Sentence) :
    ((session.parse threshold sentence).analysis = .cancelled ∧
      ∃ position, sentence.raisesStop position = true) ∨
    ∃ trees, (session.parse threshold sentence).analysis = .trees trees ∧
      (trees ≠ [] ↔ ∃ production ∈ session.parser.grammar.productionsOf .root,
        ∃ parts : Derivation session.parser.grammar sentence.words production.body 0
            sentence.words.length,
          parts.EachEmpty (InTime session.parser.grammar sentence) (.phrase production) 0 0) := by
  rcases session.parse_cases threshold sentence with stopped | ⟨productions, trees, same, found⟩
  · exact .inl stopped
  · exact .inr ⟨trees, same, found.trees_ne_nil_iff⟩

def twoOptional : Parser where
  grammar :=
    let first : Symbol := ⟨Symbol.phraseBase + 1⟩
    let second : Symbol := ⟨Symbol.phraseBase + 2⟩
    ((Grammar.empty.addProduction ⟨.root, [first, second], 0, ""⟩).addProduction
      ⟨first, [.empty], 0, ""⟩).addProduction ⟨second, [.empty], 0, ""⟩
  covered := by decide +kernel

/-- The sentence without words has a derivation, but the second part is late for its empty
terminal. -/
theorem twoOptional_derives_without_trees :
    Nonempty (Derivation twoOptional.grammar [] [.root] 0 0) ∧
      ((start twoOptional).parse .off ⟨[], fun _ => false⟩).analysis = .trees [] := by
  have first : Derivation twoOptional.grammar [] [⟨Symbol.phraseBase + 1⟩] 0 0 :=
    .phrase ⟨⟨Symbol.phraseBase + 1⟩, [.empty], 0, ""⟩ (by decide) (by decide +kernel)
      (.nothing (.done 0)) (.done 0)
  have second : Derivation twoOptional.grammar [] [⟨Symbol.phraseBase + 2⟩] 0 0 :=
    .phrase ⟨⟨Symbol.phraseBase + 2⟩, [.empty], 0, ""⟩ (by decide) (by decide +kernel)
      (.nothing (.done 0)) (.done 0)
  have whole : Derivation twoOptional.grammar [] [.root] 0 0 :=
    .phrase ⟨.root, [⟨Symbol.phraseBase + 1⟩, ⟨Symbol.phraseBase + 2⟩], 0, ""⟩ (by decide)
      (by decide +kernel) (first.append second) (.done 0)
  exact ⟨⟨whole⟩, by decide +kernel⟩

/-- Only constituents without words are ever late: a sentence with a derivation in which every
constituent covers words has a tree. -/
theorem trees_ne_nil_of_covering_derivation (session : Session) (threshold : Threshold)
    (sentence : Sentence) {production : Production}
    (listed : production ∈ session.parser.grammar.productionsOf .root)
    (parts : Derivation session.parser.grammar sentence.words production.body 0
      sentence.words.length)
    (covers : parts.EachEmpty (fun _ _ => False) (.phrase production) 0 0) :
    ((session.parse threshold sentence).analysis = .cancelled ∧
      ∃ position, sentence.raisesStop position = true) ∨
    ∃ trees, (session.parse threshold sentence).analysis = .trees trees ∧ trees ≠ [] := by
  rcases session.parse_cases threshold sentence with stopped | ⟨productions, trees, same, found⟩
  · exact .inl stopped
  · refine .inr ⟨trees, same, found.trees_ne_nil_iff.2 ⟨production, listed, parts, ?_⟩⟩
    exact parts.eachEmpty_mono (fun _ _ impossible => impossible.elim) covers

/-! ## Exactness -/

/-- Trees of which there is exactly one for each production of the root symbol that derives the
words. -/
structure ExactTrees (grammar : Grammar) (words : List String) (trees : List Tree) : Prop where
  oneEach : ∃ productions : List Production, productions.Nodup ∧
    (∀ production, production ∈ productions ↔ production ∈ grammar.productionsOf .root ∧
      Nonempty (Derivation grammar words production.body 0 words.length)) ∧
    List.Forall₂ (fun production tree =>
      ∃ parts : Derivation grammar words production.body 0 words.length,
        tree = production.tree grammar parts.trees) productions trees
  nil_iff : trees = [] ↔ ¬ Nonempty (Derivation grammar words [.root] 0 words.length)
  length_eq : trees.length = Set.ncard {production | production ∈ grammar.productionsOf .root ∧
    Nonempty (Derivation grammar words production.body 0 words.length)}

theorem exactTrees_of_forall₂ {grammar : Grammar} {words : List String} {trees : List Tree}
    {productions : List Production} (distinct : productions.Nodup)
    (mem_iff : ∀ production, production ∈ productions ↔ production ∈ grammar.productionsOf .root ∧
      Nonempty (Derivation grammar words production.body 0 words.length))
    (derived : List.Forall₂ (fun production tree =>
      ∃ parts : Derivation grammar words production.body 0 words.length,
        tree = production.tree grammar parts.trees) productions trees) :
    ExactTrees grammar words trees where
  oneEach := ⟨productions, distinct, mem_iff, derived⟩
  nil_iff := by
    have isPhrase : Symbol.root.isPhrase = true := by decide
    have some : trees ≠ [] ↔ Nonempty (Derivation grammar words [.root] 0 words.length) := by
      rw [Derivation.nonempty_singleton_iff isPhrase, ← List.length_pos_iff_ne_nil,
        ← derived.length_eq, List.length_pos_iff_exists_mem]
      exact exists_congr mem_iff
    rw [← some, not_not]
  length_eq := by
    have same : {production | production ∈ grammar.productionsOf .root ∧
        Nonempty (Derivation grammar words production.body 0 words.length)} =
        (productions.toFinset : Set Production) := by
      ext production
      rw [Set.mem_ofPred_eq, ← mem_iff, Finset.mem_coe, List.mem_toFinset]
    rw [same, Set.ncard_coe_finset, List.toFinset_card_of_nodup distinct, derived.length_eq]

/-- In a grammar without empty bodies and empty terminals no derivation is late. -/
theorem Answered.mem_iff_of_wordful {grammar : Grammar} {sentence : Sentence}
    {productions : List Production} {trees : List Tree}
    (answered : Answered grammar sentence productions trees) (wordful : grammar.Wordful)
    (production : Production) :
    production ∈ productions ↔ production ∈ grammar.productionsOf .root ∧
      Nonempty (Derivation grammar sentence.words production.body 0 sentence.words.length) := by
  rw [answered.mem_iff]
  refine and_congr_right fun listed => ⟨fun ⟨parts, _⟩ => ⟨parts⟩, fun ⟨parts⟩ => ⟨parts, ?_⟩⟩
  have noEmpty := (Derivation.bodies_of_wordful wordful listed).2
  exact parts.eachEmpty_of_wordful wordful noEmpty _ _ _ _

/-- In a grammar without empty bodies and empty terminals a parse that is not cancelled comes to
exactly one tree for each production of the root symbol that derives the sentence. -/
theorem parse_exact_of_wordful (session : Session) (threshold : Threshold) (sentence : Sentence)
    (wordful : session.parser.grammar.Wordful) :
    ((session.parse threshold sentence).analysis = .cancelled ∧
      ∃ position, sentence.raisesStop position = true) ∨
    ∃ trees, (session.parse threshold sentence).analysis = .trees trees ∧
      ExactTrees session.parser.grammar sentence.words trees := by
  rcases session.parse_cases threshold sentence with stopped | ⟨productions, trees, same, found⟩
  · exact .inl stopped
  · exact .inr ⟨trees, same, exactTrees_of_forall₂ found.distinct
      (found.mem_iff_of_wordful wordful) found.derived⟩

def selfNested : Parser where
  grammar := (Grammar.empty.addProduction ⟨.root, [.unknown], 1, ""⟩).addProduction
    ⟨.root, [.root], 2, ""⟩
  covered := by decide +kernel

theorem selfNested_exact :
    selfNested.grammar.Wordful ∧
      (((start selfNested).parse .off ⟨["x"], fun _ => false⟩).analysis = .cancelled ∧
        (∃ position, Sentence.raisesStop ⟨["x"], fun _ => false⟩ position = true) ∨
      ∃ trees, ((start selfNested).parse .off ⟨["x"], fun _ => false⟩).analysis = .trees trees ∧
        ExactTrees selfNested.grammar ["x"] trees) := by
  have wordful : selfNested.grammar.Wordful := by decide +kernel
  exact ⟨wordful, parse_exact_of_wordful (start selfNested) .off ⟨["x"], fun _ => false⟩ wordful⟩

end ChartParsing.Session
