import ChartParsing.Proofs.Chart.Shape
import ChartParsing.Proofs.PairedTrees

/-!
Contract: words exchanged for words of the same categories.

Owns the comparison of the parses of two sentences whose words have the same categories one by one.
Their charts are alike, row by row, so their trees are the same ones in the same order, but that the
leaf of each position is labelled with the word of its own sentence.
-/

set_option autoImplicit false

namespace ChartParsing

/-- Forests over one span of two sentences that differ in nothing but the words at the positions that
their leaves match. -/
inductive Exchanged (grammar : Grammar) (words words' : List String) :
    Nat → Nat → List Tree → List Tree → Prop where
  | done (position : Nat) : Exchanged grammar words words' position position [] []
  | word {start stop : Nat} {text text' : String} {others others' : List Tree} (symbol : Symbol)
      (stands : words[start]? = some text) (stands' : words'[start]? = some text')
      (rest : Exchanged grammar words words' (start + 1) stop others others') :
      Exchanged grammar words words' start stop (grammar.leaf symbol text :: others)
        (grammar.leaf symbol text' :: others')
  | nothing {start stop : Nat} {others others' : List Tree}
      (rest : Exchanged grammar words words' start stop others others') :
      Exchanged grammar words words' start stop (grammar.leaf .empty "" :: others)
        (grammar.leaf .empty "" :: others')
  | phrase {start middle stop : Nat} {children children' others others' : List Tree}
      (production : Production)
      (parts : Exchanged grammar words words' start middle children children')
      (rest : Exchanged grammar words words' middle stop others others') :
      Exchanged grammar words words' start stop (production.tree grammar children :: others)
        (production.tree grammar children' :: others')

namespace Exchanged

variable {grammar : Grammar} {words words' : List String} {start middle stop : Nat}
  {trees trees' : List Tree}

theorem append {more more' : List Tree}
    (first : Exchanged grammar words words' start middle trees trees')
    (second : Exchanged grammar words words' middle stop more more') :
    Exchanged grammar words words' start stop (trees ++ more) (trees' ++ more') := by
  induction first with
  | done position => exact second
  | word symbol stands stands' rest inductionHypothesis =>
    exact .word symbol stands stands' (inductionHypothesis second)
  | nothing rest inductionHypothesis => exact .nothing (inductionHypothesis second)
  | phrase production parts rest _ inductionHypothesis =>
    exact .phrase production parts (inductionHypothesis second)

theorem weight_eq {tree tree' : Tree}
    (exchanged : Exchanged grammar words words' start stop [tree] [tree']) :
    tree.weight = tree'.weight := by
  cases exchanged with
  | word => rfl
  | nothing => rfl
  | phrase => rfl

/-- Rows that cover a span one after the other have the forest of their trees over it. -/
theorem of_tiles {build build' : Row → Tree} {rows rows' : List Row} (tiles : Tiles start rows stop)
    (each : List.Forall₂ (fun row row' =>
      Exchanged grammar words words' row.start row.stop [build row] [build' row']) rows rows') :
    Exchanged grammar words words' start stop (rows.map build) (rows'.map build') := by
  induction tiles generalizing rows' with
  | done position =>
    cases each
    exact .done position
  | next rest inductionHypothesis =>
    cases each with
    | cons first others => exact first.append (inductionHypothesis others)

end Exchanged

/-! ## Parses side by side -/

/-- A sentence beside another one whose words have the same categories. -/
def Lockstep.exchanging {grammar : Grammar} {sentence sentence' : Sentence}
    (categories : sentence.words.map grammar.wordCategory = sentence'.words.map grammar.wordCategory) :
    Lockstep grammar grammar sentence.undisturbed sentence'.undisturbed where
  toPairing := .same grammar
  words := by
    rw [← List.forall₂_eq_eq_eq, List.forall₂_map_left_iff, List.forall₂_map_right_iff] at categories
    exact categories
  raisesStop := fun position => by
    rw [Sentence.raisesStop_undisturbed, Sentence.raisesStop_undisturbed]

section Exchanging

variable {grammar : Grammar} {sentence sentence' : Sentence}
  {categories : sentence.words.map grammar.wordCategory = sentence'.words.map grammar.wordCategory}
  {charts charts' : Charts} {build build' : Row → Tree}

/-- The trees of complete rows differ in nothing but the words that they match. -/
theorem Lockstep.exchanging_inherits (sound : charts.Sound grammar sentence.words) :
    (exchanging categories).Inherits charts build build' fun row row' =>
      row.isComplete = true → row.rule.isSeed = false →
        Exchanged grammar sentence.words sentence'.words row.start row.stop [build row]
          [build' row'] := by
  intro row member row' alike parents parents' stored each shown shown' complete notSeed
  have shaped := sound.shaped row member
  have rules := alike.item.rule
  rw [shown, shown']
  obtain ⟨⟨rule, dot, start, stop⟩, id, older, origin⟩ := row
  obtain ⟨⟨rule', dot', start', stop'⟩, id', older', origin'⟩ := row'
  dsimp only at rules
  cases rules with
  | seed => exact nomatch notSeed
  | @phrase production _ same =>
    obtain rfl := same
    obtain ⟨_, children, known⟩ := shaped.grown rfl
    obtain rfl : parents = children :=
      List.map_injective_iff.2 (Option.some_injective _) (stored.symm.trans known.stored)
    refine .phrase production (.of_tiles known.tiles ?_) (.done _)
    refine related_imp_of_mem each fun parent isParent parent' _ related => ?_
    have ⟨parentComplete, parentNotSeed⟩ := known.complete parent isParent
    exact related parentComplete parentNotSeed
  | word same stands stands' one =>
    obtain rfl := same
    obtain ⟨_, rfl, _⟩ := shaped.matched rfl
    obtain rfl : parents = [] := List.map_eq_nil_iff.1 stored.symm
    cases each
    subst one
    exact .word _ stands stands' (.done _)
  | nothing noWords =>
    obtain ⟨_, rfl, _⟩ := shaped.matched rfl
    obtain rfl : parents = [] := List.map_eq_nil_iff.1 stored.symm
    cases each
    subst noWords
    exact .nothing (.done _)

end Exchanging

namespace Session

open Charts

/-- Words matter only through their categories. Two sentences whose words have the same categories one
by one have trees that differ, one by one, only in the words that their leaves match, unless one of the
parses is cancelled. -/
theorem parse_exchanged (session session' : Session) (threshold threshold' : Threshold)
    (sentence sentence' : Sentence) (sameParser : session.parser = session'.parser)
    (categories : sentence.words.map session.parser.grammar.wordCategory =
      sentence'.words.map session.parser.grammar.wordCategory)
    (completed : (session.parse threshold sentence).analysis ≠ .cancelled)
    (completed' : (session'.parse threshold' sentence').analysis ≠ .cancelled) :
    ∃ trees trees', (session.parse threshold sentence).analysis = .trees trees ∧
      (session'.parse threshold' sentence').analysis = .trees trees' ∧
      List.Forall₂ (fun tree tree' => Exchanged session.parser.grammar sentence.words
        sentence'.words 0 sentence.words.length [tree] [tree']) trees trees' := by
  have parsesWith : session'.parser.grammar = session.parser.grammar := by rw [sameParser]
  obtain ⟨charts, charts', build, build', rebuilt, answered, answered'⟩ :=
    Lockstep.exists_rebuilt_of_parse (.exchanging categories) rfl parsesWith completed
      completed'
  refine ⟨_, _, answered, answered', Tree.related_ranked ?_ fun _ _ => Exchanged.weight_eq⟩
  refine rebuilt.related_trees (Lockstep.exchanging_inherits rebuilt.sound) ?_
  intro row isRoot row' _ _ related
  obtain ⟨_, production, _, whole⟩ := rebuilt.sound.mem_rootRows.1 isRoot
  obtain ⟨item, id, parents, origin⟩ := row
  obtain rfl : item = wholeItem sentence.words production := whole
  exact related (by simp [Item.isComplete, wholeItem, Rule.arity]) rfl

def aroundNothing : Parser where
  grammar := .addProduction .empty ⟨.root, [.unknown, .empty, .unknown], 1, "pair"⟩
  covered := by decide +kernel

/-- A word that stands twice is exchanged for two words. -/
theorem aroundNothing_exchanged :
    ["a", "a"].map aroundNothing.grammar.wordCategory =
        ["b", "c"].map aroundNothing.grammar.wordCategory ∧
      ((start aroundNothing).parse .off ⟨["a", "a"], fun _ => false⟩).analysis ≠ .cancelled ∧
      ((start aroundNothing).parse .off ⟨["b", "c"], fun _ => false⟩).analysis ≠ .cancelled ∧
      ∃ trees trees',
        ((start aroundNothing).parse .off ⟨["a", "a"], fun _ => false⟩).analysis = .trees trees ∧
        ((start aroundNothing).parse .off ⟨["b", "c"], fun _ => false⟩).analysis = .trees trees' ∧
        List.Forall₂ (fun tree tree' => Exchanged aroundNothing.grammar ["a", "a"] ["b", "c"] 0 2
          [tree] [tree']) trees trees' := by
  have categories : ["a", "a"].map aroundNothing.grammar.wordCategory =
      ["b", "c"].map aroundNothing.grammar.wordCategory := by decide +kernel
  have completed : ((start aroundNothing).parse .off ⟨["a", "a"], fun _ => false⟩).analysis ≠
      .cancelled := by decide +kernel
  have completed' : ((start aroundNothing).parse .off ⟨["b", "c"], fun _ => false⟩).analysis ≠
      .cancelled := by decide +kernel
  exact ⟨categories, completed, completed', parse_exchanged (start aroundNothing)
    (start aroundNothing) .off .off ⟨["a", "a"], fun _ => false⟩ ⟨["b", "c"], fun _ => false⟩ rfl
    categories completed completed'⟩

end Session

end ChartParsing
