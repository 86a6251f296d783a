import ChartParsing.Proofs.Chart.Items
import ChartParsing.Proofs.Derivation
import ChartParsing.Chart.Forest

/-!
Contract: the trees of sound charts.

Owns that every row of sound charts has a tree, since its parents have smaller numbers, and that the
trees under a row are those of a derivation of the constituents matched so far. A condition on the
constituents without words that charts meet whenever such a constituent advances a row is met all over
these derivations.
-/

set_option autoImplicit false

namespace ChartParsing

def Row.treeOver (grammar : Grammar) (row : Row) (children : List Tree) : Tree where
  label := row.rule.label grammar
  category := grammar.categoryName row.rule.head
  weight := row.rule.weight
  note := row.rule.note
  children

theorem Row.tree?_eq_some_iff {grammar : Grammar} {forest : Array Tree} {row : Row} {tree : Tree} :
    row.tree? grammar forest = some tree ↔
      ∃ children, row.parents.reverse.map (fun parent => forest[parent]?) = children.map some ∧
        tree = row.treeOver grammar children := by
  simp only [tree?, Option.map_eq_some_iff, mapM_eq_some_iff]
  exact exists_congr fun children => and_congr_right fun _ => eq_comm

namespace Charts

variable {grammar : Grammar} {words : List String} {charts : Charts}

/-! ## Every row has a tree -/

/-- When every row has parents with trees before it, all rows get trees, which stay as they were when
the row was reached. -/
theorem treesOfRows?_eq_some (grammar : Grammar) (rows : List Row) (earlier : Array Tree)
    (grounded : ∀ index row, rows[index]? = some row →
      ∀ parent ∈ row.parents, parent < earlier.size + index) :
    ∃ forest, treesOfRows? grammar earlier rows = some forest ∧
      (∀ index < earlier.size, forest[index]? = earlier[index]?) ∧
      ∀ index row, rows[index]? = some row → ∃ tree,
        forest[earlier.size + index]? = some tree ∧ row.tree? grammar forest = some tree := by
  induction rows generalizing earlier with
  | nil => exact ⟨earlier, rfl, fun _ _ => rfl, by simp⟩
  | cons row others inductionHypothesis =>
    have below : ∀ parent ∈ row.parents.reverse, parent < earlier.size := fun parent member =>
      grounded 0 row rfl parent (List.mem_reverse.1 member)
    obtain ⟨children, found⟩ := exists_map_getElem? below
    have shown : row.tree? grammar earlier = some (row.treeOver grammar children) :=
      Row.tree?_eq_some_iff.2 ⟨children, found, rfl⟩
    obtain ⟨forest, built, kept, trees⟩ :=
      inductionHypothesis (earlier.push (row.treeOver grammar children)) (by
        intro index other member parent isParent
        have small := grounded (index + 1) other member parent isParent
        rw [Array.size_push]
        omega)
    have keptBelow : ∀ index < earlier.size, forest[index]? = earlier[index]? := by
      intro index inside
      rw [kept index (by rw [Array.size_push]; omega), Array.getElem?_push,
        if_neg (Nat.ne_of_lt inside)]
    refine ⟨forest, by simp only [treesOfRows?, shown, built], keptBelow, ?_⟩
    intro index other member
    cases index with
    | zero =>
      obtain rfl := Option.some.inj member
      refine ⟨row.treeOver grammar children, ?_, Row.tree?_eq_some_iff.2 ⟨children, ?_, rfl⟩⟩
      · rw [kept _ (by rw [Array.size_push]; omega)]
        exact Array.getElem?_push_size
      · rw [← found]
        exact List.map_congr_left fun parent isParent => keptBelow parent (below parent isParent)
    | succ index =>
      obtain ⟨tree, placed, shows⟩ := trees index other member
      refine ⟨tree, ?_, shows⟩
      rw [Array.size_push] at placed
      rw [← placed]
      congr 1
      omega

theorem Sound.parents_lt (sound : charts.Sound grammar words) :
    ∀ row ∈ charts.rows.toList, ∀ parent ∈ row.parents, parent < row.id := by
  refine sound.induction (fun parent member => absurd member List.not_mem_nil) ?_
  intro id made _ calls parent isParent
  rw [Row.numbered_parents] at isParent
  cases calls with
  | predict isKnown expects isPhrase listed => exact absurd isParent List.not_mem_nil
  | word isKnown expects isTerminal stands accepted => exact absurd isParent List.not_mem_nil
  | nothing isKnown expects => exact absurd isParent List.not_mem_nil
  | advance isKnown isAlsoKnown complete notSeed meets expects =>
    rcases List.mem_cons.1 isParent with rfl | older
    · exact isAlsoKnown.2.1
    · exact (isKnown.2.2 parent older).trans isKnown.2.1

theorem Sound.exists_forest (sound : charts.Sound grammar words) :
    ∃ forest, charts.forest? grammar = some forest ∧ ∀ row ∈ charts.rows.toList, ∃ tree,
      forest[row.id]? = some tree ∧ row.tree? grammar forest = some tree := by
  obtain ⟨forest, built, _, trees⟩ :=
    treesOfRows?_eq_some grammar charts.rows.toList #[] (by
      intro index row found parent isParent
      have numbered : row.id = index := by
        rw [Array.getElem?_toList] at found
        exact sound.coherent.numbered found
      have small := sound.parents_lt row (List.mem_of_getElem? found) parent isParent
      rw [List.size_toArray, List.length_nil]
      omega)
  refine ⟨forest, built, ?_⟩
  intro row member
  have found := sound.coherent.row?_id member
  rw [row?, ← Array.getElem?_toList] at found
  obtain ⟨tree, placed, shows⟩ := trees row.id row found
  rw [List.size_toArray, List.length_nil, Nat.zero_add] at placed
  exact ⟨tree, placed, shows⟩

/-! ## Every row has a derivation -/

/-- A condition on items and symbols is met whenever a constituent without words advances a row. -/
def MeetOnEmpty (charts : Charts) (condition : Item → Symbol → Prop) : Prop :=
  ∀ {waiting completed : Row} {id : Nat}, waiting ∈ charts.rows.toList →
    completed ∈ charts.rows.toList → waiting.stop = completed.start →
    completed.start = completed.stop →
    (waiting.advance completed.stop completed.id).numbered id ∈ charts.rows.toList →
    condition waiting.toItem completed.rule.head

/-- What a row stands for: a derivation of the constituents matched so far, whose trees are those of
its parents; and, if it is complete, a derivation of its head, whose tree is its own. -/
structure Stands (grammar : Grammar) (words : List String) (condition : Item → Symbol → Prop)
    (forest : Array Tree) (row : Row) : Prop where
  listed : ∀ production, row.rule = .phrase production →
    production.head.isPhrase = true ∧ production ∈ grammar.productionsOf production.head
  parts : row.rule.isTerminal = false →
    ∃ parts : Derivation grammar words (row.rule.constituents.take row.dot) row.start row.stop,
      row.parents.reverse.map (fun parent => forest[parent]?) = parts.trees.map some ∧
        parts.EachEmpty condition row.rule 0 row.start
  whole : row.next? = none → row.rule.isSeed = false →
    ∃ whole : Derivation grammar words [row.rule.head] row.start row.stop,
      (∃ tree, forest[row.id]? = some tree ∧ whole.trees = [tree]) ∧
        ∀ rule dot origin,
          (row.start = row.stop → condition ⟨rule, dot, origin, row.start⟩ row.rule.head) →
          whole.EachEmpty condition rule dot origin

theorem accepts_eq_true_iff {symbol : Symbol} {text : String} :
    Construction.accepts grammar symbol text = true ↔
      grammar.wordCategory text = symbol ∨ symbol = .unknown := by
  simp [Construction.accepts]

section Stands

variable {condition : Item → Symbol → Prop} {forest : Array Tree} {row : Row}

theorem Stands.of_parts (notTerminal : row.rule.isTerminal = false)
    (listed : ∀ production, row.rule = .phrase production →
      production.head.isPhrase = true ∧ production ∈ grammar.productionsOf production.head)
    (shown : ∃ tree, forest[row.id]? = some tree ∧ row.tree? grammar forest = some tree)
    (parts : ∃ parts :
        Derivation grammar words (row.rule.constituents.take row.dot) row.start row.stop,
      row.parents.reverse.map (fun parent => forest[parent]?) = parts.trees.map some ∧
        parts.EachEmpty condition row.rule 0 row.start) :
    Stands grammar words condition forest row where
  listed := listed
  parts := fun _ => parts
  whole := by
    intro complete notSeed
    obtain ⟨⟨rule, dot, start, stop⟩, id, parents, origin⟩ := row
    cases rule with
    | terminal category word => exact absurd notTerminal (by simp [Rule.isTerminal])
    | seed => exact absurd notSeed (by simp [Rule.isSeed])
    | phrase production =>
      have full : production.body.length ≤ dot := List.getElem?_eq_none_iff.1 complete
      obtain ⟨isPhrase, member⟩ := listed production rfl
      change ∃ parts : Derivation grammar words (production.body.take dot) start stop,
        parents.reverse.map (fun parent => forest[parent]?) = parts.trees.map some ∧
          parts.EachEmpty condition (.phrase production) 0 start at parts
      rw [List.take_of_length_le full] at parts
      obtain ⟨parts, children, each⟩ := parts
      obtain ⟨tree, placed, shows⟩ := shown
      obtain ⟨others, found, rfl⟩ := Row.tree?_eq_some_iff.1 shows
      obtain rfl : others = parts.trees :=
        List.map_injective_iff.2 (Option.some_injective _) (found.symm.trans children)
      exact ⟨.phrase production isPhrase member parts (.done stop), ⟨_, placed, rfl⟩,
        fun rule dot origin empty => ⟨each, empty, trivial⟩⟩

theorem Stands.of_match (isTerminal : row.rule.isTerminal = true)
    (shown : ∃ tree, forest[row.id]? = some tree ∧ row.tree? grammar forest = some tree)
    (noParents : row.parents = [])
    (whole : Derivation grammar words [row.rule.head] row.start row.stop)
    (trees : whole.trees = [row.treeOver grammar []])
    (each : ∀ rule dot origin,
      (row.start = row.stop → condition ⟨rule, dot, origin, row.start⟩ row.rule.head) →
      whole.EachEmpty condition rule dot origin) :
    Stands grammar words condition forest row where
  listed := by
    intro production same
    rw [same] at isTerminal
    exact absurd isTerminal (by simp [Rule.isTerminal])
  parts := by
    intro impossible
    rw [isTerminal] at impossible
    exact nomatch impossible
  whole := by
    intro _ _
    obtain ⟨tree, placed, shows⟩ := shown
    obtain ⟨children, found, rfl⟩ := Row.tree?_eq_some_iff.1 shows
    rw [noParents] at found
    obtain rfl : children = [] := List.map_eq_nil_iff.1 found.symm
    exact ⟨whole, ⟨_, placed, trees⟩, each⟩

theorem isTerminal_eq_false_of_expects {item : Item} {symbol : Symbol}
    (expects : item.next? = some symbol) : item.rule.isTerminal = false := by
  rw [Item.next?_eq] at expects
  obtain ⟨rule, dot, start, stop⟩ := item
  cases rule with
  | phrase production => rfl
  | terminal category word => exact absurd expects (by simp [Rule.constituents])
  | seed => rfl

theorem Stands.advance {waiting completed : Row} {id : Nat}
    (waitingStands : Stands grammar words condition forest waiting)
    (completedStands : Stands grammar words condition forest completed)
    (complete : completed.next? = none) (notSeed : completed.rule.isSeed = false)
    (meets : waiting.stop = completed.start) (expects : waiting.next? = some completed.rule.head)
    (met : completed.start = completed.stop → condition waiting.toItem completed.rule.head)
    (shown : ∃ tree, forest[id]? = some tree ∧
      ((waiting.advance completed.stop completed.id).numbered id).tree? grammar forest =
        some tree) :
    Stands grammar words condition forest
      ((waiting.advance completed.stop completed.id).numbered id) := by
  have notTerminal := isTerminal_eq_false_of_expects expects
  refine Stands.of_parts notTerminal waitingStands.listed shown ?_
  obtain ⟨before, children, each⟩ := waitingStands.parts notTerminal
  obtain ⟨whole, ⟨tree, placed, trees⟩, eachWhole⟩ :
      ∃ whole : Derivation grammar words [completed.rule.head] waiting.stop completed.stop,
        (∃ tree, forest[completed.id]? = some tree ∧ whole.trees = [tree]) ∧
          whole.EachEmpty condition waiting.rule waiting.dot waiting.start := by
    rw [meets]
    obtain ⟨whole, trees, each⟩ := completedStands.whole complete notSeed
    refine ⟨whole, trees, each _ _ _ fun empty => ?_⟩
    rw [← meets]
    exact met empty
  rw [Item.next?_eq] at expects
  have inside := (List.getElem?_eq_some_iff.1 expects).1
  have taken : waiting.rule.constituents.take (waiting.dot + 1) =
      waiting.rule.constituents.take waiting.dot ++ [completed.rule.head] := by
    rw [List.take_add_one, expects]
    rfl
  change ∃ parts : Derivation grammar words (waiting.rule.constituents.take (waiting.dot + 1))
      waiting.start completed.stop,
    (completed.id :: waiting.parents).reverse.map (fun parent => forest[parent]?) =
        parts.trees.map some ∧
      parts.EachEmpty condition waiting.rule 0 waiting.start
  rw [taken]
  refine ⟨before.append whole, ?_, ?_⟩
  · rw [Derivation.trees_append, trees, List.reverse_cons, List.map_append, List.map_append,
      children]
    simp [placed]
  · rw [Derivation.eachEmpty_append, List.length_take_of_le (Nat.le_of_lt inside), Nat.zero_add]
    exact ⟨each, eachWhole⟩

end Stands

/-- Every row of sound charts stands for derivations, and a condition that the charts meet on
constituents without words is met all over them. -/
theorem Sound.stands (sound : charts.Sound grammar words) {condition : Item → Symbol → Prop}
    (met : charts.MeetOnEmpty condition) {forest : Array Tree}
    (shown : ∀ row ∈ charts.rows.toList, ∃ tree,
      forest[row.id]? = some tree ∧ row.tree? grammar forest = some tree) :
    ∀ row ∈ charts.rows.toList, Stands grammar words condition forest row := by
  refine sound.induction ?_ ?_
  · exact .of_parts rfl (fun _ impossible => nomatch impossible) (shown _ sound.seeded)
      ⟨.done 0, rfl, trivial⟩
  · intro id made member calls
    cases calls with
    | @predict waiting symbol production isKnown expects isPhrase listed =>
      obtain ⟨_, rfl⟩ := Grammar.mem_productionsOf.1 listed
      refine .of_parts rfl ?_ (shown _ member) ⟨.done waiting.stop, rfl, trivial⟩
      rintro other same
      obtain rfl : production = other := Rule.phrase.inj same
      exact ⟨isPhrase, listed⟩
    | @word waiting symbol text isKnown expects isTerminal stands accepted =>
      exact .of_match rfl (shown _ member) rfl
        (.word text isTerminal stands (accepts_eq_true_iff.1 accepted) (.done _)) rfl
        fun _ _ _ _ => trivial
    | @nothing waiting isKnown expects =>
      exact .of_match rfl (shown _ member) rfl (.nothing (.done _)) rfl
        fun _ _ _ empty => ⟨empty rfl, trivial⟩
    | @advance waiting completed isKnown isAlsoKnown complete notSeed meets expects =>
      exact isKnown.2.2.advance isAlsoKnown.2.2 complete notSeed meets expects
        (fun empty => met isKnown.1 isAlsoKnown.1 meets empty member) (shown _ member)

end Charts

end ChartParsing
