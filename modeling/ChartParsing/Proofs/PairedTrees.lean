import ChartParsing.Proofs.Cancellation
import ChartParsing.Proofs.Chart.Lockstep
import ChartParsing.Proofs.Ranking

/-!
Contract: trees of two grammars side by side.

Owns the comparison of the trees of charts that are alike. What holds of rows that are alike as soon as
it holds of their parents holds of all of them, since parents have smaller numbers. The rows that stand
for whole analyses are alike one by one, so the trees of two parses are compared one by one in the order
of their rows, and trees of equal weights are ranked side by side.
-/

set_option autoImplicit false

namespace ChartParsing.Lockstep

open Charts Construction

variable {grammar grammar' : Grammar} {sentence sentence' : Sentence}

/-- Charts that are alike, each with trees for its rows. -/
structure Rebuilt (lockstep : Lockstep grammar grammar' sentence sentence') (charts charts' : Charts)
    (build build' : Row → Tree) : Prop where
  stores : lockstep.Stores charts charts'
  sound : charts.Sound grammar sentence.words
  sound' : charts'.Sound grammar' sentence'.words
  reconstructs : charts.Reconstructs grammar build
  reconstructs' : charts'.Reconstructs grammar' build'

/-- Rows that have only parents that are related are related, if they are alike. -/
def Inherits (lockstep : Lockstep grammar grammar' sentence sentence') (charts : Charts)
    (build build' : Row → Tree) (related : Row → Row → Prop) : Prop :=
  ∀ row ∈ charts.rows.toList, ∀ row', lockstep.Rows row row' →
    ∀ parents parents', row.parents.reverse.map charts.row? = parents.map some →
      List.Forall₂ related parents parents' →
      build row = row.treeOver grammar (parents.map build) →
      build' row' = row'.treeOver grammar' (parents'.map build') → related row row'

variable {lockstep : Lockstep grammar grammar' sentence sentence'} {charts charts' : Charts}
  {build build' : Row → Tree}

/-- The rows that stand for whole analyses are alike one by one. -/
theorem Rebuilt.roots_alike (rebuilt : lockstep.Rebuilt charts charts' build build') :
    List.Forall₂ lockstep.Rows (rootRows sentence.words charts)
      (rootRows sentence'.words charts') := by
  have inside : sentence.words.length < charts.length := by
    rw [rebuilt.sound.length_eq]
    exact Nat.lt_succ_self _
  have inside' : sentence.words.length < charts'.length := rebuilt.stores.length ▸ inside
  have roots := rebuilt.stores.roots? sentence.words.length
  rw [rebuilt.sound.coherent.roots?_eq inside, rebuilt.sound'.coherent.roots?_eq inside'] at roots
  rw [Charts.rootRows, Charts.rootRows, ← lockstep.words.length_eq]
  cases roots with
  | some each => exact each

/-- What rows inherit from their parents holds of all rows that are alike. -/
theorem Rebuilt.related_of_inherits (rebuilt : lockstep.Rebuilt charts charts' build build')
    {related : Row → Row → Prop} (inherits : lockstep.Inherits charts build build' related)
    {row row' : Row} (member : row ∈ charts.rows.toList) (member' : row' ∈ charts'.rows.toList)
    (alike : lockstep.Rows row row') : related row row' := by
  obtain ⟨parents, stored, shown⟩ := rebuilt.reconstructs.build_eq row member
  obtain ⟨parents', stored', shown'⟩ := rebuilt.reconstructs'.build_eq row' member'
  refine inherits row member row' alike parents parents' stored ?_ shown shown'
  have pairs : List.Forall₂ lockstep.Rows parents parents' := by
    have found : List.Forall₂ (Option.Rel lockstep.Rows) (parents.map some) (parents'.map some) := by
      rw [← stored, ← stored', ← alike.parents, List.forall₂_map_left_iff,
        List.forall₂_map_right_iff, List.forall₂_same]
      exact fun id _ => rebuilt.stores.row? id
    simpa only [List.forall₂_map_left_iff, List.forall₂_map_right_iff, Option.rel_some_some]
      using found
  -- The induction is on the numbers of rows, which are smaller for their parents.
  refine related_imp_of_mem pairs fun parent isParent parent' isParent' pair => ?_
  have ⟨isRow, smaller⟩ := rebuilt.sound.mem_and_lt_of_parents member stored isParent
  have ⟨isRow', _⟩ := rebuilt.sound'.mem_and_lt_of_parents member' stored' isParent'
  exact rebuilt.related_of_inherits inherits isRow isRow' pair
termination_by row.id

/-- Trees of whole analyses are related one by one, if that follows for rows that are related. -/
theorem Rebuilt.related_trees (rebuilt : lockstep.Rebuilt charts charts' build build')
    {related : Row → Row → Prop} (inherits : lockstep.Inherits charts build build' related)
    {tree : Tree → Tree → Prop}
    (implies : ∀ row ∈ rootRows sentence.words charts, ∀ row' ∈ rootRows sentence'.words charts',
      lockstep.Rows row row' → related row row' → tree (build row) (build' row')) :
    List.Forall₂ tree ((rootRows sentence.words charts).map build)
      ((rootRows sentence'.words charts').map build') := by
  rw [List.forall₂_map_left_iff, List.forall₂_map_right_iff]
  refine related_imp_of_mem rebuilt.roots_alike fun row isRoot row' isRoot' alike => ?_
  have ⟨member, _⟩ := rebuilt.sound.mem_rootRows.1 isRoot
  have ⟨member', _⟩ := rebuilt.sound'.mem_rootRows.1 isRoot'
  exact implies row isRoot row' isRoot' alike
    (rebuilt.related_of_inherits inherits member member' alike)

/-- A construction that comes to its end comes there beside the one that it is paired with. -/
theorem exists_rebuilt (lockstep : Lockstep grammar grammar' sentence sentence')
    (ended : construct grammar sentence = .finished charts) :
    ∃ charts' build build', construct grammar' sentence' = .finished charts' ∧
      lockstep.Rebuilt charts charts' build build' ∧
      charts.rankedTrees? grammar =
        some (Tree.ranked ((rootRows sentence.words charts).map build)) ∧
      charts'.rankedTrees? grammar' =
        some (Tree.ranked ((rootRows sentence'.words charts').map build')) := by
  have constructed := lockstep.construct_alike
  rw [ended] at constructed
  generalize also : construct grammar' sentence' = progress' at constructed
  cases constructed with
  | @finished _ charts' stores =>
    have sound := (finished_of_construct ended).sound
    have sound' := (finished_of_construct also).sound
    obtain ⟨build, reconstructs, ranked⟩ := sound.exists_reconstructs
    obtain ⟨build', reconstructs', ranked'⟩ := sound'.exists_reconstructs
    exact ⟨charts', build, build', rfl, ⟨stores, sound, sound', reconstructs, reconstructs'⟩,
      ranked, ranked'⟩

/-- Two parses come to the trees of rows that are alike, or are both cancelled, as a word raises the stop
flag. -/
theorem parse_rebuilt (lockstep : Lockstep grammar grammar' sentence sentence')
    {session session' : Session} (parsesWith : session.parser.grammar = grammar)
    (parsesWith' : session'.parser.grammar = grammar') (threshold threshold' : Threshold) :
    ((session.parse threshold sentence).analysis = .cancelled ∧
      (session'.parse threshold' sentence').analysis = .cancelled ∧
        ∃ position, sentence.raisesStop position = true) ∨
    ∃ charts charts' build build', lockstep.Rebuilt charts charts' build build' ∧
      (session.parse threshold sentence).analysis =
        .trees (Tree.ranked ((rootRows sentence.words charts).map build)) ∧
      (session'.parse threshold' sentence').analysis =
        .trees (Tree.ranked ((rootRows sentence'.words charts').map build')) := by
  subst parsesWith parsesWith'
  rcases construct_ends session.parser.grammar sentence with ⟨charts, ended⟩ | ⟨ended, raises⟩
  · obtain ⟨charts', build, build', ended', rebuilt, ranked, ranked'⟩ :=
      lockstep.exists_rebuilt ended
    refine .inr ⟨charts, charts', build, build', rebuilt, ?_, ?_⟩
    · simp only [Session.parse, ended, ranked]
    · simp only [Session.parse, ended', ranked']
  · have constructed := lockstep.construct_alike
    rw [ended] at constructed
    generalize also : construct session'.parser.grammar sentence' = progress' at constructed
    cases constructed with
    | cancelled =>
      refine .inl ⟨?_, ?_, raises⟩
      · simp only [Session.parse, ended]
      · simp only [Session.parse, also]

/-- Two parses that are not cancelled come to the trees of rows that are alike, whatever words were to
stop them. -/
theorem exists_rebuilt_of_parse
    (lockstep : Lockstep grammar grammar' sentence.undisturbed sentence'.undisturbed)
    {session session' : Session} (parsesWith : session.parser.grammar = grammar)
    (parsesWith' : session'.parser.grammar = grammar') {threshold threshold' : Threshold}
    (completed : (session.parse threshold sentence).analysis ≠ .cancelled)
    (completed' : (session'.parse threshold' sentence').analysis ≠ .cancelled) :
    ∃ charts charts' build build', lockstep.Rebuilt charts charts' build build' ∧
      (session.parse threshold sentence).analysis =
        .trees (Tree.ranked ((rootRows sentence.words charts).map build)) ∧
      (session'.parse threshold' sentence').analysis =
        .trees (Tree.ranked ((rootRows sentence'.words charts').map build')) := by
  subst parsesWith parsesWith'
  obtain ⟨charts, ended⟩ := Construction.exists_undisturbed session.parser.grammar sentence
  obtain ⟨charts', build, build', ended', rebuilt, ranked, ranked'⟩ :=
    lockstep.exists_rebuilt ended
  have outcome := Session.Undisturbed.outcome ⟨ended, ranked⟩ threshold
  have outcome' := Session.Undisturbed.outcome ⟨ended', ranked'⟩ threshold'
  exact ⟨charts, charts', build, build', rebuilt, outcome.analysis_cases.resolve_left completed,
    outcome'.analysis_cases.resolve_left completed'⟩

/-! ## Relations between trees -/

/-- What a relation between trees needs so that it passes from the children to the tree of a row. -/
def Grows (lockstep : Lockstep grammar grammar' sentence sentence') (tree : Tree → Tree → Prop) :
    Prop :=
  ∀ row row', lockstep.Rows row row' → ∀ children children', List.Forall₂ tree children children' →
      tree (row.treeOver grammar children) (row'.treeOver grammar' children')

/-- What two parses come to side by side: trees that are related before they are ranked. -/
inductive Analyses (tree : Tree → Tree → Prop) : Analysis → Analysis → Prop where
  | trees {found found' : List Tree} (alike : List.Forall₂ tree found found') :
      Analyses tree (.trees (Tree.ranked found)) (.trees (Tree.ranked found'))
  | cancelled : Analyses tree .cancelled .cancelled
  | astray : Analyses tree .astray .astray

theorem Grows.inherits {tree : Tree → Tree → Prop} (grows : lockstep.Grows tree) :
    lockstep.Inherits charts build build' fun row row' => tree (build row) (build' row') := by
  intro row _ row' alike parents parents' _ each shown shown'
  rw [shown, shown']
  refine grows row row' alike _ _ ?_
  rw [List.forall₂_map_left_iff, List.forall₂_map_right_iff]
  exact each

/-- Two parses come to trees that are related before they are ranked, or are both cancelled. -/
theorem parse_alike {tree : Tree → Tree → Prop} (grows : lockstep.Grows tree)
    {session session' : Session} (parsesWith : session.parser.grammar = grammar)
    (parsesWith' : session'.parser.grammar = grammar') (threshold threshold' : Threshold) :
    Analyses tree (session.parse threshold sentence).analysis
      (session'.parse threshold' sentence').analysis := by
  rcases lockstep.parse_rebuilt parsesWith parsesWith' threshold threshold' with
    ⟨cancelled, cancelled', _⟩ | ⟨charts, charts', build, build', rebuilt, answered, answered'⟩
  · rw [cancelled, cancelled']
    exact .cancelled
  · rw [answered, answered']
    exact .trees (rebuilt.related_trees grows.inherits fun _ _ _ _ _ related => related)

end ChartParsing.Lockstep
