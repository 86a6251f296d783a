import ChartParsing.Proofs.Analysis

/-!
Contract: the shape of rows.

Owns what every row looks like at every moment: where it lies, when it is complete, and how the rows
that completed its matched constituents cover its span. Since every row is stored under its number, in
the chart of the position where it stops, and its parents are stored rows, neither the construction
nor the trees ever ask for a chart, a row or a number that does not exist.
-/

set_option autoImplicit false

namespace ChartParsing

/-- Rows that cover a span without gap or overlap: each starts where the one before it stops. -/
inductive Tiles : Nat → List Row → Nat → Prop where
  | done (position : Nat) : Tiles position [] position
  | next {first : Row} {others : List Row} {stop : Nat} (rest : Tiles first.stop others stop) :
      Tiles first.start (first :: others) stop

theorem Tiles.snoc {start : Nat} {rows : List Row} {last : Row}
    (tiles : Tiles start rows last.start) : Tiles start (rows ++ [last]) last.stop := by
  generalize middle : last.start = stop at tiles
  induction tiles with
  | done position =>
    subst middle
    exact .next (.done last.stop)
  | next rest inductionHypothesis => exact .next (inductionHypothesis middle)

theorem Tiles.of_singleton {start stop : Nat} {row : Row} (tiles : Tiles start [row] stop) :
    start = row.start ∧ stop = row.stop := by
  cases tiles with
  | next rest =>
    generalize row.stop = position at rest ⊢
    cases rest with
    | done => exact ⟨rfl, rfl⟩

/-- An item is complete exactly if it expects nothing more. The match of a terminal counts as one
constituent, so it must have been made. -/
theorem Item.isComplete_iff {item : Item} (matched : item.rule.isTerminal = true → item.dot = 1) :
    item.isComplete = true ↔ item.next? = none := by
  rw [Item.next?_eq, List.getElem?_eq_none_iff, Item.isComplete, decide_eq_true_iff]
  obtain ⟨rule, dot, start, stop⟩ := item
  cases rule with
  | phrase production => exact Iff.rfl
  | seed => exact Iff.rfl
  | terminal category word =>
    have made : dot = 1 := matched rfl
    show 1 ≤ dot ↔ 0 ≤ dot
    omega

namespace Charts

/-- The rows that completed the matched constituents of a row, in the order of the constituents. -/
structure Children (charts : Charts) (row : Row) (children : List Row) : Prop where
  stored : row.parents.reverse.map charts.row? = children.map some
  count : row.parents.length = row.dot
  heads : children.map (fun child => child.rule.head) = row.rule.constituents.take row.dot
  complete : ∀ child ∈ children, child.isComplete = true ∧ child.rule.isSeed = false
  tiles : Tiles row.start children row.stop

structure Shaped (words : List String) (charts : Charts) (row : Row) : Prop where
  span : row.start ≤ row.stop ∧ row.stop ≤ words.length
  complete_iff : row.isComplete = true ↔ row.next? = none
  matched : row.rule.isTerminal = true →
    row.dot = 1 ∧ row.parents = [] ∧ row.stop ≤ row.start + 1
  grown : row.rule.isTerminal = false →
    row.dot ≤ row.rule.arity ∧ ∃ children, charts.Children row children

variable {grammar : Grammar} {words : List String} {charts : Charts}

theorem children_opening (rule : Rule) (position id : Nat) (origin : Origin) :
    charts.Children ((Row.opening rule position position origin).numbered id) [] where
  stored := rfl
  count := rfl
  heads := rfl
  complete := fun _ member => absurd member List.not_mem_nil
  tiles := .done position

theorem Children.exists_of_parent {row : Row} {children : List Row}
    (known : charts.Children row children)
    {parent : Nat} (isParent : parent ∈ row.parents) :
    ∃ child ∈ children, charts.row? parent = some child := by
  have listed : charts.row? parent ∈ children.map some := by
    rw [← known.stored]
    exact List.mem_map.2 ⟨parent, List.mem_reverse.2 isParent, rfl⟩
  obtain ⟨child, isChild, same⟩ := List.mem_map.1 listed
  exact ⟨child, isChild, same.symm⟩

theorem Children.mem_rows {row : Row} {children : List Row}
    (known : charts.Children row children) :
    ∀ child ∈ children, child ∈ charts.rows.toList := by
  intro child isChild
  have listed : some child ∈ row.parents.reverse.map charts.row? := by
    rw [known.stored]
    exact List.mem_map.2 ⟨child, isChild, rfl⟩
  obtain ⟨parent, _, found⟩ := List.mem_map.1 listed
  exact row?_mem found

/-- One more constituent is completed by one more child, which goes on where the others stop. -/
theorem Children.advance {waiting completed : Row} {children : List Row} (id : Nat)
    (known : charts.Children waiting children) (stored : charts.row? completed.id = some completed)
    (complete : completed.isComplete = true) (notSeed : completed.rule.isSeed = false)
    (meets : waiting.stop = completed.start) (expects : waiting.next? = some completed.rule.head) :
    charts.Children ((waiting.advance completed.stop completed.id).numbered id)
      (children ++ [completed]) where
  stored := by
    show (completed.id :: waiting.parents).reverse.map charts.row? =
      (children ++ [completed]).map some
    rw [List.reverse_cons, List.map_append, List.map_append, known.stored]
    simp [stored]
  count := congrArg Nat.succ known.count
  heads := by
    rw [Item.next?_eq] at expects
    show (children ++ [completed]).map (fun child => child.rule.head) =
      waiting.rule.constituents.take (waiting.dot + 1)
    rw [List.map_append, known.heads, List.take_add_one, expects]
    rfl
  complete := by
    intro child member
    rcases List.mem_append.1 member with old | last
    · exact known.complete child old
    · rw [List.mem_singleton.1 last]
      exact ⟨complete, notSeed⟩
  tiles := by
    have before := known.tiles
    rw [meets] at before
    exact before.snoc

/-- Every row of sound charts has the shape of a row. -/
theorem Sound.shaped (sound : charts.Sound grammar words) :
    ∀ row ∈ charts.rows.toList, charts.Shaped words row := by
  refine sound.induction ?first ?called
  case first =>
    have children : charts.Children Row.first [] := children_opening .seed 0 0 .seed
    exact {
      span := ⟨Nat.le_refl 0, Nat.zero_le _⟩
      complete_iff := Item.isComplete_iff fun isTerminal => nomatch isTerminal
      matched := fun isTerminal => nomatch isTerminal
      grown := fun _ => ⟨Nat.zero_le _, [], children⟩ }
  case called =>
    intro id made member calls
    have span := sound.span _ member
    have small := (sound.possible _ member).dot
    cases calls with
    | @predict waiting symbol production isKnown expects isPhrase listed =>
      exact {
        span
        complete_iff := Item.isComplete_iff fun isTerminal => nomatch isTerminal
        matched := fun isTerminal => nomatch isTerminal
        grown := fun _ => ⟨small, [], children_opening _ _ _ _⟩ }
    | word isKnown expects isTerminal stands accepted =>
      exact {
        span
        complete_iff := Item.isComplete_iff fun _ => rfl
        matched := fun _ => ⟨rfl, rfl, Nat.le_refl _⟩
        grown := fun notTerminal => nomatch notTerminal }
    | nothing isKnown expects =>
      exact {
        span
        complete_iff := Item.isComplete_iff fun _ => rfl
        matched := fun _ => ⟨rfl, rfl, Nat.le_succ _⟩
        grown := fun notTerminal => nomatch notTerminal }
    | @advance waiting completed isKnown isAlsoKnown complete notSeed meets expects =>
      have notTerminal : waiting.rule.isTerminal = false := isTerminal_eq_false_of_expects expects
      have isTerminal_absurd : ¬ waiting.rule.isTerminal = true := by simp [notTerminal]
      obtain ⟨_, children, known⟩ := isKnown.2.2.grown notTerminal
      have stored := sound.coherent.row?_id isAlsoKnown.1
      have isComplete := isAlsoKnown.2.2.complete_iff.2 complete
      have grown := known.advance id stored isComplete notSeed meets expects
      exact {
        span
        complete_iff := Item.isComplete_iff fun isTerminal => absurd isTerminal isTerminal_absurd
        matched := fun isTerminal => absurd isTerminal isTerminal_absurd
        grown := fun _ => ⟨small, _, grown⟩ }

/-! ## Every question has an answer -/

/-- Charts in which every row has its shape, its number and its place, and every position of the
sentence, every index below the size of a chart and every number of a row leads to a row. -/
structure Regular (words : List String) (charts : Charts) : Prop where
  length_eq : charts.length = words.length + 1
  numbered : ∀ id row, charts.row? id = some row → row.id = id ∧ charts.Shaped words row
  chart : ∀ position ≤ words.length, ∃ rows, charts.rowsOf? position = some rows ∧
    charts.size? position = some rows.length ∧
    (∀ index, charts.rowAt? position index = rows[index]?) ∧
    ∀ row ∈ rows, charts.row? row.id = some row ∧ row.stop = position ∧
      ∀ symbol, Construction.awaits row position symbol = decide (row.next? = some symbol)

theorem Sound.regular (sound : charts.Sound grammar words) : charts.Regular words where
  length_eq := sound.length_eq
  numbered := fun _ row found =>
    ⟨sound.coherent.numbered found, sound.shaped row (row?_mem found)⟩
  chart := by
    intro position within
    have inside : position < charts.length := by
      rw [sound.length_eq]
      omega
    refine ⟨_, sound.coherent.rowsOf?_eq inside, sound.coherent.size?_eq inside,
      sound.coherent.rowAt?_eq, ?_⟩
    intro row member
    obtain ⟨stored, stops⟩ := sound.mem_rowsAt.1 member
    refine ⟨sound.coherent.row?_id stored, stops, fun symbol => ?_⟩
    simp [Construction.awaits, stops]

/-- Sound charts always have trees. -/
theorem Sound.exists_rankedTrees (sound : charts.Sound grammar words) :
    ∃ trees, charts.rankedTrees? grammar = some trees := by
  obtain ⟨forest, built, shown⟩ := sound.exists_forest
  exact ⟨_, sound.rankedTrees?_eq built shown⟩

end Charts

namespace Construction

variable {grammar : Grammar} {sentence : Sentence}

/-- Work that only asks for charts, rows and words that exist. -/
def WorkInside (words : List String) (charts : Charts) : Work → Prop
  | .idle => True
  | .entering rows => ∀ entry ∈ rows, entry.1 < charts.length ∧
      ∀ symbol word, entry.2.rule = .terminal symbol word →
        entry.2.start < entry.2.stop → words[entry.2.start]? = some word
  | .completing completed _ => charts.row? completed.id = some completed ∧
      completed.start < charts.length ∧ completed.stop < charts.length

theorem Sound.workInside {construction : Construction}
    (sound : construction.Sound grammar sentence.words) :
    WorkInside sentence.words construction.charts construction.work := by
  obtain ⟨charts, position, cursor, work, stopped⟩ := construction
  obtain ⟨soundCharts, fits⟩ := sound
  cases work with
  | idle => trivial
  | entering rows =>
    intro entry member
    obtain ⟨place, _, _, calls⟩ := fits entry member
    have within := (calls.span soundCharts.span).2
    refine ⟨?_, ?_⟩
    · rw [place, soundCharts.length_eq]
      exact Nat.lt_succ_of_le within
    · intro symbol word same covers
      generalize entry.2 = made at calls same covers
      cases calls with
      | predict isKnown expects isPhrase listed => exact nomatch same
      | word isKnown expects isTerminal stands accepted =>
        rw [← (Rule.terminal.inj same).2]
        exact stands
      | nothing isKnown expects => exact absurd covers (Nat.lt_irrefl _)
      | @advance waiting completed isKnown isAlsoKnown complete notSeed meets expects =>
        have matching : waiting.rule = .terminal symbol word := same
        have notTerminal := Charts.isTerminal_eq_false_of_expects expects
        rw [matching] at notTerminal
        exact nomatch notTerminal
  | completing completed index =>
    obtain ⟨stored, _⟩ := soundCharts.mem_rowsAt.1 fits.1
    have span := soundCharts.span completed stored
    refine ⟨soundCharts.coherent.row?_id stored, ?_, ?_⟩
    · rw [soundCharts.length_eq]
      omega
    · rw [soundCharts.length_eq]
      omega

theorem advance_ne_astray (steps : Nat) :
    Progress.advance grammar sentence steps (.running (initial sentence)) ≠ .astray := by
  intro strayed
  have start : Moment grammar sentence (initial sentence) := .refl
  obtain ⟨last, later, outcome⟩ := start.exists_advance steps
  rw [strayed] at outcome
  rcases outcome with impossible | ⟨same, _⟩
  · exact nomatch impossible
  · have move := (start.later later).moves
    rw [← same] at move
    cases move

/-- At every moment of a construction every row has the shape of a row and lies in its place, and the
construction never asks for a chart, a row or a word that does not exist; nor do the trees. -/
theorem regular_at_every_moment (grammar : Grammar) (sentence : Sentence) :
    (∀ steps, Progress.advance grammar sentence steps (.running (initial sentence)) ≠ .astray) ∧
    (∀ steps construction,
      Progress.advance grammar sentence steps (.running (initial sentence)) =
        .running construction →
      WorkInside sentence.words construction.charts construction.work) ∧
    ∀ steps charts,
      (Progress.advance grammar sentence steps (.running (initial sentence))).charts? =
        some charts →
      charts.Regular sentence.words ∧ ∃ trees, charts.rankedTrees? grammar = some trees := by
  refine ⟨advance_ne_astray, ?_, ?_⟩
  · intro steps construction reached
    exact (moment_of_advance reached).sound.workInside
  · intro steps charts shown
    have sound := sound_of_advance shown
    exact ⟨sound.regular, sound.exists_rankedTrees⟩

end Construction

end ChartParsing
