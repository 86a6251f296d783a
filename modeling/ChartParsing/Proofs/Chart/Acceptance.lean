import ChartParsing.Proofs.Chart.Shape

/-!
Contract: the two signs of acceptance.

Owns the agreement of the seed with the productions of the root symbol. The seed is moved past the root
symbol in exactly those charts that have a complete row of a production of the root symbol over all
words before them, the chart before the first word included: the seed is the first row of all, so it is
never late. It is moved once in a chart at most, and no row is ever completed by it.
-/

set_option autoImplicit false

namespace ChartParsing

/-- The seed past the root symbol, over the words before a position. -/
def Item.accepting (position : Nat) : Item :=
  Row.first.toItem.advance position

/-- Whether a row is one of the seed past the root symbol. -/
def Row.isMovedSeed (row : Row) : Bool :=
  row.rule.isSeed && row.dot ≠ 0

theorem Row.isMovedSeed_iff {row : Row} :
    row.isMovedSeed = true ↔ row.rule = .seed ∧ row.dot ≠ 0 := by
  rw [Row.isMovedSeed, Bool.and_eq_true, decide_eq_true_iff]
  cases row.rule <;> simp [Rule.isSeed]

namespace Charts

variable {grammar : Grammar} {words : List String} {charts : Charts} {row : Row}

theorem isRootOver_iff {position : Nat} :
    isRootOver position row = true ↔ row.rule.isPhrase = true ∧ row.rule.head = .root ∧
      row.isComplete = true ∧ row.start = 0 ∧ row.stop = position := by
  simp [isRootOver, and_assoc]

/-! ## The rows of the seed -/

theorem Sound.start_eq_zero_of_seed (sound : charts.Sound grammar words) :
    ∀ row ∈ charts.rows.toList, row.rule.isSeed = true → row.start = 0 := by
  refine sound.induction (fun _ => rfl) ?_
  intro id made _ calls isSeed
  cases calls with
  | predict isKnown expects isPhrase listed => exact nomatch isSeed
  | word isKnown expects isTerminal stands accepted => exact nomatch isSeed
  | nothing isKnown expects => exact nomatch isSeed
  | advance isKnown isAlsoKnown complete notSeed meets expects => exact isKnown.2.2 isSeed

/-- Only productions have the root symbol for their head. -/
theorem Sound.isPhrase_of_head_root (sound : charts.Sound grammar words)
    (member : row ∈ charts.rows.toList) (notSeed : row.rule.isSeed = false)
    (head : row.rule.head = .root) : row.rule.isPhrase = true := by
  have fits := (sound.possible row member).rule
  generalize row.rule = rule at notSeed head fits
  cases fits with
  | seed => exact nomatch notSeed
  | phrase listed => rfl
  | word mentioned stands =>
    obtain rfl : _ = Symbol.root := head
    exact absurd mentioned.1 (by decide)
  | nothing mentioned => exact absurd head (by decide)

/-- The seed is moved by a complete row of a production of the root symbol, over the same words. -/
theorem Sound.exists_root_of_movedSeed (sound : charts.Sound grammar words)
    (member : row ∈ charts.rows.toList) (moved : row.isMovedSeed = true) :
    row.toItem = .accepting row.stop ∧
      ∃ completed ∈ charts.rows.toList, isRootOver row.stop completed = true := by
  obtain ⟨isSeed, notFirst⟩ := Row.isMovedSeed_iff.1 moved
  have begins : row.start = 0 := sound.start_eq_zero_of_seed row member (by rw [isSeed]; rfl)
  obtain ⟨small, children, known⟩ := (sound.shaped row member).grown (by rw [isSeed]; rfl)
  rw [isSeed] at small
  have once : row.dot = 1 := Nat.le_antisymm small (Nat.pos_of_ne_zero notFirst)
  have heads : children.map (fun child => child.rule.head) = [Symbol.root] := by
    rw [known.heads, isSeed, once]
    rfl
  obtain ⟨completed, rfl, head⟩ := List.map_eq_singleton_iff.1 heads
  obtain ⟨starts, stops⟩ := known.tiles.of_singleton
  obtain ⟨complete, notSeed⟩ := known.complete completed List.mem_cons_self
  have stored := known.mem_rows completed List.mem_cons_self
  refine ⟨?_, completed, stored, Charts.isRootOver_iff.2
    ⟨sound.isPhrase_of_head_root stored notSeed head, head, complete, ?_, stops.symm⟩⟩
  · obtain ⟨⟨rule, dot, start, stop⟩, id, parents, origin⟩ := row
    obtain ⟨rfl, rfl, rfl⟩ : rule = .seed ∧ dot = 1 ∧ start = 0 := ⟨isSeed, once, begins⟩
    rfl
  · exact starts.symm.trans begins

/-- No row is completed by the seed. -/
theorem Sound.not_seed_of_parent (sound : charts.Sound grammar words)
    (member : row ∈ charts.rows.toList) {parent : Nat} (isParent : parent ∈ row.parents) :
    ∃ child, charts.row? parent = some child ∧ child.rule.isSeed = false := by
  have shaped := sound.shaped row member
  cases isTerminal : row.rule.isTerminal with
  | true =>
    rw [(shaped.matched isTerminal).2.1] at isParent
    exact absurd isParent List.not_mem_nil
  | false =>
    obtain ⟨_, children, known⟩ := shaped.grown isTerminal
    obtain ⟨child, isChild, found⟩ := known.exists_of_parent isParent
    exact ⟨child, found, (known.complete child isChild).2⟩

/-- There is at most one row of the moved seed in a chart. -/
theorem Sound.countP_movedSeed_le (sound : charts.Sound grammar words) (position : Nat) :
    (charts.rowsAt position).countP Row.isMovedSeed ≤ 1 := by
  have same : ∀ item ∈ ((charts.rowsAt position).filter Row.isMovedSeed).map Row.toItem,
      item = .accepting position := by
    intro item listed
    obtain ⟨row, member, rfl⟩ := List.mem_map.1 listed
    obtain ⟨here, moved⟩ := List.mem_filter.1 member
    obtain ⟨stored, rfl⟩ := sound.mem_rowsAt.1 here
    exact (sound.exists_root_of_movedSeed stored moved).1
  have distinct : (((charts.rowsAt position).filter Row.isMovedSeed).map Row.toItem).Nodup := by
    rw [sound.placed]
    exact sound.distinct.sublist ((List.filter_sublist.trans List.filter_sublist).map _)
  rw [List.eq_replicate_of_mem same, List.nodup_replicate, List.length_map] at distinct
  rwa [List.countP_eq_length_filter]

/-! ## The rows of a chart -/

theorem Sound.has_accepting_iff_rowsAt (sound : charts.Sound grammar words) {position : Nat} :
    charts.Has (.accepting position) ↔
      ∃ row ∈ charts.rowsAt position, row.toItem = .accepting position := by
  constructor
  · rintro ⟨row, member, same⟩
    exact ⟨row, sound.mem_rowsAt.2 ⟨member, congrArg Item.stop same⟩, same⟩
  · rintro ⟨row, here, same⟩
    exact ⟨row, mem_rows_of_mem_rowsAt here, same⟩

theorem Sound.exists_rootOver_iff_rowsAt (sound : charts.Sound grammar words) {position : Nat} :
    (∃ row ∈ charts.rows.toList, isRootOver position row = true) ↔
      ∃ row ∈ charts.rowsAt position, isRootOver position row = true := by
  constructor
  · rintro ⟨row, member, isRoot⟩
    obtain ⟨_, _, _, _, stops⟩ := Charts.isRootOver_iff.1 isRoot
    exact ⟨row, sound.mem_rowsAt.2 ⟨member, stops⟩, isRoot⟩
  · rintro ⟨row, here, isRoot⟩
    exact ⟨row, mem_rows_of_mem_rowsAt here, isRoot⟩

theorem Sound.rootRows_ne_nil_iff (sound : charts.Sound grammar words) :
    rootRows words charts ≠ [] ↔
      ∃ row ∈ charts.rows.toList, isRootOver words.length row = true := by
  rw [sound.exists_rootOver_iff_rowsAt, rootRows, ne_eq, List.filter_eq_nil_iff]
  simp

end Charts

namespace Construction

variable {grammar : Grammar} {sentence : Sentence} {charts : Charts}

/-- The seed is there when the machine sweeps for a complete row of the root symbol, as it is at every
moment. -/
theorem Finished.inTime_first (finished : Finished grammar sentence charts) {completed : Row}
    (member : completed ∈ charts.rows.toList) (complete : completed.next? = none)
    (notSeed : completed.rule.isSeed = false) (begins : completed.start = 0)
    (noWords : completed.start = completed.stop) :
    InTime grammar sentence Row.first.toItem completed.rule.head := by
  have sound := finished.sound
  obtain ⟨position, cursor, stopped, walked, last⟩ := finished
  obtain ⟨looked, moment, working⟩ := last.exists_looked completed (seen_of_walked sound walked member)
  refine ⟨looked, completed, 0, moment, ?_, rfl, begins, noWords.symm.trans begins, Row.first,
    moment.sound.charts.seeded, rfl⟩
  rw [working]
  simp [workFor, complete, notSeed]

/-- The seed is moved over exactly the words that a production of the root symbol covers. -/
theorem Finished.has_accepting_iff (finished : Finished grammar sentence charts) {position : Nat} :
    charts.Has (.accepting position) ↔
      ∃ row ∈ charts.rows.toList, Charts.isRootOver position row = true := by
  have sound := finished.sound
  constructor
  · rintro ⟨row, member, same⟩
    have moved : row.isMovedSeed = true := by
      simp only [Row.isMovedSeed, same]
      rfl
    obtain rfl : row.stop = position := congrArg Item.stop same
    exact (sound.exists_root_of_movedSeed member moved).2
  · rintro ⟨row, member, isRoot⟩
    obtain ⟨isPhrase, head, full, begins, rfl⟩ := Charts.isRootOver_iff.1 isRoot
    have complete := (sound.shaped row member).complete_iff.1 full
    have notSeed : row.rule.isSeed = false := by
      cases same : row.rule with
      | phrase production => rfl
      | terminal category word => rfl
      | seed => rw [same] at isPhrase; exact nomatch isPhrase
    -- Saturation advances an item over a constituent without words only when the item is in time.
    have expects : Row.first.toItem.next? = some row.rule.head := by
      rw [head]
      rfl
    exact finished.saturated.advance finished.saturated.seed ⟨row, member, rfl⟩ complete notSeed
      begins.symm expects (finished.inTime_first member complete notSeed begins)

theorem Finished.trees_ne_nil_iff (finished : Finished grammar sentence charts) {trees : List Tree}
    (ranked : charts.rankedTrees? grammar = some trees) :
    trees ≠ [] ↔ charts.Has (.accepting sentence.words.length) := by
  have sound := finished.sound
  obtain ⟨forest, built, shown⟩ := sound.exists_forest
  rw [sound.rankedTrees?_eq built shown] at ranked
  obtain rfl := Option.some.inj ranked
  have permuted := Charts.rankedRootRows_perm grammar sentence.words charts forest
  rw [finished.has_accepting_iff, ← sound.rootRows_ne_nil_iff, ne_eq, List.map_eq_nil_iff,
    ← List.length_eq_zero_iff, permuted.length_eq, List.length_eq_zero_iff]

/-- A construction that is not cancelled leaves the seed past the root symbol in exactly those charts
that have a complete row of a production of the root symbol over all words before them, and in each of
them once. So a sentence has trees just when the last chart has the seed past the root symbol. Neither
then nor on the way is a row completed by the seed. -/
theorem seed_agrees_with_roots (grammar : Grammar) (sentence : Sentence) :
    (∀ steps charts,
      (Progress.advance grammar sentence steps (.running (initial sentence))).charts? =
        some charts →
      ∀ row ∈ charts.rows.toList, ∀ parent ∈ row.parents,
        ∃ child, charts.row? parent = some child ∧ child.rule.isSeed = false) ∧
    ((construct grammar sentence = .cancelled ∧
        ∃ position, sentence.raisesStop position = true) ∨
      ∃ charts trees, construct grammar sentence = .finished charts ∧
        (∀ (session : Session) (threshold : Threshold), session.parser.grammar = grammar →
          (session.parse threshold sentence).analysis = .trees trees) ∧
        (∀ position ≤ sentence.words.length, ∃ rows, charts.rowsOf? position = some rows ∧
          ((∃ row ∈ rows, row.toItem = .accepting position) ↔
            ∃ row ∈ rows, Charts.isRootOver position row = true) ∧
          rows.countP Row.isMovedSeed ≤ 1) ∧
        ∃ last, charts.rowsOf? sentence.words.length = some last ∧
          (trees ≠ [] ↔ ∃ row ∈ last, row.toItem = .accepting sentence.words.length)) := by
  constructor
  · intro steps charts shown row member parent isParent
    exact (sound_of_advance shown).not_seed_of_parent member isParent
  rcases construct_ends grammar sentence with ⟨charts, ended⟩ | stopped
  · right
    have finished := finished_of_construct ended
    have sound := finished.sound
    obtain ⟨trees, ranked⟩ := sound.exists_rankedTrees
    have inside (position : Nat) (within : position ≤ sentence.words.length) :
        position < charts.length := by
      rw [sound.length_eq]
      exact Nat.lt_succ_of_le within
    refine ⟨charts, trees, ended, ?_, ?_, charts.rowsAt sentence.words.length,
      sound.coherent.rowsOf?_eq (inside _ (Nat.le_refl _)), ?_⟩
    · rintro session threshold rfl
      simp [Session.parse, ended, ranked]
    · intro position within
      refine ⟨_, sound.coherent.rowsOf?_eq (inside position within), ?_,
        sound.countP_movedSeed_le position⟩
      rw [← sound.has_accepting_iff_rowsAt, ← sound.exists_rootOver_iff_rowsAt]
      exact finished.has_accepting_iff
    · rw [← sound.has_accepting_iff_rowsAt]
      exact finished.trees_ne_nil_iff ranked
  · exact .inl stopped

end Construction

end ChartParsing
