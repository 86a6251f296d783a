import ChartParsing.Chart.Construction
import ChartParsing.Proofs.Chart.Contents
import Mathlib.Data.List.Nodup

/-!
Contract: how the rows of a chart come from each other.

Owns the deduction behind the construction: which rows a row or a pair of rows calls for. Sound charts
hold the seed and rows called for by rows with smaller numbers, no item twice, and every row in the
chart of the position where it stops. Whatever holds of the seed and passes from rows to the rows they
call for holds of all rows of sound charts.
-/

set_option autoImplicit false

namespace ChartParsing

/-- The symbols that a rule is made of. The seed is made of the root symbol. -/
def Rule.constituents : Rule → List Symbol
  | .phrase production => production.body
  | .terminal _ _ => []
  | .seed => [.root]

theorem Rule.symbolAt?_eq (rule : Rule) (dot : Nat) :
    rule.symbolAt? dot = rule.constituents[dot]? := by
  cases rule with
  | phrase production => rfl
  | terminal category word => simp [symbolAt?, constituents]
  | seed =>
    cases dot with
    | zero => rfl
    | succ dot => simp [symbolAt?, constituents]

theorem Item.next?_eq (item : Item) : item.next? = item.rule.constituents[item.dot]? :=
  item.rule.symbolAt?_eq item.dot

def Row.first : Row :=
  Row.opening .seed 0 0 .seed

/-- The rows that known rows call for, before they are numbered. -/
inductive Calls (grammar : Grammar) (words : List String) (known : Row → Prop) : Row → Prop where
  | predict {waiting : Row} {symbol : Symbol} {production : Production} (isKnown : known waiting)
      (expects : waiting.next? = some symbol) (isPhrase : symbol.isPhrase = true)
      (listed : production ∈ grammar.productionsOf symbol) :
      Calls grammar words known
        (.opening (.phrase production) waiting.stop waiting.stop .predict)
  | word {waiting : Row} {symbol : Symbol} {text : String} (isKnown : known waiting)
      (expects : waiting.next? = some symbol) (isTerminal : symbol.isTerminal = true)
      (stands : words[waiting.stop]? = some text)
      (accepted : Construction.accepts grammar symbol text = true) :
      Calls grammar words known
        (.scanned (.terminal symbol text) waiting.stop (waiting.stop + 1))
  | nothing {waiting : Row} (isKnown : known waiting) (expects : waiting.next? = some .empty) :
      Calls grammar words known (.scanned (.terminal .empty "") waiting.stop waiting.stop)
  | advance {waiting completed : Row} (isKnown : known waiting) (isAlsoKnown : known completed)
      (complete : completed.next? = none) (notSeed : completed.rule.isSeed = false)
      (meets : waiting.stop = completed.start)
      (expects : waiting.next? = some completed.rule.head) :
      Calls grammar words known (waiting.advance completed.stop completed.id)

theorem Calls.mono {grammar : Grammar} {words : List String} {known more : Row → Prop} {row : Row}
    (calls : Calls grammar words known row) (weaker : ∀ other, known other → more other) :
    Calls grammar words more row := by
  cases calls with
  | predict isKnown expects isPhrase listed =>
    exact .predict (weaker _ isKnown) expects isPhrase listed
  | word isKnown expects isTerminal stands accepted =>
    exact .word (weaker _ isKnown) expects isTerminal stands accepted
  | nothing isKnown expects => exact .nothing (weaker _ isKnown) expects
  | advance isKnown isAlsoKnown complete notSeed meets expects =>
    exact .advance (weaker _ isKnown) (weaker _ isAlsoKnown) complete notSeed meets expects

theorem Calls.span {grammar : Grammar} {words : List String} {known : Row → Prop} {made : Row}
    (calls : Calls grammar words known made)
    (spans : ∀ row, known row → row.start ≤ row.stop ∧ row.stop ≤ words.length) :
    made.start ≤ made.stop ∧ made.stop ≤ words.length := by
  cases calls with
  | predict isKnown expects isPhrase listed => exact ⟨Nat.le_refl _, (spans _ isKnown).2⟩
  | word isKnown expects isTerminal stands accepted =>
    exact ⟨Nat.le_succ _, (List.getElem?_eq_some_iff.1 stands).1⟩
  | nothing isKnown expects => exact ⟨Nat.le_refl _, (spans _ isKnown).2⟩
  | advance isKnown isAlsoKnown complete notSeed meets expects =>
    have before := (spans _ isKnown).1
    have after := spans _ isAlsoKnown
    refine ⟨?_, after.2⟩
    simp only [Row.advance]
    omega

namespace Charts

def Has (charts : Charts) (item : Item) : Prop :=
  ∃ row ∈ charts.rows.toList, row.toItem = item

/-- Charts as every moment of a construction leaves them. -/
structure Sound (grammar : Grammar) (words : List String) (charts : Charts) : Prop where
  coherent : charts.Coherent
  length_eq : charts.length = words.length + 1
  placed : ∀ position, charts.rowsAt position =
    charts.rows.toList.filter fun row => row.stop = position
  seeded : Row.first ∈ charts.rows.toList
  /-- Every other row is called for by rows with smaller numbers. -/
  founded : ∀ row ∈ charts.rows.toList, row = Row.first ∨
    ∃ made, row = made.numbered row.id ∧
      Calls grammar words (fun known => known ∈ charts.rows.toList ∧ known.id < row.id) made
  distinct : (charts.rows.toList.map Row.toItem).Nodup

variable {grammar : Grammar} {words : List String} {charts : Charts}

theorem Sound.mem_rowsAt (sound : charts.Sound grammar words) {position : Nat} {row : Row} :
    row ∈ charts.rowsAt position ↔ row ∈ charts.rows.toList ∧ row.stop = position := by
  rw [sound.placed, List.mem_filter, decide_eq_true_iff]

/-- What holds of the seed, and of every row that is called for by rows of which it holds, holds of
all rows. -/
theorem Sound.induction {holds : Row → Prop} (sound : charts.Sound grammar words)
    (first : holds .first)
    (called : ∀ id made, made.numbered id ∈ charts.rows.toList →
      Calls grammar words
        (fun known => known ∈ charts.rows.toList ∧ known.id < id ∧ holds known) made →
      holds (made.numbered id)) :
    ∀ row ∈ charts.rows.toList, holds row := by
  -- Rows call for rows with greater numbers, so the induction is on a bound of the numbers.
  suffices below : ∀ bound, ∀ row ∈ charts.rows.toList, row.id < bound → holds row from
    fun row member => below (row.id + 1) row member (Nat.lt_succ_self _)
  intro bound
  induction bound with
  | zero => exact fun row _ impossible => absurd impossible (Nat.not_lt_zero _)
  | succ bound inductionHypothesis =>
    intro row member small
    rcases sound.founded row member with rfl | ⟨made, same, calls⟩
    · exact first
    · rw [same] at member ⊢
      refine called row.id made member (calls.mono ?_)
      rintro known ⟨knownMember, smaller⟩
      exact ⟨knownMember, smaller, inductionHypothesis known knownMember (by omega)⟩

theorem Sound.span (sound : charts.Sound grammar words) :
    ∀ row ∈ charts.rows.toList, row.start ≤ row.stop ∧ row.stop ≤ words.length := by
  refine sound.induction ⟨Nat.le_refl 0, Nat.zero_le _⟩ ?_
  intro id made _ calls
  exact calls.span fun known isKnown => isKnown.2.2

/-! ## Growth -/

theorem Sound.grown (sound : charts.Sound grammar words) {row : Row} {grown : Charts}
    (growth : charts.Grown row.stop row grown)
    (new : ∀ known ∈ charts.rowsAt row.stop, known.toItem ≠ row.toItem)
    (calls : Calls grammar words (· ∈ charts.rows.toList) row) : grown.Sound grammar words where
  coherent := growth.coherent
  length_eq := growth.length_eq.trans sound.length_eq
  placed := by
    intro position
    rw [growth.rowsAt_eq, growth.rows_eq, List.filter_append, ← sound.placed]
    by_cases here : position = row.stop
    · simp [here]
    · simp [here, Ne.symm here]
  seeded := by
    rw [growth.rows_eq]
    exact List.mem_append_left _ sound.seeded
  founded := by
    intro other member
    rw [growth.rows_eq] at member ⊢
    rcases List.mem_append.1 member with old | last
    · refine (sound.founded other old).imp_right ?_
      rintro ⟨made, same, called⟩
      exact ⟨made, same, called.mono fun known isKnown =>
        ⟨List.mem_append_left _ isKnown.1, isKnown.2⟩⟩
    · obtain rfl := List.mem_singleton.1 last
      exact .inr ⟨row, rfl, calls.mono fun known isKnown =>
        ⟨List.mem_append_left _ isKnown, sound.coherent.id_lt isKnown⟩⟩
  distinct := by
    rw [growth.rows_eq, List.map_append, List.nodup_append]
    refine ⟨sound.distinct, List.nodup_singleton _, ?_⟩
    intro item old other last same
    obtain ⟨known, member, rfl⟩ := List.mem_map.1 old
    obtain rfl := List.mem_singleton.1 last
    have stops : known.stop = row.stop := congrArg Item.stop same
    exact new known (sound.mem_rowsAt.2 ⟨member, stops⟩) same

theorem Sound.entered (sound : charts.Sound grammar words) {row : Row} {entered : Charts}
    (entry : charts.Entered row.stop row entered)
    (calls : Calls grammar words (· ∈ charts.rows.toList) row) : entered.Sound grammar words := by
  cases entry with
  | known present => exact sound
  | added new growth => exact sound.grown growth new calls

/-- A chart only grows at its end. -/
theorem Entered.rowsAt_prefix {position : Nat} {row : Row} {entered : Charts}
    (entry : charts.Entered position row entered) (other : Nat) :
    charts.rowsAt other <+: entered.rowsAt other := by
  cases entry with
  | known present => exact List.prefix_refl _
  | added new growth =>
    rw [growth.rowsAt_eq]
    split
    · exact List.prefix_append _ _
    · exact List.prefix_refl _

theorem Entered.rowsAt_of_ne {position other : Nat} {row : Row} {entered : Charts}
    (entry : charts.Entered position row entered) (elsewhere : other ≠ position) :
    entered.rowsAt other = charts.rowsAt other := by
  cases entry with
  | known present => rfl
  | added new growth => rw [growth.rowsAt_eq, if_neg elsewhere]

theorem Entered.rows_subset {position : Nat} {row : Row} {entered : Charts}
    (entry : charts.Entered position row entered) :
    charts.rows.toList ⊆ entered.rows.toList := by
  cases entry with
  | known present => exact List.Subset.refl _
  | added new growth =>
    rw [growth.rows_eq]
    exact List.subset_append_left _ _

theorem Entered.mem_rows {position : Nat} {row other : Row} {entered : Charts}
    (entry : charts.Entered position row entered) (member : other ∈ entered.rows.toList) :
    other ∈ charts.rows.toList ∨ other = row.numbered charts.rowCount := by
  cases entry with
  | known present => exact .inl member
  | added new growth =>
    rw [growth.rows_eq] at member
    exact (List.mem_append.1 member).imp_right List.mem_singleton.1

theorem Entered.has {position : Nat} {row : Row} {entered : Charts} {item : Item}
    (entry : charts.Entered position row entered) (has : charts.Has item) : entered.Has item := by
  obtain ⟨known, member, same⟩ := has
  exact ⟨known, entry.rows_subset member, same⟩

theorem Entered.has_offered {position : Nat} {row : Row} {entered : Charts}
    (entry : charts.Entered position row entered) : entered.Has row.toItem := by
  cases entry with
  | known present =>
    obtain ⟨known, member, same⟩ := present
    exact ⟨known, mem_rows_of_mem_rowsAt member, same⟩
  | added new growth =>
    refine ⟨row.numbered charts.rowCount, ?_, rfl⟩
    rw [growth.rows_eq]
    exact List.mem_append_right _ (List.mem_singleton_self _)

end Charts

theorem Construction.grown_seeded (sentence : Sentence) :
    (Charts.blank (sentence.words.length + 1)).Grown 0 .first (seeded sentence) := by
  have inside : 0 < (Charts.blank (sentence.words.length + 1)).length := by simp
  have same : seeded sentence = (Charts.blank (sentence.words.length + 1)).extended 0 .first := by
    simp only [seeded, Row.first, Charts.add?_eq inside]
  rw [same]
  exact (Charts.blank_coherent _).grown_extended inside _

theorem Construction.sound_seeded (grammar : Grammar) (sentence : Sentence) :
    (seeded sentence).Sound grammar sentence.words := by
  have growth := grown_seeded sentence
  have only : (seeded sentence).rows.toList = [Row.first] := by
    rw [growth.rows_eq]
    rfl
  exact {
    coherent := growth.coherent
    length_eq := growth.length_eq.trans (Charts.blank_length _)
    placed := by
      intro position
      rw [growth.rowsAt_eq, only, Charts.blank_rowsAt]
      by_cases here : position = 0
      · subst here
        rfl
      · have elsewhere : Row.first.stop ≠ position := Ne.symm here
        simp [here, elsewhere]
    seeded := by
      rw [only]
      exact List.mem_singleton_self _
    founded := by
      intro row member
      rw [only] at member
      exact .inl (List.mem_singleton.1 member)
    distinct := by
      rw [only]
      exact List.nodup_singleton _ }

end ChartParsing
