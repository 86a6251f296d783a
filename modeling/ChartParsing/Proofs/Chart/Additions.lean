import ChartParsing.Proofs.Chart.Contents
import Mathlib.Algebra.BigOperators.Group.Finset.Basic
import Mathlib.Data.List.Nodup

/-!
Contract: charts after any additions.

Owns what charts hold after rows of any kind were added to charts of any position, also where the row
does not stop. A row keeps the number that its addition answered, which is how many rows there were
before, and is listed in the chart that it was added to, in the order of the additions. So the index of
a chart finds exactly the items that a scan of the chart finds. An addition to a chart that does not
exist does nothing.
-/

set_option autoImplicit false

namespace ChartParsing.Charts

/-! ## Histories of additions -/

/-- The charts after an addition, which does nothing where there is no such chart. -/
def afterAddition (charts : Charts) (addition : Nat × Row) : Charts :=
  match charts.add? addition.1 addition.2 with
  | none => charts
  | some (_, added) => added

/-- The charts after additions one after the other. Questions that are asked between them leave the
charts alone. -/
def after (charts : Charts) (additions : List (Nat × Row)) : Charts :=
  additions.foldl afterAddition charts

section Addition

variable {charts : Charts} {position : Nat}

theorem add?_eq_none (outside : charts.length ≤ position) (row : Row) :
    charts.add? position row = none := by
  obtain ⟨rows, perPosition⟩ := charts
  exact if_neg (Nat.not_lt.2 outside)

theorem afterAddition_of_lt (inside : position < charts.length) (row : Row) :
    charts.afterAddition (position, row) = charts.extended position row := by
  rw [afterAddition, add?_eq inside]

theorem afterAddition_of_le (outside : charts.length ≤ position) (row : Row) :
    charts.afterAddition (position, row) = charts := by
  rw [afterAddition, add?_eq_none outside]

end Addition

/-! ## What charts hold -/

/-- Charts that hold the rows of some additions: each has the place of its addition as its number, and
every chart lists the numbers of its rows in order. -/
structure Holds (positions : Nat) (additions : List (Nat × Row)) (charts : Charts) : Prop where
  coherent : charts.Coherent
  length_eq : charts.length = positions
  inside : ∀ addition ∈ additions, addition.1 < positions
  rowCount_eq : charts.rowCount = additions.length
  row?_eq : ∀ id, charts.row? id = (additions[id]?).map fun addition => addition.2.numbered id
  listed : ∀ {position : Nat} {chart : Chart}, charts.charts[position]? = some chart →
    chart.ids.toList =
      (List.range additions.length).filter fun id => (additions[id]?).map Prod.fst = some position

theorem holds_blank (positions : Nat) : (blank positions).Holds positions [] where
  coherent := blank_coherent positions
  length_eq := blank_length positions
  inside := fun _ impossible => absurd impossible List.not_mem_nil
  rowCount_eq := rfl
  row?_eq := fun _ => rfl
  listed := by
    intro position chart here
    obtain ⟨_, rfl⟩ : position < positions ∧ Chart.empty = chart := by
      simpa [blank, Array.getElem?_replicate] using here
    rfl

theorem getElem?_concat {α : Type} (list : List α) (last : α) (index : Nat) :
    (list ++ [last])[index]? = if index = list.length then some last else list[index]? := by
  by_cases isLast : index = list.length
  · subst isLast
    rw [if_pos rfl, List.getElem?_concat_length]
  · rw [if_neg isLast, List.getElem?_append]
    split
    case isTrue => rfl
    case isFalse beyond =>
      rw [List.getElem?_eq_none (Nat.not_lt.1 beyond), List.getElem?_eq_none]
      rw [List.length_singleton]
      omega

section Holds

variable {charts : Charts} {positions : Nat} {additions : List (Nat × Row)}
  (holds : charts.Holds positions additions)

include holds

theorem Holds.added {position : Nat} (here : position < positions) (row : Row) :
    (charts.extended position row).Holds positions (additions ++ [(position, row)]) where
  coherent := holds.coherent.extended row
  length_eq := by
    rw [← holds.length_eq]
    simp [extended, length]
  inside := by
    intro addition member
    rcases List.mem_append.1 member with old | last
    · exact holds.inside addition old
    · rw [List.mem_singleton.1 last]
      exact here
  rowCount_eq := by
    rw [List.length_append, ← holds.rowCount_eq]
    simp [extended, rowCount]
  row?_eq := by
    intro id
    rw [extended_row?, holds.rowCount_eq, holds.row?_eq, getElem?_concat]
    split
    case isTrue next => rw [next, Option.map_some]
    case isFalse => rfl
  listed := by
    intro other chart found
    obtain ⟨former, old, rfl⟩ := exists_chart_of_extended found
    have earlier : (List.range additions.length).filter (fun id =>
        ((additions ++ [(position, row)])[id]?).map Prod.fst = some other) = former.ids.toList := by
      rw [holds.listed old]
      refine List.filter_congr fun id inRange => ?_
      rw [getElem?_concat, if_neg (Nat.ne_of_lt (List.mem_range.1 inRange))]
    rw [List.length_append, List.length_singleton, List.range_succ, List.filter_append, earlier,
      List.filter_singleton, getElem?_concat, if_pos rfl, Option.map_some]
    by_cases same : other = position
    · subst same
      simp [Chart.ids_push, holds.rowCount_eq]
    · simp [same, Ne.symm same]

end Holds

/-- After any additions, charts hold the rows of those that were to charts that exist. -/
theorem exists_holds_after {charts : Charts} {positions : Nat} {earlier : List (Nat × Row)}
    (holds : charts.Holds positions earlier) (additions : List (Nat × Row)) :
    ∃ later, (charts.after additions).Holds positions (earlier ++ later) := by
  induction additions generalizing charts earlier with
  | nil => exact ⟨[], by rwa [List.append_nil]⟩
  | cons addition others inductionHypothesis =>
    obtain ⟨position, row⟩ := addition
    show ∃ later, ((charts.afterAddition (position, row)).after others).Holds positions
      (earlier ++ later)
    by_cases inside : position < charts.length
    · rw [afterAddition_of_lt inside]
      obtain ⟨later, held⟩ :=
        inductionHypothesis (holds.added (holds.length_eq ▸ inside) row)
      exact ⟨(position, row) :: later, by rwa [List.append_assoc] at held⟩
    · rw [afterAddition_of_le (Nat.not_lt.1 inside)]
      exact inductionHypothesis holds

/-! ## Numbers -/

def numbersAt (charts : Charts) (position : Nat) : List Nat :=
  (charts.rowsAt position).map Row.id

section Numbers

variable {charts : Charts} {positions : Nat} {additions : List (Nat × Row)}

theorem Coherent.numbersAt_eq (coherent : charts.Coherent) {position : Nat} {chart : Chart}
    (here : charts.charts[position]? = some chart) :
    charts.numbersAt position = chart.ids.toList := by
  apply List.map_injective_iff.2 (Option.some_injective Nat)
  calc (charts.numbersAt position).map some
      = ((charts.rowsAt position).map some).map (Option.map Row.id) := by
        rw [numbersAt, List.map_map, List.map_map]
        rfl
    _ = chart.ids.toList.map fun id => (charts.row? id).map Row.id := by
        rw [← coherent.map_row? here, List.map_map]
        rfl
    _ = chart.ids.toList.map some := by
        refine List.map_congr_left fun id member => ?_
        obtain ⟨row, found⟩ := exists_row (coherent.stored here id member)
        rw [found, Option.map_some, coherent.numbered found]

theorem Holds.numbersAt_eq (holds : charts.Holds positions additions) (position : Nat) :
    charts.numbersAt position =
      (List.range additions.length).filter fun id =>
        (additions[id]?).map Prod.fst = some position := by
  cases here : charts.charts[position]? with
  | some chart => rw [holds.coherent.numbersAt_eq here, holds.listed here]
  | none =>
    have outside : positions ≤ position := by
      rw [← holds.length_eq]
      exact Array.getElem?_eq_none_iff.1 here
    have nothing : charts.numbersAt position = [] := by simp [numbersAt, rowsAt, here]
    rw [nothing, eq_comm, List.filter_eq_nil_iff]
    intro id inRange placed
    obtain ⟨addition, found, same⟩ := Option.map_eq_some_iff.1 (of_decide_eq_true placed)
    have inside := holds.inside addition (List.mem_of_getElem? found)
    omega

theorem Holds.pairwise_numbersAt (holds : charts.Holds positions additions) (position : Nat) :
    (charts.numbersAt position).Pairwise (· < ·) := by
  rw [holds.numbersAt_eq]
  exact List.pairwise_lt_range.sublist List.filter_sublist

theorem Holds.mem_numbersAt (holds : charts.Holds positions additions) {position id : Nat} :
    id ∈ charts.numbersAt position ↔
      id < additions.length ∧ (additions[id]?).map Prod.fst = some position := by
  rw [holds.numbersAt_eq, List.mem_filter, List.mem_range, decide_eq_true_iff]

/-- Every number is at one place of one chart. -/
theorem Holds.existsUnique_place (holds : charts.Holds positions additions) {id : Nat}
    (stored : id < charts.rowCount) :
    ∃! place : Nat × Nat, (charts.numbersAt place.1)[place.2]? = some id := by
  rw [holds.rowCount_eq] at stored
  have placed : (additions[id]?).map Prod.fst = some additions[id].1 := by
    rw [List.getElem?_eq_getElem stored, Option.map_some]
  obtain ⟨index, found⟩ := List.getElem?_of_mem (holds.mem_numbersAt.2 ⟨stored, placed⟩)
  refine ⟨(additions[id].1, index), found, ?_⟩
  rintro ⟨position, otherIndex⟩ alsoFound
  have alsoPlaced := (holds.mem_numbersAt.1 (List.mem_of_getElem? alsoFound)).2
  obtain rfl : additions[id].1 = position := Option.some.inj (placed.symm.trans alsoPlaced)
  have distinct : (charts.numbersAt additions[id].1).Nodup :=
    (holds.pairwise_numbersAt _).imp Nat.ne_of_lt
  have inside := (List.getElem?_eq_some_iff.1 found).1
  rw [(List.getElem?_inj inside distinct).1 (found.trans alsoFound.symm)]

theorem Holds.sum_length_numbersAt (holds : charts.Holds positions additions) :
    ∑ position ∈ Finset.range positions, (charts.numbersAt position).length =
      charts.rowCount := by
  have place_lt : Set.MapsTo (fun id => ((additions[id]?).map Prod.fst).getD 0)
      (Finset.range additions.length : Set Nat) (Finset.range positions) := by
    intro id inRange
    have stored := Finset.mem_range.1 (Finset.mem_coe.1 inRange)
    dsimp only
    rw [Finset.mem_coe, Finset.mem_range, List.getElem?_eq_getElem stored]
    exact holds.inside _ (List.getElem_mem stored)
  have counted := Finset.card_eq_sum_card_fiberwise place_lt
  rw [Finset.card_range] at counted
  rw [holds.rowCount_eq, counted]
  refine Finset.sum_congr rfl fun position _ => ?_
  have distinct : (charts.numbersAt position).Nodup :=
    (holds.pairwise_numbersAt _).imp Nat.ne_of_lt
  rw [← List.toFinset_card_of_nodup distinct]
  congr 1
  ext id
  rw [List.mem_toFinset, holds.mem_numbersAt, Finset.mem_filter, Finset.mem_range]
  refine and_congr_right fun stored => ?_
  rw [List.getElem?_eq_getElem stored, Option.map_some, Option.getD_some, Option.some.injEq]

end Numbers

/-! ## What the charts answer -/

/-- The answers of charts fit together. -/
structure Agreeing (positions : Nat) (charts : Charts) : Prop where
  length_eq : charts.length = positions
  /-- The rows of a chart are numbered in order, and its index finds an item exactly if a scan of the
  rows does. Numbers, parents and origins play no part. -/
  indexed : ∀ position < positions, ∃ rows, charts.rowsOf? position = some rows ∧
    charts.size? position = some rows.length ∧
    (∀ index, charts.rowAt? position index = rows[index]?) ∧
    rows.Pairwise (fun earlier later => earlier.id < later.id) ∧
    ∀ row : Row, charts.holds? position row.toItem =
      some (decide (∃ known ∈ rows, known.rule = row.rule ∧ known.dot = row.dot ∧
        known.start = row.start ∧ known.stop = row.stop))
  numbered : ∀ id, id < charts.rowCount ↔ ∃ row, charts.row? id = some row ∧ row.id = id
  /-- Every number is at one place of one chart. -/
  once : ∀ id < charts.rowCount, ∃! place : Nat × Nat,
    ∃ row, charts.rowAt? place.1 place.2 = some row ∧ row.id = id
  sizes : ∑ position ∈ Finset.range positions, (charts.size? position).getD 0 = charts.rowCount

/-- An addition answers the number of rows before it, under which the row is found ever after, and puts
the row at the end of its chart. An addition to a chart that does not exist is refused. -/
structure Extensible (positions : Nat) (charts : Charts) : Prop where
  inside : ∀ position < positions, ∀ row : Row,
    charts.add? position row = some (charts.rowCount, charts.after [(position, row)]) ∧
    (∀ other < positions, (charts.after [(position, row)]).rowsOf? other =
      (charts.rowsOf? other).map fun rows =>
        if other = position then rows ++ [{ row with id := charts.rowCount }] else rows) ∧
    ∀ additions, ((charts.after [(position, row)]).after additions).row? charts.rowCount =
      some { row with id := charts.rowCount }
  outside : ∀ position, positions ≤ position → ∀ row : Row,
    charts.add? position row = none ∧ charts.after [(position, row)] = charts

theorem toItem_eq_iff {known row : Row} :
    known.toItem = row.toItem ↔ known.rule = row.rule ∧ known.dot = row.dot ∧
      known.start = row.start ∧ known.stop = row.stop := by
  obtain ⟨⟨rule, dot, start, stop⟩, _, _, _⟩ := known
  exact Iff.of_eq (Item.mk.injEq ..)

section Answers

variable {charts : Charts} {positions : Nat} {additions : List (Nat × Row)}
  (holds : charts.Holds positions additions)

include holds

theorem Holds.agreeing : charts.Agreeing positions where
  length_eq := holds.length_eq
  indexed := by
    intro position here
    have coherent := holds.coherent
    have inside : position < charts.length := holds.length_eq ▸ here
    refine ⟨_, coherent.rowsOf?_eq inside, coherent.size?_eq inside, coherent.rowAt?_eq,
      List.pairwise_map.1 (holds.pairwise_numbersAt position), fun row => ?_⟩
    rw [coherent.holds?_eq inside]
    simp only [toItem_eq_iff]
  numbered := by
    intro id
    constructor
    · intro stored
      obtain ⟨row, found⟩ := exists_row stored
      exact ⟨row, found, holds.coherent.numbered found⟩
    · rintro ⟨row, found, _⟩
      exact (Array.getElem?_eq_some_iff.1 found).1
  once := by
    intro id stored
    refine (existsUnique_congr fun place => ?_).1 (holds.existsUnique_place stored)
    rw [numbersAt, List.getElem?_map, Option.map_eq_some_iff, holds.coherent.rowAt?_eq]
  sizes := by
    rw [← holds.sum_length_numbersAt]
    refine Finset.sum_congr rfl fun position inRange => ?_
    have inside : position < charts.length := holds.length_eq ▸ Finset.mem_range.1 inRange
    rw [holds.coherent.size?_eq inside, Option.getD_some, numbersAt, List.length_map]

theorem Holds.extensible : charts.Extensible positions where
  inside := by
    intro position here row
    have inside : position < charts.length := holds.length_eq ▸ here
    have grown : charts.after [(position, row)] = charts.extended position row :=
      afterAddition_of_lt inside row
    have added := holds.added here row
    rw [grown]
    refine ⟨add?_eq inside row, fun other alsoHere => ?_, fun others => ?_⟩
    · have alsoInside : other < charts.length := holds.length_eq ▸ alsoHere
      have stillInside : other < (charts.extended position row).length :=
        added.length_eq ▸ alsoHere
      rw [added.coherent.rowsOf?_eq stillInside, holds.coherent.rowsOf?_eq alsoInside,
        Option.map_some, holds.coherent.extended_rowsAt inside row]
      rfl
    · obtain ⟨later, held⟩ := exists_holds_after added others
      rw [held.row?_eq, holds.rowCount_eq, List.append_assoc,
        List.getElem?_append_right (Nat.le_refl _), Nat.sub_self]
      rfl
  outside := by
    intro position outside row
    have absent : charts.length ≤ position := holds.length_eq ▸ outside
    exact ⟨add?_eq_none absent row, afterAddition_of_le absent row⟩

end Answers

/-- After any additions of any rows to any charts, the index of every chart agrees with its rows, every
row is found under the number that its addition answered and is in one place, and further additions
leave it there. -/
theorem agreeing_and_extensible_after (positions : Nat) (additions : List (Nat × Row)) :
    ((blank positions).after additions).Agreeing positions ∧
      ((blank positions).after additions).Extensible positions := by
  obtain ⟨held, holds⟩ := exists_holds_after (holds_blank positions) additions
  exact ⟨holds.agreeing, holds.extensible⟩

end ChartParsing.Charts
