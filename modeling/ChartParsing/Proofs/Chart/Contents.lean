import ChartParsing.Chart.Collection
import ChartParsing.Proofs.Lists
import Mathlib.Data.List.Basic

/-!
Contract: what the charts of a sentence hold.

Owns the rows of a chart as a list, the coherence of the store with the charts and their indices, and
the meaning of every chart operation in terms of these lists. Every addition keeps the coherence, so
an operation on a position that exists always answers.
-/

set_option autoImplicit false

namespace ChartParsing

def Row.numbered (row : Row) (id : Nat) : Row :=
  { row with id }

@[simp] theorem Row.numbered_toItem (row : Row) (id : Nat) :
    (row.numbered id).toItem = row.toItem := rfl

@[simp] theorem Row.numbered_id (row : Row) (id : Nat) : (row.numbered id).id = id := rfl

@[simp] theorem Row.numbered_parents (row : Row) (id : Nat) :
    (row.numbered id).parents = row.parents := rfl

theorem Chart.ids_push (chart : Chart) (placement : Placement) (id : Nat) :
    (chart.push placement id).ids.toList = chart.ids.toList ++ [id] := by
  obtain ⟨ids, index⟩ := chart
  simp [push]

namespace Charts

def rowsAt (charts : Charts) (position : Nat) : List Row :=
  match charts.charts[position]? with
  | none => []
  | some chart => chart.ids.toList.filterMap charts.row?

/-- Every row has the number under which it is stored, and every chart lists and indexes stored rows
only. -/
structure Coherent (charts : Charts) : Prop where
  numbered : ∀ {id : Nat} {row : Row}, charts.row? id = some row → row.id = id
  stored : ∀ {position : Nat} {chart : Chart}, charts.charts[position]? = some chart →
    ∀ id ∈ chart.ids.toList, id < charts.rowCount
  indexed : ∀ {position : Nat} {chart : Chart}, charts.charts[position]? = some chart →
    ∀ placement id, id ∈ chart.placed placement ↔
      id ∈ chart.ids.toList ∧ ∃ row, charts.row? id = some row ∧ row.placement = placement

section Reading

variable {charts : Charts} {position : Nat}

theorem rowsAt_of_chart {chart : Chart} (here : charts.charts[position]? = some chart) :
    charts.rowsAt position = chart.ids.toList.filterMap charts.row? := by
  simp [rowsAt, here]

theorem exists_chart (inside : position < charts.length) :
    ∃ chart, charts.charts[position]? = some chart :=
  ⟨charts.charts[position], Array.getElem?_eq_getElem inside⟩

theorem exists_row {id : Nat} (stored : id < charts.rowCount) : ∃ row, charts.row? id = some row :=
  ⟨charts.rows[id], Array.getElem?_eq_getElem stored⟩

theorem row?_mem {id : Nat} {row : Row} (found : charts.row? id = some row) :
    row ∈ charts.rows.toList := by
  obtain ⟨inside, same⟩ := Array.getElem?_eq_some_iff.1 found
  exact same ▸ Array.getElem_mem_toList inside

theorem Coherent.row?_id (coherent : charts.Coherent) {row : Row}
    (member : row ∈ charts.rows.toList) : charts.row? row.id = some row := by
  obtain ⟨id, inside, same⟩ := List.getElem_of_mem member
  have found : charts.row? id = some row := by
    simp only [row?, ← Array.getElem?_toList]
    exact List.getElem?_eq_some_iff.2 ⟨inside, same⟩
  rw [coherent.numbered found]
  exact found

theorem Coherent.id_lt (coherent : charts.Coherent) {row : Row}
    (member : row ∈ charts.rows.toList) : row.id < charts.rowCount :=
  (Array.getElem?_eq_some_iff.1 (coherent.row?_id member)).1

theorem Coherent.eq_of_id_eq (coherent : charts.Coherent) {left right : Row}
    (leftMember : left ∈ charts.rows.toList) (rightMember : right ∈ charts.rows.toList)
    (same : left.id = right.id) : left = right := by
  have found := coherent.row?_id leftMember
  rw [same, coherent.row?_id rightMember] at found
  exact (Option.some.inj found).symm

theorem Coherent.map_row? (coherent : charts.Coherent) {chart : Chart}
    (here : charts.charts[position]? = some chart) :
    chart.ids.toList.map charts.row? = (charts.rowsAt position).map some := by
  rw [rowsAt_of_chart here, List.map_filterMap_some_eq_filter_map_isSome, List.filter_eq_self.2]
  intro row member
  obtain ⟨id, listed, rfl⟩ := List.mem_map.1 member
  obtain ⟨row, found⟩ := exists_row (coherent.stored here id listed)
  simp [found]

theorem mem_rows_of_mem_rowsAt {row : Row} (member : row ∈ charts.rowsAt position) :
    row ∈ charts.rows.toList := by
  unfold rowsAt at member
  split at member
  · simp at member
  · obtain ⟨id, _, found⟩ := List.mem_filterMap.1 member
    exact row?_mem found

/-! ## What the questions answer -/

theorem Coherent.size?_eq (coherent : charts.Coherent) (inside : position < charts.length) :
    charts.size? position = some (charts.rowsAt position).length := by
  obtain ⟨chart, here⟩ := exists_chart inside
  have lengths := congrArg List.length (coherent.map_row? here)
  simp only [List.length_map, Array.length_toList] at lengths
  simp [size?, here, lengths]

theorem size?_eq_none (outside : charts.length ≤ position) : charts.size? position = none := by
  have absent : charts.charts[position]? = none := Array.getElem?_eq_none outside
  simp [size?, absent]

theorem Coherent.rowAt?_eq (coherent : charts.Coherent) (index : Nat) :
    charts.rowAt? position index = (charts.rowsAt position)[index]? := by
  unfold rowAt?
  split
  case h_1 absent => simp [rowsAt, absent]
  case h_2 chart here =>
    have entry := congrArg (fun found => found[index]?) (coherent.map_row? here)
    simp only [List.getElem?_map, Array.getElem?_toList] at entry
    cases atIndex : chart.ids[index]? with
    | none =>
      rw [atIndex] at entry
      exact (Option.map_eq_none_iff.1 entry.symm).symm
    | some id =>
      rw [atIndex] at entry
      obtain ⟨row, listed, found⟩ := Option.map_eq_some_iff.1 entry.symm
      rw [listed]
      exact found.symm

theorem Coherent.rowsOf?_eq (coherent : charts.Coherent) (inside : position < charts.length) :
    charts.rowsOf? position = some (charts.rowsAt position) := by
  obtain ⟨chart, here⟩ := exists_chart inside
  simp only [rowsOf?, here]
  exact mapM_eq_some_iff.2 (coherent.map_row? here)

theorem Coherent.roots?_eq (coherent : charts.Coherent) (inside : position < charts.length) :
    charts.roots? position = some ((charts.rowsAt position).filter (isRootOver position)) := by
  simp [roots?, coherent.rowsOf?_eq inside]

theorem Coherent.holds?_eq (coherent : charts.Coherent) (inside : position < charts.length)
    (item : Item) :
    charts.holds? position item = some (decide (∃ row ∈ charts.rowsAt position, row.toItem = item)) := by
  obtain ⟨chart, here⟩ := exists_chart inside
  simp only [holds?, here, Option.map_some, Option.some.injEq]
  rw [Bool.eq_iff_iff, List.any_eq_true, decide_eq_true_iff, rowsAt_of_chart here]
  constructor
  · rintro ⟨id, placed, matched⟩
    obtain ⟨listed, row, found, _⟩ := (coherent.indexed here _ _).1 placed
    simp only [found, decide_eq_true_eq] at matched
    exact ⟨row, List.mem_filterMap.2 ⟨id, listed, found⟩, matched⟩
  · rintro ⟨row, member, rfl⟩
    obtain ⟨id, listed, found⟩ := List.mem_filterMap.1 member
    refine ⟨id, (coherent.indexed here _ _).2 ⟨listed, row, found, rfl⟩, ?_⟩
    simp [found]

end Reading

/-! ## What the additions do -/

/-- How charts look after a row has been added to one of them. -/
structure Grown (charts : Charts) (position : Nat) (row : Row) (grown : Charts) : Prop where
  coherent : grown.Coherent
  length_eq : grown.length = charts.length
  rows_eq : grown.rows.toList = charts.rows.toList ++ [row.numbered charts.rowCount]
  rowsAt_eq : ∀ other, grown.rowsAt other =
    if other = position then charts.rowsAt other ++ [row.numbered charts.rowCount]
    else charts.rowsAt other

/-- How charts look after a row has been offered to one of them: it was added, or its item was there
before. -/
inductive Entered (charts : Charts) (position : Nat) (row : Row) : Charts → Prop where
  | known (present : ∃ known ∈ charts.rowsAt position, known.toItem = row.toItem) :
      Entered charts position row charts
  | added {grown : Charts} (new : ∀ known ∈ charts.rowsAt position, known.toItem ≠ row.toItem)
      (growth : charts.Grown position row grown) : Entered charts position row grown

section Adding

variable {charts : Charts} {position : Nat}

theorem blank_coherent (positions : Nat) : (blank positions).Coherent := by
  constructor
  case numbered =>
    intro id row found
    simp [blank, row?] at found
  case stored =>
    intro position chart here id listed
    obtain ⟨_, rfl⟩ : position < positions ∧ Chart.empty = chart := by
      simpa [blank, Array.getElem?_replicate] using here
    simp [Chart.empty] at listed
  case indexed =>
    intro position chart here placement id
    obtain ⟨_, rfl⟩ : position < positions ∧ Chart.empty = chart := by
      simpa [blank, Array.getElem?_replicate] using here
    simp [Chart.empty, Chart.placed]

@[simp] theorem blank_length (positions : Nat) : (blank positions).length = positions := by
  simp [blank, length]

@[simp] theorem blank_rows (positions : Nat) : (blank positions).rows = #[] := rfl

@[simp] theorem blank_rowsAt (positions position : Nat) : (blank positions).rowsAt position = [] := by
  cases here : (blank positions).charts[position]? with
  | none => simp [rowsAt, here]
  | some chart =>
    rw [rowsAt_of_chart here]
    refine List.filterMap_eq_nil_iff.2 fun id listed => ?_
    exact absurd ((blank_coherent positions).stored here id listed) (by simp [rowCount])

def extended (charts : Charts) (position : Nat) (row : Row) : Charts where
  rows := charts.rows.push (row.numbered charts.rowCount)
  charts := charts.charts.modify position fun chart => chart.push row.placement charts.rowCount

theorem add?_eq (inside : position < charts.length) (row : Row) :
    charts.add? position row = some (charts.rowCount, charts.extended position row) := by
  obtain ⟨rows, perPosition⟩ := charts
  simp only [length] at inside
  simp only [add?, if_pos inside, rowCount, extended, Row.numbered]

theorem extended_row? (charts : Charts) (position : Nat) (row : Row) (id : Nat) :
    (charts.extended position row).row? id =
      if id = charts.rowCount then some (row.numbered charts.rowCount) else charts.row? id := by
  by_cases next : id = charts.rowCount
  · rw [if_pos next]
    exact Array.getElem?_push.trans (if_pos next)
  · rw [if_neg next]
    exact Array.getElem?_push.trans (if_neg next)

theorem extended_chart (charts : Charts) (position : Nat) (row : Row) (other : Nat) :
    (charts.extended position row).charts[other]? =
      if position = other then
        (charts.charts[other]?).map fun chart => chart.push row.placement charts.rowCount
      else charts.charts[other]? := by
  simp only [extended, Array.getElem?_modify]

theorem extended_numbered (coherent : charts.Coherent) (row : Row) {id : Nat} {found : Row}
    (lookup : (charts.extended position row).row? id = some found) : found.id = id := by
  rw [extended_row?] at lookup
  split at lookup
  case isTrue next =>
    rw [← Option.some.inj lookup, Row.numbered_id, next]
  case isFalse => exact coherent.numbered lookup

theorem extended_indexed (coherent : charts.Coherent) (row : Row) {other : Nat} {chart : Chart}
    (here : charts.charts[other]? = some chart) (placement : Placement) (id : Nat) :
    (id ∈ (chart.push row.placement charts.rowCount).placed placement ↔
      id ∈ (chart.push row.placement charts.rowCount).ids.toList ∧
        ∃ found, (charts.extended position row).row? id = some found ∧
          found.placement = placement) := by
  have old := coherent.indexed here placement id
  have fresh : charts.rowCount ∉ chart.ids.toList := fun listed =>
    absurd (coherent.stored here _ listed) (Nat.lt_irrefl _)
  rw [Chart.placed_push, Chart.ids_push, extended_row?]
  by_cases next : id = charts.rowCount
  · subst next
    rw [if_pos rfl]
    by_cases same : placement = row.placement
    · subst same
      simp [Item.placement]
    · rw [if_neg same]
      have elsewhere : row.placement ≠ placement := Ne.symm same
      simp only [old, fresh, false_and, false_iff]
      rintro ⟨_, found, same, placed⟩
      rw [← Option.some.inj same] at placed
      exact elsewhere placed
  · rw [if_neg next]
    by_cases same : placement = row.placement
    · rw [if_pos same]
      simp [next, old]
    · rw [if_neg same]
      simp [next, old]

theorem extended_row?_of_lt (row : Row) {id : Nat} (stored : id < charts.rowCount) :
    (charts.extended position row).row? id = charts.row? id := by
  rw [extended_row?, if_neg (Nat.ne_of_lt stored)]

theorem exists_chart_of_extended {row : Row} {other : Nat} {chart : Chart}
    (here : (charts.extended position row).charts[other]? = some chart) :
    ∃ former, charts.charts[other]? = some former ∧
      chart = if other = position then former.push row.placement charts.rowCount else former := by
  rw [extended_chart] at here
  by_cases same : other = position
  · rw [if_pos same.symm] at here
    obtain ⟨former, found, rfl⟩ := Option.map_eq_some_iff.1 here
    exact ⟨former, found, (if_pos same).symm⟩
  · rw [if_neg (Ne.symm same)] at here
    exact ⟨chart, here, (if_neg same).symm⟩

theorem Coherent.extended (coherent : charts.Coherent) (row : Row) :
    (charts.extended position row).Coherent where
  numbered := extended_numbered coherent row
  stored := by
    intro other chart here id listed
    obtain ⟨former, found, rfl⟩ := exists_chart_of_extended here
    have grown : (charts.extended position row).rowCount = charts.rowCount + 1 := by
      simp [Charts.extended, rowCount]
    rw [grown]
    split at listed
    · rw [Chart.ids_push, List.mem_append, List.mem_singleton] at listed
      rcases listed with listed | rfl
      · exact Nat.lt_succ_of_lt (coherent.stored found id listed)
      · exact Nat.lt_succ_self _
    · exact Nat.lt_succ_of_lt (coherent.stored found id listed)
  indexed := by
    intro other chart here placement id
    obtain ⟨former, found, rfl⟩ := exists_chart_of_extended here
    split
    · exact extended_indexed coherent row found placement id
    · rw [coherent.indexed found]
      refine and_congr_right fun listed => ?_
      rw [extended_row?_of_lt row (coherent.stored found id listed)]

theorem Coherent.extended_rowsAt (coherent : charts.Coherent) (inside : position < charts.length)
    (row : Row) (other : Nat) :
    (charts.extended position row).rowsAt other =
      if other = position then charts.rowsAt other ++ [row.numbered charts.rowCount]
      else charts.rowsAt other := by
  cases found : charts.charts[other]? with
  | none =>
    have absent : (charts.extended position row).charts[other]? = none := by
      simp [extended_chart, found]
    have outside : other ≠ position := by
      rintro rfl
      obtain ⟨chart, here⟩ := exists_chart inside
      simp [here] at found
    rw [if_neg outside]
    simp [rowsAt, absent, found]
  | some former =>
    have old : former.ids.toList.filterMap (charts.extended position row).row? =
        former.ids.toList.filterMap charts.row? :=
      List.filterMap_congr fun id listed =>
        extended_row?_of_lt row (coherent.stored found id listed)
    rw [rowsAt_of_chart found]
    by_cases same : other = position
    · have here : (charts.extended position row).charts[other]? =
          some (former.push row.placement charts.rowCount) := by
        rw [extended_chart, if_pos same.symm, found, Option.map_some]
      rw [if_pos same, rowsAt_of_chart here, Chart.ids_push, List.filterMap_append, old]
      simp [extended_row?]
    · have here : (charts.extended position row).charts[other]? = some former := by
        simp [extended_chart, found, Ne.symm same]
      rw [if_neg same, rowsAt_of_chart here, old]

theorem Coherent.grown_extended (coherent : charts.Coherent) (inside : position < charts.length)
    (row : Row) : charts.Grown position row (charts.extended position row) where
  coherent := coherent.extended row
  length_eq := by simp [Charts.extended, length]
  rows_eq := by simp [Charts.extended]
  rowsAt_eq := coherent.extended_rowsAt inside row

theorem Coherent.exists_entered (coherent : charts.Coherent) (inside : position < charts.length)
    (row : Row) :
    ∃ entered, charts.enter? position row = some entered ∧ charts.Entered position row entered := by
  by_cases present : ∃ known ∈ charts.rowsAt position, known.toItem = row.toItem
  · refine ⟨charts, ?_, .known present⟩
    simp [enter?, coherent.holds?_eq inside, present]
  · refine ⟨charts.extended position row, ?_, .added ?_ (coherent.grown_extended inside row)⟩
    · simp [enter?, coherent.holds?_eq inside, present, add?_eq inside]
    · exact fun known member same => present ⟨known, member, same⟩

end Adding

end Charts

end ChartParsing
