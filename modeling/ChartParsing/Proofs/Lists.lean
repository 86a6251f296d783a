import Mathlib.Data.List.Forall2
import Mathlib.Data.List.Pairwise
import Mathlib.Data.List.Sort

/-!
Contract: lists, as the charts and the loading of grammars use them.

Owns the few facts about lists that the library has not: what a lookup of all keys answers, where a list
without repetitions is the same, what is related in related lists, what is between two positions of a
list, the stability of sorting under a filter that keeps what is on one level, and that sorting comes to
insertion.
-/

set_option autoImplicit false

namespace ChartParsing

theorem mapM_eq_some_iff {Key Value : Type} {find : Key → Option Value} {keys : List Key}
    {values : List Value} :
    keys.mapM find = some values ↔ keys.map find = values.map some := by
  induction keys generalizing values with
  | nil => cases values <;> simp
  | cons key others inductionHypothesis =>
    cases found : find key with
    | none => cases values <;> simp [List.mapM_cons, found]
    | some value =>
      cases values with
      | nil => cases result : others.mapM find <;> simp [List.mapM_cons, found, result]
      | cons first rest =>
        simp only [List.mapM_cons, found, Option.bind_eq_bind, Option.bind_some, List.map_cons,
          List.cons.injEq, Option.some.injEq, ← inductionHypothesis]
        cases others.mapM find <;> simp

theorem exists_map_getElem? {α : Type} {entries : Array α} {ids : List Nat}
    (below : ∀ id ∈ ids, id < entries.size) :
    ∃ found : List α, ids.map (fun id => entries[id]?) = found.map some := by
  induction ids with
  | nil => exact ⟨[], rfl⟩
  | cons id others inductionHypothesis =>
    obtain ⟨found, same⟩ :=
      inductionHypothesis fun other member => below other (List.mem_cons_of_mem _ member)
    have inside := below id List.mem_cons_self
    refine ⟨entries[id] :: found, ?_⟩
    rw [List.map_cons, List.map_cons, same, Array.getElem?_eq_getElem inside]

theorem getElem?_eq_getElem?_iff_of_nodup {α : Type} {list : List α} (distinct : list.Nodup)
    {first second : Nat} : list[first]? = list[second]? ↔
      first = second ∨ list.length ≤ first ∧ list.length ≤ second := by
  rcases Nat.lt_or_ge first list.length with inside | beyond
  · rw [List.getElem?_inj inside distinct]
    omega
  · rw [List.getElem?_eq_none beyond, eq_comm, List.getElem?_eq_none_iff]
    omega

/-! ## Related lists -/

theorem exists_related {Left Right : Type} {related : Left → Right → Prop} {lefts : List Left}
    {rights : List Right} (pairwise : List.Forall₂ related lefts rights) {left : Left}
    (member : left ∈ lefts) : ∃ right ∈ rights, related left right := by
  induction pairwise with
  | nil => exact absurd member List.not_mem_nil
  | cons first others inductionHypothesis =>
    rcases List.mem_cons.1 member with rfl | later
    · exact ⟨_, List.mem_cons_self, first⟩
    · obtain ⟨right, listed, isRelated⟩ := inductionHypothesis later
      exact ⟨right, List.mem_cons_of_mem _ listed, isRelated⟩

theorem related_imp_of_mem {Left Right : Type} {related weaker : Left → Right → Prop}
    {lefts : List Left} {rights : List Right} (pairwise : List.Forall₂ related lefts rights)
    (implies : ∀ left ∈ lefts, ∀ right ∈ rights, related left right → weaker left right) :
    List.Forall₂ weaker lefts rights := by
  obtain ⟨lengths, each⟩ := List.forall₂_iff_zip.1 pairwise
  refine List.forall₂_iff_zip.2 ⟨lengths, fun isPair => ?_⟩
  obtain ⟨isLeft, isRight⟩ := List.of_mem_zip isPair
  exact implies _ isLeft _ isRight (each isPair)

/-- What is related to the members of one list is related to each other, if that follows. -/
theorem related_join {Left Right Common : Type} {first : Left → Common → Prop}
    {second : Right → Common → Prop} {related : Left → Right → Prop} {lefts : List Left}
    {rights : List Right} {commons : List Common} (ones : List.Forall₂ first lefts commons)
    (others : List.Forall₂ second rights commons)
    (join : ∀ left right common, first left common → second right common → related left right) :
    List.Forall₂ related lefts rights := by
  induction ones generalizing rights with
  | nil =>
    cases others
    exact .nil
  | cons one _ inductionHypothesis =>
    cases others with
    | cons other more => exact .cons (join _ _ _ one other) (inductionHypothesis more)

theorem related_getElem? {Left Right : Type} {related : Left → Right → Prop} {lefts : List Left}
    {rights : List Right} (pairwise : List.Forall₂ related lefts rights) (index : Nat) :
    Option.Rel related lefts[index]? rights[index]? := by
  induction pairwise generalizing index with
  | nil => exact .none
  | cons first others inductionHypothesis =>
    cases index with
    | zero => exact .some first
    | succ index => exact inductionHypothesis index

section Options

variable {Left Right Image Image' : Type} {related : Left → Right → Prop}
  {images : Image → Image' → Prop} {left? : Option Left} {right? : Option Right}

theorem related_bind? {first : Left → Option Image} {second : Right → Option Image'}
    (pair : Option.Rel related left? right?)
    (each : ∀ left right, related left right → Option.Rel images (first left) (second right)) :
    Option.Rel images (left?.bind first) (right?.bind second) := by
  cases pair with
  | none => exact .none
  | some isRelated => exact each _ _ isRelated

theorem related_map? {first : Left → Image} {second : Right → Image'}
    (pair : Option.Rel related left? right?)
    (each : ∀ left right, related left right → images (first left) (second right)) :
    Option.Rel images (left?.map first) (right?.map second) := by
  cases pair with
  | none => exact .none
  | some isRelated => exact .some (each _ _ isRelated)

theorem related_mapM {lefts : List Left} {rights : List Right} {find : Left → Option Image}
    {find' : Right → Option Image'} (pairwise : List.Forall₂ related lefts rights)
    (each : ∀ left right, related left right → Option.Rel images (find left) (find' right)) :
    Option.Rel (List.Forall₂ images) (lefts.mapM find) (rights.mapM find') := by
  induction pairwise with
  | nil => exact .some .nil
  | cons first others inductionHypothesis =>
    rw [List.mapM_cons, List.mapM_cons]
    refine related_bind? (each _ _ first) fun image image' here => ?_
    exact related_bind? inductionHypothesis fun _ _ further => .some (.cons here further)

end Options

/-! ## Parts of lists -/

theorem extract_append {α : Type} (list : List α) {start middle stop : Nat} (before : start ≤ middle)
    (after : middle ≤ stop) :
    list.extract start middle ++ list.extract middle stop = list.extract start stop := by
  have length : stop - start = (middle - start) + (stop - middle) := by omega
  have next : start + (middle - start) = middle := by omega
  rw [List.extract_eq_take_drop, List.extract_eq_take_drop, List.extract_eq_take_drop, length,
    List.take_add, List.drop_drop, next]

theorem extract_singleton {α : Type} {list : List α} {position : Nat} {value : α}
    (found : list[position]? = some value) : list.extract position (position + 1) = [value] := by
  rw [List.extract_eq_take_drop, Nat.add_sub_cancel_left, List.take_one, List.head?_drop, found]
  rfl

theorem extract_self {α : Type} (list : List α) (position : Nat) :
    list.extract position position = [] := by
  rw [List.extract_eq_take_drop, Nat.sub_self, List.take_zero]

theorem extract_zero {α : Type} (list : List α) (position : Nat) :
    list.extract 0 position = list.take position := by
  rw [List.extract_eq_take_drop, List.drop_zero, Nat.sub_zero]

theorem take_append_extract {α : Type} (list : List α) {start stop : Nat} (before : start ≤ stop) :
    list.take start ++ list.extract start stop = list.take stop := by
  rw [← extract_zero, ← extract_zero]
  exact extract_append list (Nat.zero_le start) before

/-! ## Sorting -/

theorem filter_mergeSort {α : Type} {before : α → α → Bool}
    (trans : ∀ first second third, before first second = true → before second third = true →
      before first third = true)
    (total : ∀ first second, (before first second || before second first) = true)
    (list : List α) {keep : α → Bool}
    (level : ∀ first ∈ list.filter keep, ∀ second ∈ list.filter keep, before first second = true) :
    (list.mergeSort before).filter keep = list.filter keep := by
  have sublist : (list.filter keep).Sublist (list.mergeSort before) :=
    List.sublist_mergeSort trans total (List.pairwise_of_forall_mem_list level)
      List.filter_sublist
  have kept := sublist.filter keep
  rw [List.filter_filter] at kept
  simp only [Bool.and_self] at kept
  refine (kept.eq_of_length ?_).symm
  exact (((List.mergeSort_perm list before).filter keep).length_eq).symm

theorem orderedInsert_append {α : Type} {before : α → α → Bool} {value : α} {smaller greater : List α}
    (behind : ∀ other ∈ smaller, before value other = false)
    (ahead : ∀ other ∈ greater, before value other = true) :
    (smaller ++ greater).orderedInsert (fun left right => before left right = true) value =
      smaller ++ value :: greater := by
  induction smaller with
  | nil =>
    cases greater with
    | nil => rfl
    | cons next rest => exact if_pos (ahead next List.mem_cons_self)
  | cons next rest inductionHypothesis =>
    obtain ⟨behindNext, behindRest⟩ := List.forall_mem_cons.1 behind
    rw [List.cons_append, List.orderedInsert, if_neg (Bool.eq_false_iff.1 behindNext),
      inductionHypothesis behindRest, List.cons_append]

/-- Sorting comes to insertion, also among what is on one level. The insertion recurses on the list, so
that it evaluates in proofs. -/
theorem mergeSort_eq_insertionSort {α : Type} {before : α → α → Bool}
    (trans : ∀ first second third, before first second = true → before second third = true →
      before first third = true)
    (total : ∀ first second, (before first second || before second first) = true)
    (list : List α) :
    list.mergeSort before = list.insertionSort fun left right => before left right = true := by
  induction list with
  | nil => simp
  | cons first others inductionHypothesis =>
    obtain ⟨smaller, greater, sorted, left, behind⟩ := List.mergeSort_cons trans total first others
    have ordered := List.pairwise_mergeSort trans total (first :: others)
    rw [sorted, List.pairwise_append, List.pairwise_cons] at ordered
    rw [sorted, List.insertionSort_cons, ← inductionHypothesis, left,
      orderedInsert_append (fun other member => by simpa using behind other member) ordered.2.1.1]

/-- Related lists are sorted side by side by orders that agree on what is related. -/
theorem related_mergeSort {Left Right : Type} {related : Left → Right → Prop}
    {before : Left → Left → Bool} {before' : Right → Right → Bool} {lefts : List Left}
    {rights : List Right} (pairwise : List.Forall₂ related lefts rights)
    (agree : ∀ first first' second second', related first first' → related second second' →
      before first second = before' first' second') :
    List.Forall₂ related (lefts.mergeSort before) (rights.mergeSort before') := by
  obtain ⟨lengths, each⟩ := List.forall₂_iff_zip.1 pairwise
  -- The pairs are sorted as a whole, and either side of the sorted pairs is a sorted list.
  have left : ((lefts.zip rights).mergeSort fun first second => before first.1 second.1).map
      Prod.fst = ((lefts.zip rights).map Prod.fst).mergeSort before :=
    List.map_mergeSort fun _ _ _ _ => rfl
  have right : ((lefts.zip rights).mergeSort fun first second => before first.1 second.1).map
      Prod.snd = ((lefts.zip rights).map Prod.snd).mergeSort before' :=
    List.map_mergeSort fun _ isFirst _ isSecond => agree _ _ _ _ (each isFirst) (each isSecond)
  rw [List.map_fst_zip (Nat.le_of_eq lengths)] at left
  rw [List.map_snd_zip (Nat.le_of_eq lengths.symm)] at right
  rw [← left, ← right, List.forall₂_map_left_iff, List.forall₂_map_right_iff, List.forall₂_same]
  exact fun pair member => each (List.mem_mergeSort.1 member)

end ChartParsing
