import ChartParsing.Symbol.Table
import Mathlib.Data.List.Dedup
import Mathlib.Data.List.Infix
import Mathlib.Data.List.Nodup
import Mathlib.Data.List.Perm.Subperm

/-!
Contract: the laws of the table of named symbols.

Owns that names and symbols are inverse to each other, that the kind of a symbol tells which list its
name is in, that a growing table keeps what it has, and what the registration of a name can come to:
the name has a symbol of the kind, or it is registered as the other kind, or there is no room left.
-/

set_option autoImplicit false

namespace ChartParsing

namespace SymbolKind

def other : SymbolKind → SymbolKind
  | .terminal => .phrase
  | .phrase => .terminal

theorem eq_other_of_ne {kind another : SymbolKind} (different : another ≠ kind) :
    another = kind.other := by
  cases kind <;> cases another <;> simp_all [other]

/-- How many symbols of a kind there can be. -/
def room (kind : SymbolKind) : Nat :=
  kind.limit - kind.first

end SymbolKind

namespace Symbol

theorem kind_eq_terminal_iff {symbol : Symbol} :
    symbol.kind = .terminal ↔ symbol.isTerminal = true := by
  unfold kind isTerminal
  cases symbol.isPhrase <;> simp

theorem kind_eq_phrase_iff {symbol : Symbol} :
    symbol.kind = .phrase ↔ symbol.isPhrase = true := by
  unfold kind
  cases symbol.isPhrase <;> simp

theorem isPhrase_iff {symbol : Symbol} : symbol.isPhrase = true ↔ phraseBase ≤ symbol.id :=
  decide_eq_true_iff

theorem kind_eq_terminal_iff_lt {symbol : Symbol} : symbol.kind = .terminal ↔ symbol.id < phraseBase := by
  rw [kind_eq_terminal_iff, isTerminal, Bool.not_eq_true', ← Bool.not_eq_true, isPhrase_iff, Nat.not_le]

theorem kind_eq_phrase_iff_le {symbol : Symbol} : symbol.kind = .phrase ↔ phraseBase ≤ symbol.id :=
  kind_eq_phrase_iff.trans isPhrase_iff

theorem first_le (symbol : Symbol) : symbol.kind.first ≤ symbol.id := by
  cases actual : symbol.kind with
  | terminal => exact Nat.zero_le _
  | phrase => exact kind_eq_phrase_iff_le.1 actual

end Symbol

namespace SymbolTable

variable {table next : SymbolTable} {name : String} {symbol : Symbol}

/-! ## Numbers -/

theorem first_le_next (table : SymbolTable) (kind : SymbolKind) : kind.first ≤ table.next kind := by
  cases kind with
  | terminal => exact Nat.zero_le _
  | phrase => exact table.separate.2

/-- The numbers of a kind, from the first one up to the next one, are numbers of symbols of the kind. -/
theorem kind_of_number {kind : SymbolKind} {number : Nat} (above : kind.first ≤ number)
    (below : number < table.next kind) : (⟨number⟩ : Symbol).kind = kind := by
  cases kind with
  | terminal => exact Symbol.kind_eq_terminal_iff_lt.2 (Nat.lt_of_lt_of_le below table.separate.1)
  | phrase => exact Symbol.kind_eq_phrase_iff_le.2 above

/-- A symbol has a name exactly if its number is below the next one of its kind. -/
theorem exists_name?_iff (table : SymbolTable) (symbol : Symbol) :
    (∃ name, table.name? symbol = some name) ↔ symbol.id < table.next symbol.kind := by
  obtain ⟨terminalsEnd, phrasesStart⟩ := table.separate
  refine (table.numbered symbol.id).trans ?_
  cases actual : symbol.kind with
  | terminal =>
    have small := Symbol.kind_eq_terminal_iff_lt.1 actual
    show _ ↔ symbol.id < table.nextTerminal
    omega
  | phrase =>
    have large := Symbol.kind_eq_phrase_iff_le.1 actual
    show _ ↔ symbol.id < table.nextPhrase
    omega

/-! ## Names -/

/-- The names of the symbols of a kind, in the order of their numbers. -/
def names (table : SymbolTable) (kind : SymbolKind) : List String :=
  (List.range (table.next kind - kind.first)).map fun index =>
    (table.name? ⟨kind.first + index⟩).getD ""

theorem reserved_terminals : reserved.names .terminal = ["EMPTY", "UNKNOWN"] := by
  decide +kernel

theorem reserved_phrases : reserved.names .phrase = ["ROOT"] := by
  decide +kernel

theorem first_add_length_names (table : SymbolTable) (kind : SymbolKind) :
    kind.first + (table.names kind).length = table.next kind := by
  rw [names, List.length_map, List.length_range, Nat.add_sub_cancel' (table.first_le_next kind)]

theorem length_names_lt_iff (table : SymbolTable) (kind : SymbolKind) :
    (table.names kind).length < kind.room ↔ table.next kind < kind.limit := by
  rw [← table.first_add_length_names kind, SymbolKind.room]
  omega

theorem getElem?_names_eq_some_iff {kind : SymbolKind} {index : Nat} :
    (table.names kind)[index]? = some name ↔
      kind.first + index < table.next kind ∧ table.name? ⟨kind.first + index⟩ = some name := by
  have length := table.first_add_length_names kind
  by_cases below : kind.first + index < table.next kind
  · have isKind := table.kind_of_number (Nat.le_add_right kind.first index) below
    obtain ⟨actual, named⟩ := (table.exists_name?_iff ⟨kind.first + index⟩).2
      (by rw [isKind]; exact below)
    have inRange : index < table.next kind - kind.first := by omega
    simp [names, inRange, named, below]
  · have outside : (table.names kind).length ≤ index := by omega
    simp [List.getElem?_eq_none outside, below]

/-- The symbols of a kind are numbered in the order of their names. -/
theorem name?_eq_some_iff :
    table.name? symbol = some name ↔
      ∃ kind index, symbol.id = SymbolKind.first kind + index ∧
        (table.names kind)[index]? = some name := by
  constructor
  · intro named
    have number := (Nat.add_sub_cancel' symbol.first_le).symm
    have below := (table.exists_name?_iff symbol).1 ⟨name, named⟩
    refine ⟨symbol.kind, symbol.id - symbol.kind.first, number, getElem?_names_eq_some_iff.2 ?_⟩
    rw [← number]
    exact ⟨below, named⟩
  · rintro ⟨kind, index, number, listed⟩
    obtain ⟨id⟩ := symbol
    obtain rfl : id = kind.first + index := number
    exact (getElem?_names_eq_some_iff.1 listed).2

/-- A name stands for a symbol exactly if it is the name of the symbol. -/
theorem symbol?_eq_some_iff : table.symbol? name = some symbol ↔ table.name? symbol = some name :=
  table.inverse name symbol

/-- Different names stand for different symbols. -/
theorem eq_of_symbol?_eq {other : String} (first : table.symbol? name = some symbol)
    (second : table.symbol? other = some symbol) : name = other :=
  Option.some.inj ((symbol?_eq_some_iff.1 first).symm.trans (symbol?_eq_some_iff.1 second))

theorem symbol?_of_getElem?_names {kind : SymbolKind} {index : Nat}
    (listed : (table.names kind)[index]? = some name) :
    table.symbol? name = some ⟨kind.first + index⟩ :=
  symbol?_eq_some_iff.2 (getElem?_names_eq_some_iff.1 listed).2

theorem mem_names_of_symbol? (found : table.symbol? name = some symbol) :
    name ∈ table.names symbol.kind := by
  have named := symbol?_eq_some_iff.1 found
  have number := (Nat.add_sub_cancel' symbol.first_le).symm
  refine List.mem_of_getElem? (i := symbol.id - symbol.kind.first) (getElem?_names_eq_some_iff.2 ?_)
  rw [← number]
  exact ⟨(table.exists_name?_iff symbol).1 ⟨name, named⟩, named⟩

/-- A name of a kind stands for a symbol of the kind. -/
theorem exists_symbol?_of_kind {kind : SymbolKind} (member : name ∈ table.names kind) :
    ∃ symbol, table.symbol? name = some symbol ∧ symbol.kind = kind := by
  obtain ⟨index, listed⟩ := List.mem_iff_getElem?.1 member
  have below := (getElem?_names_eq_some_iff.1 listed).1
  exact ⟨_, symbol?_of_getElem?_names listed,
    table.kind_of_number (Nat.le_add_right _ _) below⟩

theorem exists_symbol? {kind : SymbolKind} (member : name ∈ table.names kind) :
    ∃ symbol, table.symbol? name = some symbol :=
  (exists_symbol?_of_kind member).imp fun _ => And.left

theorem not_mem_names (absent : table.symbol? name = none) (kind : SymbolKind) :
    name ∉ table.names kind := by
  intro member
  obtain ⟨symbol, found⟩ := exists_symbol? member
  rw [absent] at found
  exact nomatch found

/-- A symbol is of a kind exactly if its name is among the names of that kind. -/
theorem kind_eq_iff (found : table.symbol? name = some symbol) (kind : SymbolKind) :
    symbol.kind = kind ↔ name ∈ table.names kind := by
  constructor
  · rintro rfl
    exact mem_names_of_symbol? found
  · intro member
    obtain ⟨same, foundSame, isKind⟩ := exists_symbol?_of_kind member
    obtain rfl := Option.some.inj (found.symm.trans foundSame)
    exact isKind

theorem nodup_names (table : SymbolTable) (kind : SymbolKind) : (table.names kind).Nodup := by
  refine List.nodup_iff_getElem?_ne_getElem?.2 fun earlier later before inside same => ?_
  have listed := List.getElem?_eq_getElem inside
  have foundLater := symbol?_of_getElem?_names listed
  have foundEarlier := symbol?_of_getElem?_names (same.trans listed)
  have numbers := congrArg Symbol.id (Option.some.inj (foundEarlier.symm.trans foundLater))
  have equal : kind.first + earlier = kind.first + later := numbers
  omega

theorem not_mem_other {kind : SymbolKind} (member : name ∈ table.names kind) :
    name ∉ table.names kind.other := by
  intro alsoMember
  obtain ⟨symbol, found, isKind⟩ := exists_symbol?_of_kind member
  have isOther := (kind_eq_iff found kind.other).2 alsoMember
  rw [isKind] at isOther
  cases kind <;> exact nomatch isOther

/-! ## Growing tables -/

/-- A later table has all names of an earlier one, in their places. -/
def Extends (table next : SymbolTable) : Prop :=
  ∀ kind, table.names kind <+: next.names kind

theorem Extends.refl (table : SymbolTable) : table.Extends table :=
  fun _ => List.prefix_refl _

theorem Extends.trans {last : SymbolTable} (first : table.Extends next) (second : next.Extends last) :
    table.Extends last :=
  fun kind => (first kind).trans (second kind)

/-- A name keeps its symbol. -/
theorem Extends.symbol? (grows : table.Extends next) (found : table.symbol? name = some symbol) :
    next.symbol? name = some symbol := by
  rw [symbol?_eq_some_iff, name?_eq_some_iff] at found ⊢
  obtain ⟨kind, index, number, listed⟩ := found
  obtain ⟨inside, rfl⟩ := List.getElem?_eq_some_iff.1 listed
  exact ⟨kind, index, number, List.prefix_iff_getElem?.1 (grows kind) index inside⟩

/-! ## Registration -/

/-- What a table is like after a name has been registered as a symbol of a kind. -/
structure Registers (table : SymbolTable) (kind : SymbolKind) (name : String) (symbol : Symbol)
    (next : SymbolTable) : Prop where
  found : next.symbol? name = some symbol
  extends_ : table.Extends next
  mem_iff : ∀ other, other ∈ next.names kind ↔ other ∈ table.names kind ∨ other = name
  others : next.names kind.other = table.names kind.other
  notOther : name ∉ table.names kind.other

theorem registers_of_found {kind : SymbolKind} (found : table.symbol? name = some symbol)
    (isKind : symbol.kind = kind) : table.Registers kind name symbol table := by
  have member := (kind_eq_iff found kind).1 isKind
  refine ⟨found, .refl table, fun other => ?_, rfl, not_mem_other member⟩
  constructor
  · exact .inl
  · rintro (known | rfl)
    · exact known
    · exact member

theorem registers_of_names {kind : SymbolKind} (absent : table.symbol? name = none)
    (added : next.names kind = table.names kind ++ [name])
    (others : next.names kind.other = table.names kind.other)
    (named : next.name? symbol = some name) : table.Registers kind name symbol next := by
  refine ⟨symbol?_eq_some_iff.2 named, ?_, fun other => ?_, others, not_mem_names absent _⟩
  · have grown : table.names kind <+: next.names kind := ⟨[name], added.symm⟩
    have kept : table.names kind.other <+: next.names kind.other := by
      rw [others]
    intro either
    cases kind with
    | terminal =>
      cases either with
      | terminal => exact grown
      | phrase => exact kept
    | phrase =>
      cases either with
      | terminal => exact kept
      | phrase => exact grown
  · rw [added, List.mem_append, List.mem_singleton]

section Register

variable {kind : SymbolKind}

section Put

variable (absent : table.symbol? name = none) (room : table.next kind < kind.limit)

theorem next_put : (table.put kind name absent room).next kind = table.next kind + 1 := by
  cases kind <;> rfl

theorem next_put_other :
    (table.put kind name absent room).next kind.other = table.next kind.other := by
  cases kind <;> rfl

theorem name?_put (symbol : Symbol) :
    (table.put kind name absent room).name? symbol =
      if table.next kind = symbol.id then some name else table.name? symbol := by
  show (table.byNumber.insert (table.next kind) name)[symbol.id]? = _
  rw [Std.TreeMap.getElem?_insert]
  simp only [Std.compare_eq_iff_eq]
  rfl

theorem names_put : (table.put kind name absent room).names kind = table.names kind ++ [name] := by
  have start := table.first_le_next kind
  rw [names, names, next_put, Nat.succ_sub start, List.range_succ, List.map_append]
  congr 1
  · refine List.map_congr_left fun index inRange => ?_
    have below := List.mem_range.1 inRange
    have earlier : table.next kind ≠ kind.first + index := by omega
    rw [name?_put, if_neg earlier]
  · rw [List.map_singleton, Nat.add_sub_cancel' start, name?_put, if_pos rfl, Option.getD_some]

theorem names_put_other :
    (table.put kind name absent room).names kind.other = table.names kind.other := by
  rw [names, names, next_put_other]
  refine List.map_congr_left fun index inRange => ?_
  have below : kind.other.first + index < table.next kind.other :=
    Nat.add_lt_of_lt_sub' (List.mem_range.1 inRange)
  have isOther := table.kind_of_number (Nat.le_add_right _ index) below
  obtain ⟨other, named⟩ := (table.exists_name?_iff ⟨kind.other.first + index⟩).2
    (by rw [isOther]; exact below)
  have different : table.next kind ≠ kind.other.first + index := by
    intro same
    rw [name?, ← same, table.byNumber_next_eq_none room] at named
    exact nomatch named
  rw [name?_put, if_neg different]

end Put

/-- A registered name has its symbol, and cannot become a name of the other kind. -/
theorem register_of_symbol? (found : table.symbol? name = some symbol) (kind : SymbolKind) :
    table.register kind name =
      (if symbol.kind = kind then .ok symbol else .error (.kindConflict name symbol.kind), table) := by
  unfold register
  split
  case h_1 again foundAgain =>
    obtain rfl : symbol = again := Option.some.inj (found.symm.trans foundAgain)
    rfl
  case h_2 absent => exact nomatch found.symm.trans absent

/-- A new name takes the next number of its kind, and the names of the other kind stay. -/
theorem register_of_room (absent : table.symbol? name = none)
    (room : (table.names kind).length < kind.room) :
    ∃ next, table.register kind name = (.ok ⟨kind.first + (table.names kind).length⟩, next) ∧
      next.names kind = table.names kind ++ [name] ∧
      next.names kind.other = table.names kind.other := by
  have below := (table.length_names_lt_iff kind).1 room
  refine ⟨table.put kind name absent below, ?_, names_put absent below, names_put_other absent below⟩
  rw [table.first_add_length_names]
  unfold register
  split
  case h_1 known found => exact nomatch found.symm.trans absent
  case h_2 => exact dif_pos below

theorem register_of_full (absent : table.symbol? name = none)
    (full : kind.room ≤ (table.names kind).length) :
    table.register kind name = (.error kind.exhausted, table) := by
  have above := mt (table.length_names_lt_iff kind).2 (Nat.not_lt.2 full)
  unfold register
  split
  case h_1 known found => exact nomatch found.symm.trans absent
  case h_2 => exact dif_neg above

/-- A registration succeeds, or leaves the table as it is, because the name is registered as the other
kind or because there is no room for a new name. -/
theorem register_cases (table : SymbolTable) (kind : SymbolKind) (name : String) :
    (∃ symbol next, table.register kind name = (.ok symbol, next) ∧
      table.Registers kind name symbol next) ∨
    (table.register kind name = (.error (.kindConflict name kind.other), table) ∧
      name ∈ table.names kind.other) ∨
    (table.register kind name = (.error kind.exhausted, table) ∧ table.symbol? name = none ∧
      kind.room ≤ (table.names kind).length) := by
  cases found : table.symbol? name with
  | some symbol =>
    have registered := register_of_symbol? found kind
    by_cases isKind : symbol.kind = kind
    · rw [if_pos isKind] at registered
      exact .inl ⟨symbol, table, registered, registers_of_found found isKind⟩
    · obtain isOther := SymbolKind.eq_other_of_ne isKind
      rw [if_neg isKind, isOther] at registered
      exact .inr (.inl ⟨registered, (kind_eq_iff found _).1 isOther⟩)
  | none =>
    by_cases room : (table.names kind).length < kind.room
    · obtain ⟨next, registered, added, others⟩ := register_of_room found room
      refine .inl ⟨_, next, registered, registers_of_names found added others ?_⟩
      rw [name?_eq_some_iff]
      refine ⟨kind, _, rfl, ?_⟩
      rw [added]
      exact List.getElem?_concat_length
    · have full := Nat.not_lt.1 room
      exact .inr (.inr ⟨register_of_full found full, rfl, full⟩)

/-- The registration of a registered name changes nothing. -/
theorem register_of_mem (member : name ∈ table.names kind) :
    ∃ symbol, table.register kind name = (.ok symbol, table) ∧ table.symbol? name = some symbol := by
  obtain ⟨symbol, found⟩ := exists_symbol? member
  refine ⟨symbol, ?_, found⟩
  rw [register_of_symbol? found, if_pos ((kind_eq_iff found kind).2 member)]

end Register

/-- A table without room for a name has used up the room of its kind on other names. -/
theorem room_lt_of_exhausted {kind : SymbolKind} {pool : List String}
    (absent : table.symbol? name = none) (full : kind.room ≤ (table.names kind).length)
    (known : ∀ other ∈ table.names kind, other ∈ pool) (member : name ∈ pool) :
    kind.room < pool.dedup.length := by
  have distinct : (name :: table.names kind).Nodup :=
    List.nodup_cons.2 ⟨not_mem_names absent kind, table.nodup_names kind⟩
  have included : name :: table.names kind ⊆ pool.dedup := by
    intro other listed
    rw [List.mem_dedup]
    rcases List.mem_cons.1 listed with rfl | old
    · exact member
    · exact known other old
  have longer := (distinct.subperm included).length_le
  rw [List.length_cons] at longer
  omega

end SymbolTable

end ChartParsing
