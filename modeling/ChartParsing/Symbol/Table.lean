import ChartParsing.Symbol
import Std.Data.TreeMap

/-!
Contract: the table of named symbols.

Owns the registration of names. Symbols of each kind are numbered in the order in which their names
are registered, after the reserved ones, by a counter for each kind. A name stands for one symbol only
and keeps it, so it cannot be registered as the other kind.
-/

set_option autoImplicit false

namespace ChartParsing

/-- Why a name cannot be registered. -/
inductive SymbolError where
  /-- The name already stands for a symbol of the other kind. -/
  | kindConflict (name : String) (registered : SymbolKind)
  | tooManyTerminals
  | tooManyPhrases
deriving DecidableEq, Repr

namespace SymbolKind

/-- The smallest number of a symbol of a kind. -/
def first : SymbolKind → Nat
  | .terminal => 0
  | .phrase => Symbol.phraseBase

/-- The number above all numbers that a symbol of a kind may have. -/
def limit : SymbolKind → Nat
  | .terminal => Symbol.phraseBase
  | .phrase => 4294967295

/-- The error of a table without room for one more symbol of a kind. -/
def exhausted : SymbolKind → SymbolError
  | .terminal => .tooManyTerminals
  | .phrase => .tooManyPhrases

end SymbolKind

/-- The registered names and symbols, each by the other, and the number of the next symbol of each
kind. -/
structure SymbolTable where
  byName : Std.TreeMap String Symbol
  byNumber : Std.TreeMap Nat String
  nextTerminal : Nat
  nextPhrase : Nat
  inverse : ∀ (name : String) (symbol : Symbol),
    byName[name]? = some symbol ↔ byNumber[symbol.id]? = some name
  /-- The numbers that are taken are those below the counters. -/
  numbered : ∀ number : Nat, (∃ name, byNumber[number]? = some name) ↔
    number < nextTerminal ∨ Symbol.phraseBase ≤ number ∧ number < nextPhrase
  /-- The numbers of the terminal symbols stay below those of the phrase symbols. -/
  separate : nextTerminal ≤ Symbol.phraseBase ∧ Symbol.phraseBase ≤ nextPhrase

namespace SymbolTable

def symbol? (table : SymbolTable) (name : String) : Option Symbol :=
  table.byName[name]?

def name? (table : SymbolTable) (symbol : Symbol) : Option String :=
  table.byNumber[symbol.id]?

/-- The number of the next symbol of a kind. -/
def next (table : SymbolTable) : SymbolKind → Nat
  | .terminal => table.nextTerminal
  | .phrase => table.nextPhrase

/-- The next number of a kind is not taken. -/
theorem byNumber_next_eq_none (table : SymbolTable) {kind : SymbolKind}
    (room : table.next kind < kind.limit) : table.byNumber[table.next kind]? = none := by
  obtain ⟨terminalsEnd, phrasesStart⟩ := table.separate
  cases taken : table.byNumber[table.next kind]? with
  | none => rfl
  | some name =>
    have below := (table.numbered _).1 ⟨name, taken⟩
    cases kind with
    | terminal =>
      have small : table.nextTerminal < Symbol.phraseBase := room
      have inRange : table.nextTerminal < table.nextTerminal ∨
        Symbol.phraseBase ≤ table.nextTerminal ∧ table.nextTerminal < table.nextPhrase := below
      omega
    | phrase =>
      have inRange : table.nextPhrase < table.nextTerminal ∨
        Symbol.phraseBase ≤ table.nextPhrase ∧ table.nextPhrase < table.nextPhrase := below
      omega

/-- The maps stay each the inverse of the other when a new name is put in with a new number. -/
theorem inverse_insert (table : SymbolTable) {name : String} {number : Nat}
    (absent : table.symbol? name = none) (fresh : table.byNumber[number]? = none) (other : String)
    (symbol : Symbol) :
    (table.byName.insert name ⟨number⟩)[other]? = some symbol ↔
      (table.byNumber.insert number name)[symbol.id]? = some other := by
  have unnamed : table.byName[name]? = none := absent
  simp only [Std.TreeMap.getElem?_insert, Std.compare_eq_iff_eq]
  by_cases sameName : name = other
  · subst sameName
    by_cases sameNumber : number = symbol.id
    · simp [sameNumber]
    · have notRegistered := mt (table.inverse name symbol).2 (by simp [unnamed])
      have different : (⟨number⟩ : Symbol) ≠ symbol := fun same => sameNumber (congrArg Symbol.id same)
      simp [sameNumber, notRegistered, different]
  · by_cases sameNumber : number = symbol.id
    · have notNumbered := mt (table.inverse other symbol).1 (by simp [← sameNumber, fresh])
      simp [sameName, sameNumber, notNumbered]
    · simp only [if_neg sameName, if_neg sameNumber]
      exact table.inverse other symbol

/-- A name is put into the maps, and the counter of its kind goes up. -/
def put (table : SymbolTable) (kind : SymbolKind) (name : String)
    (absent : table.symbol? name = none) (room : table.next kind < kind.limit) : SymbolTable where
  byName := table.byName.insert name ⟨table.next kind⟩
  byNumber := table.byNumber.insert (table.next kind) name
  nextTerminal :=
    match kind with
    | .terminal => table.nextTerminal + 1
    | .phrase => table.nextTerminal
  nextPhrase :=
    match kind with
    | .terminal => table.nextPhrase
    | .phrase => table.nextPhrase + 1
  inverse := table.inverse_insert absent (table.byNumber_next_eq_none room)
  numbered := by
    intro number
    obtain ⟨terminalsEnd, phrasesStart⟩ := table.separate
    have others := table.numbered number
    simp only [Std.TreeMap.getElem?_insert, Std.compare_eq_iff_eq]
    by_cases sameNumber : table.next kind = number
    · subst sameNumber
      cases kind with
      | terminal => simp [next]
      | phrase => simp [next, phrasesStart]
    · rw [if_neg sameNumber, others]
      cases kind with
      | terminal =>
        have different : table.nextTerminal ≠ number := sameNumber
        dsimp only
        omega
      | phrase =>
        have different : table.nextPhrase ≠ number := sameNumber
        dsimp only
        omega
  separate := by
    obtain ⟨terminalsEnd, phrasesStart⟩ := table.separate
    cases kind with
    | terminal => exact ⟨room, phrasesStart⟩
    | phrase => exact ⟨terminalsEnd, Nat.le_succ_of_le phrasesStart⟩

/-- The table without any names. -/
def blank : SymbolTable where
  byName := ∅
  byNumber := ∅
  nextTerminal := SymbolKind.first .terminal
  nextPhrase := SymbolKind.first .phrase
  inverse := by simp
  numbered := by
    intro number
    simp [SymbolKind.first]
  separate := ⟨Nat.zero_le _, Nat.le_refl _⟩

/-- The table of the reserved names, which are the first of their kinds. -/
def reserved : SymbolTable :=
  ((blank.put .terminal "EMPTY" (by decide) (by decide)).put .terminal "UNKNOWN"
    (by decide) (by decide)).put .phrase "ROOT" (by decide) (by decide)

/-- Registers a name as a symbol of a kind, if it is not one yet. The answer is its symbol, or why it
has none of the kind; a name that is refused is not put into the table. -/
def register (table : SymbolTable) (kind : SymbolKind) (name : String) :
    Except SymbolError Symbol × SymbolTable :=
  match absent : table.symbol? name with
  | some symbol =>
    (if symbol.kind = kind then .ok symbol else .error (.kindConflict name symbol.kind), table)
  | none =>
    if room : table.next kind < kind.limit then
      (.ok ⟨table.next kind⟩, table.put kind name absent room)
    else (.error kind.exhausted, table)

end SymbolTable

def SymbolError.message : SymbolError → String
  | .kindConflict name registered => s!"'{name}' is already a {registered.name} symbol"
  | .tooManyTerminals =>
    s!"too many terminal categories (at most {Symbol.phraseBase - SymbolTable.reserved.nextTerminal})"
  | .tooManyPhrases => "too many phrase categories"

end ChartParsing
