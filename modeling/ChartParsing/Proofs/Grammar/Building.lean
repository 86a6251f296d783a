import ChartParsing.Grammar.Basic
import ChartParsing.Proofs.Symbol.Table
import Mathlib.Data.List.Induction

/-!
Contract: the symbols of a grammar that is built by calls.

Owns the calls that a grammar under construction answers, and its symbols after any of them. A name is
granted to the kind that it is first registered as, and gets the next number of that kind. So the names
of a kind are numbered without gaps in the order of their first registrations, whatever words and
productions are added between them, and names and symbols stay inverse to each other. A refused call
changes nothing.
-/

set_option autoImplicit false

namespace ChartParsing

/-- A name that stands for a symbol of a kind. -/
structure Registration where
  kind : SymbolKind
  name : String
deriving DecidableEq, Repr

namespace Registration

/-- The names that are registered as symbols of a kind, in order. -/
def names (granted : List Registration) (kind : SymbolKind) : List String :=
  (granted.filter fun registration => registration.kind = kind).map Registration.name

/-- The number of the next symbol of a kind. -/
def nextNumber (granted : List Registration) (kind : SymbolKind) : Nat :=
  kind.first + (names granted kind).length

def reserved : List Registration :=
  [⟨.terminal, "EMPTY"⟩, ⟨.terminal, "UNKNOWN"⟩, ⟨.phrase, "ROOT"⟩]

theorem names_concat (granted : List Registration) (last : Registration) (kind : SymbolKind) :
    names (granted ++ [last]) kind =
      names granted kind ++ if last.kind = kind then [last.name] else [] := by
  unfold names
  rw [List.filter_append, List.map_append, List.filter_singleton]
  by_cases isKind : last.kind = kind
  · simp [isKind]
  · simp [isKind]

theorem mem_names_iff {granted : List Registration} {kind : SymbolKind} {name : String} :
    name ∈ names granted kind ↔ ⟨kind, name⟩ ∈ granted := by
  constructor
  · intro member
    obtain ⟨registration, listed, rfl⟩ := List.mem_map.1 member
    obtain ⟨isGranted, isKind⟩ := List.mem_filter.1 listed
    obtain rfl := of_decide_eq_true isKind
    exact isGranted
  · intro isGranted
    exact List.mem_map.2 ⟨_, List.mem_filter.2 ⟨isGranted, decide_eq_true rfl⟩, rfl⟩

end Registration

namespace Grammar

open Registration

/-! ## Calls -/

/-- What a grammar under construction is called for. -/
inductive Call where
  | register (kind : SymbolKind) (name : String)
  | lookup (name : String)
  | classify (word : String) (category : Symbol)
  | addProduction (production : Production)

inductive Answer where
  /-- The symbol that a name has been registered as, now or before. -/
  | symbol (symbol : Symbol)
  /-- The name cannot be registered. -/
  | refused (cause : SymbolError)
  /-- The symbol that was looked up, if there is one. -/
  | found (symbol? : Option Symbol)
  /-- The category that a word was in before, if any. -/
  | left (category? : Option Symbol)
  | added
deriving DecidableEq, Repr

/-- The answer to a call, and the grammar after it. -/
def respond (grammar : Grammar) : Call → Answer × Grammar
  | .register kind name =>
    match grammar.register kind name with
    | (.ok symbol, next) => (.symbol symbol, next)
    | (.error cause, next) => (.refused cause, next)
  | .lookup name => (.found (grammar.symbols.symbol? name), grammar)
  | .classify word category =>
    let (category?, next) := grammar.classify word category
    (.left category?, next)
  | .addProduction production => (.added, grammar.addProduction production)

/-- The grammar after calls, one after the other. -/
def after (grammar : Grammar) (calls : List Call) : Grammar :=
  calls.foldl (fun current call => (current.respond call).2) grammar

/-- The registrations that are granted when one more call is answered. A name that is granted already is
not granted again, nor is any name of a kind whose numbers are used up. -/
def grant (granted : List Registration) : Call → List Registration
  | .register kind name =>
    if (∃ earlier ∈ granted, earlier.name = name) ∨ kind.room ≤ (names granted kind).length then granted
    else granted ++ [⟨kind, name⟩]
  | _ => granted

/-- The registrations that calls are granted, after the reserved ones. -/
def grantedTo (calls : List Call) : List Registration :=
  calls.foldl grant reserved

/-! ## One call -/

section Respond

variable {grammar : Grammar} {kind : SymbolKind} {name : String} {symbol : Symbol}

theorem respond_known (found : grammar.symbols.symbol? name = some symbol) (kind : SymbolKind) :
    grammar.respond (.register kind name) =
      (if symbol.kind = kind then .symbol symbol else .refused (.kindConflict name symbol.kind),
        grammar) := by
  rw [respond, register, SymbolTable.register_of_symbol? found]
  by_cases isKind : symbol.kind = kind
  · rw [if_pos isKind, if_pos isKind]
  · rw [if_neg isKind, if_neg isKind]

theorem respond_new (absent : grammar.symbols.symbol? name = none)
    (room : (grammar.symbols.names kind).length < kind.room) :
    ∃ symbols, grammar.respond (.register kind name) =
        (.symbol ⟨kind.first + (grammar.symbols.names kind).length⟩, { grammar with symbols }) ∧
      symbols.names kind = grammar.symbols.names kind ++ [name] ∧
      symbols.names kind.other = grammar.symbols.names kind.other := by
  obtain ⟨symbols, registered, added, others⟩ := SymbolTable.register_of_room absent room
  refine ⟨symbols, ?_, added, others⟩
  rw [respond, register, registered]

theorem respond_full (absent : grammar.symbols.symbol? name = none)
    (full : kind.room ≤ (grammar.symbols.names kind).length) :
    grammar.respond (.register kind name) = (.refused kind.exhausted, grammar) := by
  rw [respond, register, SymbolTable.register_of_full absent full]

/-- A call that is refused leaves the grammar as it is. -/
theorem respond_refused {call : Call} {cause : SymbolError}
    (refused : (grammar.respond call).1 = .refused cause) : (grammar.respond call).2 = grammar := by
  cases call with
  | register kind name =>
    rw [respond, register] at refused ⊢
    rcases grammar.symbols.register_cases kind name with
      ⟨symbol, next, registered, _⟩ | ⟨conflict, _⟩ | ⟨exhausted, _⟩
    · rw [registered] at refused
      exact nomatch refused
    · rw [conflict]
    · rw [exhausted]
  | lookup name => rfl
  | classify word category => exact nomatch refused
  | addProduction production => exact nomatch refused

/-- No call takes a name or its number away. -/
theorem respond_extends (grammar : Grammar) (call : Call) :
    grammar.symbols.Extends (grammar.respond call).2.symbols := by
  cases call with
  | register kind name =>
    rw [respond, register]
    rcases grammar.symbols.register_cases kind name with
      ⟨symbol, next, registered, registers⟩ | ⟨conflict, _⟩ | ⟨exhausted, _⟩
    · rw [registered]
      exact registers.extends_
    · rw [conflict]
      exact .refl _
    · rw [exhausted]
      exact .refl _
  | lookup name => exact .refl _
  | classify word category => exact .refl _
  | addProduction production => exact .refl _

theorem after_extends (grammar : Grammar) (calls : List Call) :
    grammar.symbols.Extends (grammar.after calls).symbols := by
  induction calls generalizing grammar with
  | nil => exact .refl _
  | cons call others inductionHypothesis =>
    exact (grammar.respond_extends call).trans (inductionHypothesis (grammar.respond call).2)

end Respond

/-! ## Registries -/

/-- The names of a grammar are those of granted registrations, in order. -/
def Holds (granted : List Registration) (grammar : Grammar) : Prop :=
  ∀ kind, grammar.symbols.names kind = names granted kind

theorem holds_reserved : Holds reserved .empty := by
  intro kind
  cases kind with
  | terminal => exact SymbolTable.reserved_terminals
  | phrase => exact SymbolTable.reserved_phrases

section Holds

variable {granted : List Registration} {grammar : Grammar} (holds : Holds granted grammar)

include holds

theorem Holds.exists_granted_iff (name : String) :
    (∃ earlier ∈ granted, earlier.name = name) ↔
      ∃ symbol, grammar.symbols.symbol? name = some symbol := by
  constructor
  · rintro ⟨⟨kind, name⟩, isGranted, rfl⟩
    have member : name ∈ grammar.symbols.names kind := by
      rw [holds kind]
      exact mem_names_iff.2 isGranted
    exact SymbolTable.exists_symbol? member
  · rintro ⟨symbol, found⟩
    have member := SymbolTable.mem_names_of_symbol? found
    rw [holds symbol.kind] at member
    exact ⟨_, mem_names_iff.1 member, rfl⟩

/-- A call grants a registration exactly where the grammar gets a name. -/
theorem Holds.respond (call : Call) : Holds (grant granted call) (grammar.respond call).2 := by
  cases call with
  | register kind name =>
    rw [grant]
    cases found : grammar.symbols.symbol? name with
    | some symbol =>
      rw [if_pos (.inl ((holds.exists_granted_iff name).2 ⟨symbol, found⟩)),
        respond_known found]
      exact holds
    | none =>
      have notGranted : ¬ ∃ earlier ∈ granted, earlier.name = name := by
        rw [holds.exists_granted_iff, found]
        simp
      by_cases room : (names granted kind).length < kind.room
      · have stillRoom := room
        rw [← holds kind] at stillRoom
        obtain ⟨symbols, responded, added, others⟩ := respond_new found stillRoom
        rw [if_neg (not_or.2 ⟨notGranted, Nat.not_le.2 room⟩), responded]
        intro either
        rw [names_concat]
        by_cases isKind : kind = either
        · subst isKind
          rw [if_pos rfl, ← holds kind]
          exact added
        · obtain rfl := SymbolKind.eq_other_of_ne (Ne.symm isKind)
          rw [if_neg isKind, List.append_nil, ← holds kind.other]
          exact others
      · have full := Nat.not_lt.1 room
        rw [if_pos (.inr full)]
        rw [← holds kind] at full
        rw [respond_full found full]
        exact holds
  | lookup name => exact holds
  | classify word category => exact holds
  | addProduction production => exact holds

end Holds

theorem holds_after (calls : List Call) : Holds (grantedTo calls) (empty.after calls) := by
  induction calls using List.reverseRecOn with
  | nil => exact holds_reserved
  | append_singleton calls call inductionHypothesis =>
    rw [grantedTo, after, List.foldl_concat, List.foldl_concat]
    exact inductionHypothesis.respond call

/-- The symbols of a grammar, given the registrations that were granted, and what it answers to a
further registration. -/
structure Registry (granted : List Registration) (grammar : Grammar) : Prop where
  /-- The counter of a kind stands behind the names of the kind. -/
  next : ∀ kind, grammar.symbols.next kind = nextNumber granted kind
  inverse : ∀ name symbol,
    grammar.symbols.symbol? name = some symbol ↔ grammar.symbols.name? symbol = some name
  /-- The names of a kind have consecutive numbers in the order of their registrations. -/
  numbered : ∀ name symbol, grammar.symbols.name? symbol = some name ↔
    ∃ index, symbol.id = symbol.kind.first + index ∧ (names granted symbol.kind)[index]? = some name
  /-- The numbers of symbols are those below the next one, for either kind. -/
  inRange : ∀ symbol, (∃ name, grammar.symbols.name? symbol = some name) ↔
    symbol.id < nextNumber granted .terminal ∨
      Symbol.phraseBase ≤ symbol.id ∧ symbol.id < nextNumber granted .phrase
  separate : nextNumber granted .terminal ≤ Symbol.phraseBase
  accepts : ∀ kind name, (∃ symbol, (grammar.respond (.register kind name)).1 = .symbol symbol) ↔
    grammar.symbols.symbol? name = none ∧ (names granted kind).length < kind.room ∨
      ∃ symbol, grammar.symbols.symbol? name = some symbol ∧ symbol.kind = kind
  /-- A registered name answers its symbol to its kind, and a conflict to the other one. -/
  known : ∀ kind name symbol, grammar.symbols.symbol? name = some symbol →
    grammar.respond (.register kind name) =
      (if symbol.kind = kind then .symbol symbol else .refused (.kindConflict name symbol.kind),
        grammar)
  new : ∀ kind name, grammar.symbols.symbol? name = none → (names granted kind).length < kind.room →
    (grammar.respond (.register kind name)).1 = .symbol ⟨nextNumber granted kind⟩ ∧
      (grammar.respond (.register kind name)).2.symbols.symbol? name =
        some ⟨nextNumber granted kind⟩
  /-- A name keeps its symbol in all further calls. -/
  kept : ∀ more name symbol, grammar.symbols.symbol? name = some symbol →
    (grammar.after more).symbols.symbol? name = some symbol
  refused : ∀ call cause, (grammar.respond call).1 = .refused cause →
    (grammar.respond call).2 = grammar

section Registry

variable {granted : List Registration} {grammar : Grammar} (holds : Holds granted grammar)

include holds

theorem Holds.name?_eq_some_iff (name : String) (symbol : Symbol) :
    grammar.symbols.name? symbol = some name ↔
      ∃ index, symbol.id = symbol.kind.first + index ∧
        (names granted symbol.kind)[index]? = some name := by
  constructor
  · intro named
    obtain ⟨kind, index, number, listed⟩ := SymbolTable.name?_eq_some_iff.1 named
    have found := SymbolTable.symbol?_eq_some_iff.2 named
    obtain rfl := (SymbolTable.kind_eq_iff found kind).2 (List.mem_of_getElem? listed)
    rw [holds symbol.kind] at listed
    exact ⟨index, number, listed⟩
  · rintro ⟨index, number, listed⟩
    rw [← holds symbol.kind] at listed
    exact SymbolTable.name?_eq_some_iff.2 ⟨_, index, number, listed⟩

theorem Holds.next_eq (kind : SymbolKind) : grammar.symbols.next kind = nextNumber granted kind := by
  rw [nextNumber, ← holds kind, SymbolTable.first_add_length_names]

theorem Holds.nextNumber_terminal_le : nextNumber granted .terminal ≤ Symbol.phraseBase := by
  rw [← holds.next_eq]
  exact grammar.symbols.separate.1

theorem Holds.exists_name?_iff (symbol : Symbol) :
    (∃ name, grammar.symbols.name? symbol = some name) ↔
      symbol.id < nextNumber granted .terminal ∨
        Symbol.phraseBase ≤ symbol.id ∧ symbol.id < nextNumber granted .phrase := by
  rw [← holds.next_eq, ← holds.next_eq]
  exact grammar.symbols.numbered symbol.id

theorem Holds.respond_new {kind : SymbolKind} {name : String}
    (absent : grammar.symbols.symbol? name = none) (room : (names granted kind).length < kind.room) :
    (grammar.respond (.register kind name)).1 = .symbol ⟨nextNumber granted kind⟩ ∧
      (grammar.respond (.register kind name)).2.symbols.symbol? name =
        some ⟨nextNumber granted kind⟩ := by
  rw [← holds kind] at room
  obtain ⟨symbols, responded, added, _⟩ := Grammar.respond_new absent room
  rw [responded, nextNumber, ← holds kind]
  refine ⟨rfl, SymbolTable.symbol?_eq_some_iff.2 (SymbolTable.name?_eq_some_iff.2 ?_)⟩
  refine ⟨kind, _, rfl, ?_⟩
  rw [added]
  exact List.getElem?_concat_length

/-- A registration is accepted if the name is new and there is room for it, or if it has a symbol of the
kind. -/
theorem Holds.accepts_iff (kind : SymbolKind) (name : String) :
    (∃ symbol, (grammar.respond (.register kind name)).1 = .symbol symbol) ↔
      grammar.symbols.symbol? name = none ∧ (names granted kind).length < kind.room ∨
        ∃ symbol, grammar.symbols.symbol? name = some symbol ∧ symbol.kind = kind := by
  cases found : grammar.symbols.symbol? name with
  | some symbol =>
    rw [respond_known found]
    by_cases isKind : symbol.kind = kind
    · simp [isKind]
    · simp [isKind]
  | none =>
    by_cases room : (names granted kind).length < kind.room
    · simp [holds.respond_new found room, room]
    · have full := Nat.not_lt.1 room
      rw [← holds kind] at full
      simp [respond_full found full, room]

end Registry

/-- After any calls names and symbols are inverse to each other, and the symbols of a kind are numbered
without gaps in the order of their registrations. A further registration answers the symbol that the
name has, or the next one of the kind, or is refused and changes nothing; no call changes the symbol of
a name. -/
theorem registry_after (calls : List Call) : Registry (grantedTo calls) (empty.after calls) := by
  have holds := holds_after calls
  exact {
    next := holds.next_eq
    inverse := fun _ _ => SymbolTable.symbol?_eq_some_iff
    numbered := holds.name?_eq_some_iff
    inRange := holds.exists_name?_iff
    separate := holds.nextNumber_terminal_le
    accepts := holds.accepts_iff
    known := fun kind _ _ found => respond_known found kind
    new := fun _ _ => holds.respond_new
    kept := fun more _ _ => ((empty.after calls).after_extends more).symbol?
    refused := fun _ _ => respond_refused }

/-- A name stays what it is first registered as, and refused registrations use up no number. -/
example : grantedTo [.register .phrase "S", .register .terminal "ROOT", .lookup "N",
      .register .terminal "N", .register .terminal "S", .register .phrase "VP"] =
    reserved ++ [⟨.phrase, "S"⟩, ⟨.terminal, "N"⟩, ⟨.phrase, "VP"⟩] := by
  decide

end Grammar

end ChartParsing
