import ChartParsing.Proofs.Grammar.Meaning
import Mathlib.Data.List.Induction

/-!
Contract: the registration of the names of lines.

Owns what a computation over lines can come to, and the two passes that register categories and heads.
Only these passes can meet a contradiction: each fails at the first line whose name is taken by the
other kind, and registers exactly the names of the lines otherwise.
-/

set_option autoImplicit false

namespace ChartParsing

open GrammarText

variable {lines : List NumberedLine}

/-! ## Outcomes -/

/-- A computation fails with a contradiction, if there is one, before anything is logged; it has a good
result otherwise; or it runs out of numbers. -/
def Outcome (lines : List NumberedLine) (conflict? : Option LoadError) {Result : Type}
    (Good : Result → Prop) : Except Rejection Result → Prop
  | .ok result => conflict? = none ∧ Good result
  | .error rejection =>
    (conflict? = some rejection.cause ∧ rejection.log = #[]) ∨ OutOfNumbers lines rejection

namespace Outcome

variable {Result Next : Type} {Good Better : Result → Prop} {GoodNext : Next → Prop}
  {first? next? : Option LoadError} {computation : Except Rejection Result}

theorem imp (outcome : Outcome lines first? Good computation)
    (implies : ∀ result, Good result → Better result) : Outcome lines first? Better computation := by
  cases computation with
  | error rejection => exact outcome
  | ok result => exact ⟨outcome.1, implies result outcome.2⟩

theorem bind {next : Result → Except Rejection Next} (outcome : Outcome lines first? Good computation)
    (continues : ∀ result, Good result → Outcome lines next? GoodNext (next result)) :
    Outcome lines (first?.or next?) GoodNext (computation >>= next) := by
  cases computation with
  | error rejection =>
    rcases outcome with ⟨isFirst, silent⟩ | exhausted
    · rw [isFirst]
      exact .inl ⟨rfl, silent⟩
    · exact .inr exhausted
  | ok result =>
    rw [outcome.1]
    exact continues result outcome.2

/-- What every step of a loop preserves, as it goes over items, holds of what the loop comes to. -/
theorem foldlM {State Item : Type} {step : State → Item → Except Rejection State}
    {items : List Item} {start : State} (conflict? : Item → Option LoadError)
    (Good : List Item → State → Prop) (initially : Good [] start)
    (preserves : ∀ done item state, item ∈ items → Good done state →
      Outcome lines (conflict? item) (Good (done ++ [item])) (step state item)) :
    Outcome lines (items.findSome? conflict?) (Good items) (items.foldlM step start) := by
  induction items using List.reverseRecOn with
  | nil => exact ⟨rfl, initially⟩
  | append_singleton done item inductionHypothesis =>
    rw [List.foldlM_append, List.findSome?_append]
    have before := inductionHypothesis fun earlier one state member =>
      preserves earlier one state (List.mem_append_left _ member)
    refine before.bind fun state good => ?_
    rw [List.findSome?_singleton, List.foldlM_cons]
    have after := preserves done item state (List.mem_append_right _ (List.mem_singleton_self item)) good
    simpa using after

theorem foldlM_of_free {State Item : Type} {step : State → Item → Except Rejection State}
    {items : List Item} {start : State} (Good : List Item → State → Prop) (initially : Good [] start)
    (preserves : ∀ done item state, item ∈ items → Good done state →
      Outcome lines none (Good (done ++ [item])) (step state item)) :
    Outcome lines none (Good items) (items.foldlM step start) := by
  have ran := foldlM (fun _ => none) Good initially preserves
  have free : (items.findSome? fun _ => (none : Option LoadError)) = none :=
    List.findSome?_eq_none_iff.2 fun _ _ => rfl
  rw [free] at ran
  exact ran

end Outcome

/-! ## Registering the names of lines -/

namespace Loading

def symbols (loading : Loading) : SymbolTable :=
  loading.grammar.symbols

/-- The loading that knows the reserved names and nothing else. -/
def initial : Loading :=
  ⟨.empty, #[]⟩

/-- Registers the name, if any, that a line makes a symbol of a kind. -/
def registerNamed (kind : SymbolKind) (loading : Loading) (numbered : NumberedLine) :
    Except Rejection Loading :=
  match numbered.line.named kind with
  | none => .ok loading
  | some name =>
    match loading.symbols.register kind name with
    | (.error cause, _) => .error ⟨.symbol numbered.number cause, loading.log⟩
    | (.ok _, symbols) => .ok { loading with grammar := { loading.grammar with symbols } }

theorem registerCategory_eq : registerCategory = registerNamed .terminal := by
  funext loading numbered
  obtain ⟨number, line⟩ := numbered
  cases line with
  | rule head alternatives => rfl
  | lexicon category words =>
    unfold registerCategory registerNamed terminal Grammar.terminal Grammar.register symbols
    simp only [Line.named]
    rcases loading.grammar.symbols.register .terminal category with ⟨_ | _, _⟩ <;> rfl

theorem registerHead_eq : registerHead = registerNamed .phrase := by
  funext loading numbered
  obtain ⟨number, line⟩ := numbered
  cases line with
  | lexicon category words => rfl
  | rule head alternatives =>
    unfold registerHead registerNamed phrase Grammar.phrase Grammar.register symbols
    simp only [Line.named]
    rcases loading.grammar.symbols.register .phrase head with ⟨_ | _, _⟩ <;> rfl

/-- What a loading has become by the registration of names as symbols of a kind. -/
structure Registered (kind : SymbolKind) (names : List String) (start final : Loading) : Prop where
  grows : start.symbols.Extends final.symbols
  mem_iff : ∀ name, name ∈ final.symbols.names kind ↔ name ∈ start.symbols.names kind ∨ name ∈ names
  others : final.symbols.names kind.other = start.symbols.names kind.other
  kept : final = { start with grammar := { start.grammar with symbols := final.symbols } }

variable {kind : SymbolKind} {names : List String} {start loading : Loading}

theorem Registered.refl (kind : SymbolKind) (loading : Loading) : Registered kind [] loading loading :=
  ⟨.refl _, fun name => by simp, rfl, rfl⟩

theorem Registered.log (registered : Registered kind names start loading) :
    loading.log = start.log := by
  rw [registered.kept]

theorem Registered.concat {name : String} {symbol : Symbol} {symbols : SymbolTable}
    (registered : Registered kind names start loading)
    (last : loading.symbols.Registers kind name symbol symbols) :
    Registered kind (names ++ [name]) start
      { loading with grammar := { loading.grammar with symbols } } := by
  refine ⟨registered.grows.trans last.extends_, fun other => ?_, last.others.trans registered.others, ?_⟩
  · show other ∈ symbols.names kind ↔ _
    rw [last.mem_iff other, registered.mem_iff other, List.mem_append, List.mem_singleton, or_assoc]
  · rw [registered.kept]
    rfl

/-- A pass over the lines registers their names as symbols of a kind, unless one of them is taken. -/
theorem registerNamed_outcome (kind : SymbolKind) (start : Loading) (silent : start.log = #[])
    (known : ∀ name ∈ start.symbols.names kind, name ∈ symbolNames lines kind)
    (allowed : ∀ name ∈ named lines kind, name ∉ start.symbols.names kind.other →
      name ∈ symbolNames lines kind) :
    Outcome lines (lines.findSome? (conflictWith (start.symbols.names kind.other) kind))
      (fun final => Registered kind (named lines kind) start final ∧
        ∀ name ∈ final.symbols.names kind, name ∈ symbolNames lines kind)
      (lines.foldlM (registerNamed kind) start) := by
  refine Outcome.foldlM _
    (fun done loading => Registered kind (named done kind) start loading ∧
      ∀ name ∈ loading.symbols.names kind, name ∈ symbolNames lines kind)
    ⟨.refl kind start, known⟩ ?_
  intro done numbered loading member ⟨registered, knownNow⟩
  have namedMore : named (done ++ [numbered]) kind =
      named done kind ++ (numbered.line.named kind).toList := by
    unfold named
    rw [List.filterMap_append]
    cases isNamed : numbered.line.named kind <;> simp [isNamed]
  rw [namedMore]
  unfold registerNamed conflictWith
  cases isNamed : numbered.line.named kind with
  | none =>
    refine ⟨rfl, ?_, knownNow⟩
    rw [Option.toList_none, List.append_nil]
    exact registered
  | some name =>
    have allowedHere := allowed name (mem_named member isNamed)
    -- The pass adds no name of the other kind, so what is taken stays as it was at the start.
    rw [← registered.others] at allowedHere ⊢
    rcases loading.symbols.register_cases kind name with
      ⟨symbol, symbols, succeeded, registers⟩ | ⟨conflict, taken⟩ | ⟨exhausted, absent, full⟩
    · simp only [succeeded, if_neg registers.notOther]
      refine ⟨rfl, registered.concat registers, fun other listed => ?_⟩
      rcases (registers.mem_iff other).1 listed with old | rfl
      · exact knownNow other old
      · exact allowedHere registers.notOther
    · simp only [conflict, if_pos taken]
      exact .inl ⟨rfl, registered.log.trans silent⟩
    · simp only [exhausted]
      have isAllowed := allowedHere (SymbolTable.not_mem_names absent _)
      exact .inr ⟨kind, numbered.number, rfl,
        SymbolTable.room_lt_of_exhausted absent full knownNow isAllowed⟩

end Loading

/-! ## Categories, then heads -/

section Passes

variable {categorised : Loading}

theorem conflictWith_congr {taken other : List String} (same : ∀ name, name ∈ taken ↔ name ∈ other)
    (kind : SymbolKind) : conflictWith taken kind = conflictWith other kind := by
  funext numbered
  unfold conflictWith
  cases numbered.line.named kind with
  | none => rfl
  | some name => simp only [same name]

/-- The first pass registers the categories, unless the root symbol is one of them. -/
theorem categories_outcome (lines : List NumberedLine) :
    Outcome lines (lines.findSome? (conflictWith (SymbolTable.reserved.names .phrase) .terminal))
      (Loading.Registered .terminal (named lines .terminal) .initial)
      (lines.foldlM Loading.registerCategory .initial) := by
  rw [Loading.registerCategory_eq]
  refine Outcome.imp (Loading.registerNamed_outcome .terminal .initial rfl ?_ ?_) fun _ good => good.1
  · intro name reserved
    exact mem_lexicalNames.2 (.inl reserved)
  · intro name isCategory _
    exact mem_lexicalNames.2 (.inr isCategory)

theorem mem_terminals_iff (categories : Loading.Registered .terminal (named lines .terminal)
    .initial categorised) (name : String) :
    name ∈ categorised.symbols.names .terminal ↔ name ∈ lexicalNames lines := by
  rw [categories.mem_iff, mem_lexicalNames]
  rfl

/-- The second pass registers the heads, unless one of them is lexical. -/
theorem heads_outcome (categories : Loading.Registered .terminal (named lines .terminal)
    .initial categorised) :
    Outcome lines (lines.findSome? (conflictWith (lexicalNames lines) .phrase))
      (fun headed => Loading.Registered .phrase (named lines .phrase) categorised headed ∧
        ∀ name ∈ headed.symbols.names .phrase, name ∈ symbolNames lines .phrase)
      (lines.foldlM Loading.registerHead categorised) := by
  rw [Loading.registerHead_eq, ← conflictWith_congr (mem_terminals_iff categories)]
  refine Loading.registerNamed_outcome .phrase categorised categories.log ?_ ?_
  · intro name member
    -- The reserved phrase symbol would be lexical if the first pass had not failed at its line.
    have notLexical : name ∉ lexicalNames lines := by
      rw [← mem_terminals_iff categories]
      exact SymbolTable.not_mem_other member
    rw [show categorised.symbols.names .phrase = SymbolTable.reserved.names .phrase from categories.others]
      at member
    exact mem_phraseNames.2 ⟨.inl member, notLexical⟩
  · intro name isHead notTerminal
    exact mem_phraseNames.2 ⟨.inr (.inl isHead), mt (mem_terminals_iff categories name).2 notTerminal⟩

end Passes

end ChartParsing
