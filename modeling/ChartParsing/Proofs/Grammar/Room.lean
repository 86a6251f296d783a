import ChartParsing.Proofs.Grammar.Loading

/-!
Contract: the room for symbols.

Owns that no loading has more names of a kind than there are symbols of it. Every pass over the lines
keeps within the room, because a registration that would leave it fails.
-/

set_option autoImplicit false

namespace ChartParsing

open GrammarText

/-! ## What does not fail -/

/-- Whatever a computation comes to, if it does not fail, is good. -/
def Yields {Failure Result : Type} (Good : Result → Prop)
    (computation : Except Failure Result) : Prop :=
  ∀ result, computation = .ok result → Good result

namespace Yields

variable {Failure Result Next : Type} {Good : Result → Prop} {GoodNext : Next → Prop}

theorem ok {result : Result} (good : Good result) :
    Yields Good (.ok result : Except Failure Result) := by
  intro last came
  obtain rfl := Except.ok.inj came
  exact good

theorem error (failure : Failure) : Yields Good (.error failure : Except Failure Result) :=
  nofun

theorem bind {computation : Except Failure Result} {next : Result → Except Failure Next}
    (yields : Yields Good computation)
    (continues : ∀ result, Good result → Yields GoodNext (next result)) :
    Yields GoodNext (computation >>= next) := by
  cases computation with
  | error failure => exact .error failure
  | ok result => exact continues result (yields result rfl)

theorem foldlM {State Item : Type} {step : State → Item → Except Failure State}
    {Good : State → Prop} (preserves : ∀ state item, Good state → Yields Good (step state item))
    {start : State} (initially : Good start) (items : List Item) :
    Yields Good (items.foldlM step start) := by
  induction items generalizing start with
  | nil => exact .ok initially
  | cons item others inductionHypothesis =>
    rw [List.foldlM_cons]
    exact (preserves start item initially).bind fun state good => inductionHypothesis good

end Yields

/-! ## Registrations -/

namespace SymbolTable

/-- A table has no more names of a kind than there are symbols of it. -/
def Within (table : SymbolTable) : Prop :=
  ∀ kind, (table.names kind).length ≤ kind.room

theorem within_reserved : reserved.Within := by
  intro kind
  cases kind with
  | terminal =>
    rw [reserved_terminals]
    decide
  | phrase =>
    rw [reserved_phrases]
    decide

/-- No registration leaves the room, whether it is granted or refused. -/
theorem Within.register {table : SymbolTable} (within : table.Within) (kind : SymbolKind)
    (name : String) : (table.register kind name).2.Within := by
  cases found : table.symbol? name with
  | some symbol =>
    rw [register_of_symbol? found]
    exact within
  | none =>
    by_cases room : (table.names kind).length < kind.room
    · obtain ⟨next, registered, added, others⟩ := register_of_room found room
      rw [registered]
      intro either
      by_cases isKind : either = kind
      · rw [isKind, added, List.length_append]
        exact room
      · rw [SymbolKind.eq_other_of_ne isKind, others]
        exact within _
    · rw [register_of_full found (Nat.not_lt.1 room)]
      exact within

end SymbolTable

/-! ## Passes -/

namespace Loading

theorem registerNamed_within (kind : SymbolKind) (loading : Loading) (numbered : NumberedLine)
    (within : loading.symbols.Within) :
    Yields (fun next => next.symbols.Within) (registerNamed kind loading numbered) := by
  unfold registerNamed
  cases numbered.line.named kind with
  | none => exact .ok within
  | some name =>
    have stillWithin := within.register kind name
    dsimp only
    rcases registered : loading.symbols.register kind name with ⟨_ | _, next⟩
    · exact .error _
    · rw [registered] at stillWithin
      exact .ok stillWithin

section Registered

variable {loading : Loading} (within : loading.symbols.Within) (number : Nat) (name : String)

include within

theorem terminal_within :
    Yields (fun registered => registered.2.symbols.Within) (loading.terminal number name) := by
  have stillWithin := within.register .terminal name
  unfold Loading.terminal Grammar.terminal Grammar.register
  unfold Loading.symbols at stillWithin
  rcases registered : loading.grammar.symbols.register .terminal name with ⟨_ | _, next⟩
  · exact .error _
  · rw [registered] at stillWithin
    exact .ok stillWithin

theorem phrase_within :
    Yields (fun registered => registered.2.symbols.Within) (loading.phrase number name) := by
  have stillWithin := within.register .phrase name
  unfold Loading.phrase Grammar.phrase Grammar.register
  unfold Loading.symbols at stillWithin
  rcases registered : loading.grammar.symbols.register .phrase name with ⟨_ | _, next⟩
  · exact .error _
  · rw [registered] at stillWithin
    exact .ok stillWithin

theorem bodySymbol_within :
    Yields (fun registered => registered.2.symbols.Within) (loading.bodySymbol number name) := by
  unfold Loading.bodySymbol
  cases loading.grammar.symbols.symbol? name with
  | some symbol => exact .ok within
  | none =>
    have reported : (loading.report .debug
        s!"Line {number}: '{name}' has no rules or words yet").symbols.Within := within
    exact phrase_within reported number name

end Registered

theorem bodySymbols_within (number : Nat) (names : List String) {loading : Loading}
    (within : loading.symbols.Within) :
    Yields (fun registered => registered.2.symbols.Within)
      (Loading.bodySymbols number loading names) := by
  induction names generalizing loading with
  | nil => exact .ok within
  | cons name names inductionHypothesis =>
    rw [Loading.bodySymbols_cons]
    refine (bodySymbol_within within number name).bind fun first withinFirst => ?_
    exact (inductionHypothesis withinFirst).bind fun others withinOthers => .ok withinOthers

theorem addAlternative_within (number : Nat) (head : Symbol) (loading : Loading)
    (alternative : Alternative) (within : loading.symbols.Within) :
    Yields (fun next => next.symbols.Within)
      (Loading.addAlternative number head loading alternative) := by
  rw [Loading.addAlternative_eq]
  exact (bodySymbols_within number alternative.symbols within).bind
    fun body withinBody => .ok withinBody

theorem symbols_addWords (number : Nat) (symbol : Symbol) (category : String) (words : List String)
    (loading : Loading) :
    (words.foldl (Loading.addWord number symbol category) loading).symbols = loading.symbols := by
  induction words generalizing loading with
  | nil => rfl
  | cons word others inductionHypothesis =>
    rw [List.foldl_cons, inductionHypothesis, Loading.symbols_addWord]

theorem addLine_within (loading : Loading) (numbered : NumberedLine)
    (within : loading.symbols.Within) :
    Yields (fun next => next.symbols.Within) (loading.addLine numbered) := by
  obtain ⟨number, line⟩ := numbered
  unfold Loading.addLine
  cases line with
  | lexicon category words =>
    have registers := terminal_within within number category
    dsimp only
    cases registered : loading.terminal number category with
    | error rejection => exact .error rejection
    | ok pair =>
      apply Yields.ok
      rw [symbols_addWords]
      exact registers pair registered
  | rule head alternatives =>
    have registers := phrase_within within number head
    dsimp only
    cases registered : loading.phrase number head with
    | error rejection => exact .error rejection
    | ok pair =>
      exact Yields.foldlM (addAlternative_within number pair.1) (registers pair registered)
        alternatives

/-- A loading that comes to its end has room for all names. -/
theorem addLines_within (lines : List NumberedLine) :
    Yields (fun loading => loading.symbols.Within) (Loading.addLines lines .initial) := by
  unfold Loading.addLines
  rw [registerCategory_eq, registerHead_eq]
  have initially : Loading.initial.symbols.Within := SymbolTable.within_reserved
  refine (Yields.foldlM (registerNamed_within .terminal) initially lines).bind
    fun categorised within => ?_
  refine (Yields.foldlM (registerNamed_within .phrase) within lines).bind fun headed within => ?_
  exact Yields.foldlM addLine_within within lines

end Loading

/-- Lines that a loading describes name no more symbols of a kind than there are. -/
theorem Describes.room {lines : List NumberedLine} {loading : Loading}
    (describes : Describes lines loading) (within : loading.symbols.Within) (kind : SymbolKind) :
    (symbolNames lines kind).dedup.length ≤ kind.room := by
  refine le_trans ?_ (within kind)
  refine (List.Subperm.length_le ?_)
  refine (List.nodup_dedup _).subperm fun name listed => ?_
  exact (describes.names kind name).2 (List.mem_dedup.1 listed)

end ChartParsing
