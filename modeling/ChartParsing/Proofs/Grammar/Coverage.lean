import ChartParsing.Grammar.Coverage
import Mathlib.Data.List.Basic

/-!
Contract: the walk that looks for a phrase symbol without productions.

Owns the symbols that a sentence may need, and what the walk does on its way: it expands the
productions of every head in their order and each at most once. A walk that ends without finding a
symbol has settled every needed one; a symbol that it finds is needed and has no production.
-/

set_option autoImplicit false

namespace ChartParsing.Grammar

/-- The phrase symbols that a sentence may need: the root symbol, and those in the bodies of the
productions of needed symbols. -/
inductive Needed (grammar : Grammar) : Symbol → Prop where
  | root : Needed grammar .root
  | part {symbol part : Symbol} {production : Production} (needed : Needed grammar symbol)
      (listed : production ∈ grammar.productionsOf symbol) (inBody : part ∈ production.body)
      (isPhrase : part.isPhrase = true) : Needed grammar part

variable {grammar : Grammar}

theorem Needed.isPhrase {symbol : Symbol} (needed : grammar.Needed symbol) :
    symbol.isPhrase = true := by
  cases needed with
  | root => decide
  | part _ _ _ isPhrase => exact isPhrase

/-! ## Taking a production -/

theorem takeProduction?_eq_none_iff {head : Symbol} {productions : List Production} :
    takeProduction? head productions = none ↔
      ∀ production ∈ productions, production.head ≠ head := by
  induction productions with
  | nil => simp [takeProduction?]
  | cons production others inductionHypothesis =>
    by_cases matchesHead : production.head = head
    · simp [takeProduction?, matchesHead]
    · simp [takeProduction?, matchesHead, inductionHypothesis]

/-- A production is taken from behind productions with other heads. -/
theorem exists_of_takeProduction? {head : Symbol} {productions left : List Production}
    {production : Production} (taken : takeProduction? head productions = some (production, left)) :
    production.head = head ∧ ∃ earlier later, productions = earlier ++ production :: later ∧
      left = earlier ++ later ∧ ∀ other ∈ earlier, other.head ≠ head := by
  induction productions generalizing left with
  | nil => exact nomatch taken
  | cons first others inductionHypothesis =>
    unfold takeProduction? at taken
    by_cases matchesHead : first.head = head
    · rw [if_pos matchesHead] at taken
      obtain ⟨rfl, rfl⟩ := Prod.mk.inj (Option.some.inj taken)
      exact ⟨matchesHead, [], others, rfl, rfl, fun _ member => absurd member List.not_mem_nil⟩
    · rw [if_neg matchesHead] at taken
      obtain ⟨⟨deeper, rest⟩, deeperTaken, same⟩ := Option.map_eq_some_iff.1 taken
      obtain ⟨rfl, rfl⟩ := Prod.mk.inj same
      obtain ⟨isHead, earlier, later, rfl, rfl, otherHeads⟩ := inductionHypothesis deeperTaken
      refine ⟨isHead, first :: earlier, later, rfl, rfl, ?_⟩
      intro other member
      rcases List.mem_cons.1 member with rfl | deeperMember
      · exact matchesHead
      · exact otherHeads other deeperMember

/-- The productions with a head, in order. -/
def headed (head : Symbol) (productions : List Production) : List Production :=
  productions.filter fun production => production.head = head

theorem headed_cons (head : Symbol) (production : Production) (others : List Production) :
    headed head (production :: others) =
      if production.head = head then production :: headed head others else headed head others := by
  simp [headed, List.filter_cons]

/-- Of the productions with its head, the one that is taken is the first. -/
theorem headed_of_takeProduction? {head : Symbol} {productions left : List Production}
    {production : Production} (taken : takeProduction? head productions = some (production, left))
    (other : Symbol) : headed other productions = headed other (production :: left) := by
  obtain ⟨isHead, earlier, later, rfl, rfl, otherHeads⟩ := exists_of_takeProduction? taken
  rw [headed_cons]
  simp only [headed, List.filter_append, List.filter_cons, decide_eq_true_eq]
  by_cases same : production.head = other
  · have none : earlier.filter (fun candidate => candidate.head = other) = [] := by
      rw [List.filter_eq_nil_iff]
      intro candidate member
      rw [decide_eq_true_eq, ← same, isHead]
      exact otherHeads candidate member
    rw [if_pos same, if_pos same, none, List.nil_append, List.nil_append]
  · rw [if_neg same, if_neg same]

/-! ## Walks -/

/-- The walk over an agenda while some productions are unexpanded: the productions that it expands,
in their order, and the symbol that it finds, if any. -/
inductive Walk (grammar : Grammar) :
    List Symbol → List Production → List Production → Option Symbol → Prop where
  | done (unexpanded : List Production) : Walk grammar [] unexpanded [] none
  | missing {symbol : Symbol} {others : List Symbol} {unexpanded : List Production}
      (isPhrase : symbol.isPhrase = true) (unproductive : grammar.productionsOf symbol = []) :
      Walk grammar (symbol :: others) unexpanded [] (some symbol)
  | terminal {symbol : Symbol} {others : List Symbol} {unexpanded expanded : List Production}
      {found : Option Symbol} (notPhrase : symbol.isPhrase = false)
      (rest : Walk grammar others unexpanded expanded found) :
      Walk grammar (symbol :: others) unexpanded expanded found
  | settled {symbol : Symbol} {others : List Symbol} {unexpanded expanded : List Production}
      {found : Option Symbol} (isPhrase : symbol.isPhrase = true)
      (productive : grammar.productionsOf symbol ≠ [])
      (exhausted : takeProduction? symbol unexpanded = none)
      (rest : Walk grammar others unexpanded expanded found) :
      Walk grammar (symbol :: others) unexpanded expanded found
  | expand {symbol : Symbol} {others : List Symbol} {unexpanded left expanded : List Production}
      {production : Production} {found : Option Symbol} (isPhrase : symbol.isPhrase = true)
      (productive : grammar.productionsOf symbol ≠ [])
      (taken : takeProduction? symbol unexpanded = some (production, left))
      (rest : Walk grammar (production.body ++ symbol :: others) left expanded found) :
      Walk grammar (symbol :: others) unexpanded (production :: expanded) found

/-- The search is a walk, which ends. -/
theorem exists_walk (grammar : Grammar) (agenda : List Symbol) (unexpanded : List Production) :
    ∃ expanded, grammar.Walk agenda unexpanded expanded (grammar.firstMissing? agenda unexpanded) := by
  fun_induction firstMissing? grammar agenda unexpanded with
  | case1 unexpanded => exact ⟨[], .done unexpanded⟩
  | case2 unexpanded symbol others isPhrase unproductive =>
    exact ⟨[], .missing isPhrase (List.isEmpty_iff.1 unproductive)⟩
  | case3 unexpanded symbol others isPhrase productive exhausted inductionHypothesis =>
    obtain ⟨expanded, rest⟩ := inductionHypothesis
    exact ⟨expanded, .settled isPhrase (mt List.isEmpty_iff.2 productive) exhausted rest⟩
  | case4 unexpanded symbol others isPhrase productive production left taken inductionHypothesis =>
    obtain ⟨expanded, rest⟩ := inductionHypothesis
    exact ⟨_, .expand isPhrase (mt List.isEmpty_iff.2 productive) taken rest⟩
  | case5 unexpanded symbol others notPhrase inductionHypothesis =>
    obtain ⟨expanded, rest⟩ := inductionHypothesis
    exact ⟨expanded, .terminal (Bool.eq_false_iff.2 notPhrase) rest⟩

section Walking

variable {agenda : List Symbol} {unexpanded expanded : List Production} {found : Option Symbol}

/-- A walk expands the first unexpanded productions of every head, each once. -/
theorem Walk.headed_prefix (walk : grammar.Walk agenda unexpanded expanded found) (head : Symbol) :
    headed head expanded <+: headed head unexpanded := by
  induction walk with
  | done unexpanded => exact List.nil_prefix
  | missing isPhrase unproductive => exact List.nil_prefix
  | terminal notPhrase rest inductionHypothesis => exact inductionHypothesis
  | settled isPhrase productive exhausted rest inductionHypothesis => exact inductionHypothesis
  | expand isPhrase productive taken rest inductionHypothesis =>
    rw [headed_of_takeProduction? taken, headed_cons, headed_cons]
    split
    · exact List.cons_prefix_cons.2 ⟨rfl, inductionHypothesis⟩
    · exact inductionHypothesis

/-! ## What a walk has settled -/

/-- A symbol has productions, and all of them are expanded. -/
structure Settled (grammar : Grammar) (unexpanded : List Production) (symbol : Symbol) : Prop where
  productive : grammar.productionsOf symbol ≠ []
  expanded : ∀ production ∈ unexpanded, production.head ≠ symbol

/-- A symbol is settled, or the walk is still to come to it. -/
def Tended (grammar : Grammar) (agenda : List Symbol) (unexpanded : List Production)
    (symbol : Symbol) : Prop :=
  symbol ∈ agenda ∨ Settled grammar unexpanded symbol

/-- What holds at every stage of a walk from the root symbol. Only the parts of expanded productions
count: a production is expanded before the walk comes to its parts. -/
structure Stage (grammar : Grammar) (agenda : List Symbol) (unexpanded expanded : List Production) :
    Prop where
  parted : (expanded ++ unexpanded).Perm grammar.productions.toList
  needed : ∀ symbol ∈ agenda, symbol.isPhrase = true → grammar.Needed symbol
  root : Tended grammar agenda unexpanded .root
  parts : ∀ production ∈ expanded, ∀ part ∈ production.body, part.isPhrase = true →
    Tended grammar agenda unexpanded part

theorem stage_root (grammar : Grammar) : Stage grammar [.root] grammar.productions.toList [] where
  parted := .refl _
  needed := by
    intro symbol member _
    rw [List.mem_singleton.1 member]
    exact .root
  root := .inl (List.mem_singleton_self _)
  parts := fun _ impossible => absurd impossible List.not_mem_nil

theorem Tended.leave {symbol other : Symbol} {others : List Symbol}
    (tended : Tended grammar (symbol :: others) unexpanded other) (isPhrase : other.isPhrase = true)
    (settles : symbol.isPhrase = true → Settled grammar unexpanded symbol) :
    Tended grammar others unexpanded other := by
  rcases tended with member | settled
  · rcases List.mem_cons.1 member with rfl | later
    · exact .inr (settles isPhrase)
    · exact .inl later
  · exact .inr settled

/-- The walk may leave a symbol that is settled, or that needs no productions. -/
theorem Stage.leave {symbol : Symbol} {others : List Symbol}
    (stage : Stage grammar (symbol :: others) unexpanded expanded)
    (settles : symbol.isPhrase = true → Settled grammar unexpanded symbol) :
    Stage grammar others unexpanded expanded where
  parted := stage.parted
  needed := fun other member => stage.needed other (List.mem_cons_of_mem _ member)
  root := stage.root.leave (by decide) settles
  parts := fun production member part inBody isPhrase =>
    (stage.parts production member part inBody isPhrase).leave isPhrase settles

theorem Stage.expand {symbol : Symbol} {others : List Symbol} {production : Production}
    {left : List Production} (stage : Stage grammar (symbol :: others) unexpanded expanded)
    (isPhrase : symbol.isPhrase = true)
    (taken : takeProduction? symbol unexpanded = some (production, left)) :
    Stage grammar (production.body ++ symbol :: others) left (expanded ++ [production]) := by
  obtain ⟨isHead, earlier, later, rfl, rfl, _⟩ := exists_of_takeProduction? taken
  have permuted : (expanded ++ [production] ++ (earlier ++ later)).Perm
      (expanded ++ (earlier ++ production :: later)) := by
    rw [List.append_assoc, List.singleton_append]
    exact List.perm_middle.symm.append_left expanded
  have kept : ∀ {other : Symbol},
      Tended grammar (symbol :: others) (earlier ++ production :: later) other →
      Tended grammar (production.body ++ symbol :: others) (earlier ++ later) other := by
    rintro other (member | settled)
    · exact .inl (List.mem_append_right _ member)
    · refine .inr ⟨settled.productive, fun candidate member => settled.expanded candidate ?_⟩
      rcases List.mem_append.1 member with before | after
      · exact List.mem_append_left _ before
      · exact List.mem_append_right _ (List.mem_cons_of_mem _ after)
  have listed : production ∈ grammar.productionsOf symbol := by
    refine mem_productionsOf.2 ⟨stage.parted.mem_iff.1 ?_, isHead⟩
    exact List.mem_append_right _ (List.mem_append_right _ List.mem_cons_self)
  have isNeeded := stage.needed symbol List.mem_cons_self isPhrase
  refine ⟨permuted.trans stage.parted, ?needed, kept stage.root, ?parts⟩
  case needed =>
    intro other member otherIsPhrase
    rcases List.mem_append.1 member with inBody | before
    · exact .part isNeeded listed inBody otherIsPhrase
    · exact stage.needed other before otherIsPhrase
  case parts =>
    intro candidate member part inBody partIsPhrase
    rcases List.mem_append.1 member with before | last
    · exact kept (stage.parts candidate before part inBody partIsPhrase)
    · rw [List.mem_singleton.1 last] at inBody
      exact .inl (List.mem_append_left _ inBody)

/-- When nothing is left on the agenda, all needed symbols are settled. -/
theorem Stage.settled (stage : Stage grammar [] unexpanded expanded) {symbol : Symbol}
    (needed : grammar.Needed symbol) : Settled grammar unexpanded symbol := by
  have settled_of_tended : ∀ {other : Symbol}, Tended grammar [] unexpanded other →
      Settled grammar unexpanded other := by
    rintro other (impossible | settled)
    · exact absurd impossible List.not_mem_nil
    · exact settled
  induction needed with
  | root => exact settled_of_tended stage.root
  | @part symbol part production needed listed inBody isPhrase inductionHypothesis =>
    obtain ⟨isListed, isHead⟩ := mem_productionsOf.1 listed
    have isExpanded : production ∈ expanded := by
      rcases List.mem_append.1 (stage.parted.mem_iff.2 isListed) with done | notDone
      · exact done
      · exact absurd isHead (inductionHypothesis.expanded production notDone)
    exact settled_of_tended (stage.parts production isExpanded part inBody isPhrase)

/-! ## What a walk finds -/

/-- What a walk that finds a symbol, or none, says about the grammar. -/
def Verdict (grammar : Grammar) : Option Symbol → Prop
  | none => ∀ symbol, grammar.Needed symbol → grammar.productionsOf symbol ≠ []
  | some symbol => grammar.Needed symbol ∧ grammar.productionsOf symbol = []

theorem Walk.verdict {earlier : List Production}
    (walk : grammar.Walk agenda unexpanded expanded found)
    (stage : Stage grammar agenda unexpanded earlier) : grammar.Verdict found := by
  induction walk generalizing earlier with
  | done unexpanded => exact fun symbol needed => (stage.settled needed).productive
  | missing isPhrase unproductive =>
    exact ⟨stage.needed _ List.mem_cons_self isPhrase, unproductive⟩
  | terminal notPhrase rest inductionHypothesis =>
    refine inductionHypothesis (stage.leave fun isPhrase => ?_)
    rw [notPhrase] at isPhrase
    exact nomatch isPhrase
  | settled isPhrase productive exhausted rest inductionHypothesis =>
    refine inductionHypothesis (stage.leave fun _ => ?_)
    exact ⟨productive, takeProduction?_eq_none_iff.1 exhausted⟩
  | expand isPhrase productive taken rest inductionHypothesis =>
    exact inductionHypothesis (stage.expand isPhrase taken)

end Walking

/-! ## The check of a grammar -/

/-- The check of a grammar is a walk, which expands the productions of every head in their order and
each at most once. It finds nothing exactly if every needed symbol has a production; otherwise it
reports a needed phrase symbol that has none, under its name. -/
theorem walk_finds_needed_unproductive (grammar : Grammar) :
    (∃ expanded, grammar.Walk [.root] grammar.productions.toList expanded
        (grammar.missingRule?.map MissingRule.symbol) ∧
      ∀ head, (expanded.filter fun production => production.head = head) <+:
        grammar.productionsOf head) ∧
    (grammar.missingRule? = none ↔
      ∀ symbol, grammar.Needed symbol → grammar.productionsOf symbol ≠ []) ∧
    ∀ missing, grammar.missingRule? = some missing →
      missing.symbol.isPhrase = true ∧ grammar.Needed missing.symbol ∧
        grammar.productionsOf missing.symbol = [] ∧
        missing.name = grammar.categoryName missing.symbol := by
  obtain ⟨expanded, walk⟩ := grammar.exists_walk [.root] grammar.productions.toList
  have verdict := walk.verdict grammar.stage_root
  have symbols : grammar.missingRule?.map MissingRule.symbol =
      grammar.firstMissing? [.root] grammar.productions.toList := by
    simp [missingRule?, Function.comp_def]
  refine ⟨⟨expanded, symbols ▸ walk, walk.headed_prefix⟩, ?_⟩
  unfold missingRule?
  cases result : grammar.firstMissing? [.root] grammar.productions.toList with
  | none =>
    rw [result] at verdict
    exact ⟨⟨fun _ => verdict, fun _ => rfl⟩, fun missing impossible => nomatch impossible⟩
  | some symbol =>
    rw [result] at verdict
    obtain ⟨needed, unproductive⟩ := verdict
    refine ⟨⟨fun impossible => ?_, fun productive => ?_⟩, ?_⟩
    · exact nomatch impossible
    · exact absurd unproductive (productive symbol needed)
    · intro missing isMissing
      obtain rfl := Option.some.inj isMissing
      exact ⟨needed.isPhrase, needed, unproductive, rfl⟩

end ChartParsing.Grammar
