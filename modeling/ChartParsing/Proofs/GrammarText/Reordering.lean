import ChartParsing.Proofs.Grammar.Meaning
import ChartParsing.Proofs.Lists

/-!
Contract: grammar texts whose lines come in another order.

Owns the lines of a text that say something, and the reorderings of such lines that keep those of one
head in order, and all lexicon lines. Reordered lines can be read together or not at all, and mean the
same: they name the same symbols, give every head the same alternatives in the same order, and put
every word into the same category.
-/

set_option autoImplicit false

namespace ChartParsing.GrammarText

open ChartParsing.Text

/-! ## Lines that say something -/

/-- The lines of a text that say something, without the white space at their ends. -/
def significantLines (text : List Char) : List (List Char) :=
  ((Text.lines text).map trim).filter isSignificant

def lineOf? (text : List Char) : Option Line :=
  match readLine text with
  | .ok line => some line
  | .error _ => none

/-- The name that a line of text makes a symbol of a kind. -/
def nameOf? (kind : SymbolKind) (text : List Char) : Option String :=
  (lineOf? text).bind (Line.named kind)

/-- Lines of text in another order, which keeps the rule lines of every head in order, and the lexicon
lines. -/
structure Reordered (first second : List (List Char)) : Prop where
  perm : first.Perm second
  rules : ∀ head, (first.filter fun text => nameOf? .phrase text = some head) =
    second.filter fun text => nameOf? .phrase text = some head
  lexicon : (first.filter fun text => (nameOf? .terminal text).isSome) =
    second.filter fun text => (nameOf? .terminal text).isSome

theorem Reordered.symm {first second : List (List Char)} (reordered : Reordered first second) :
    Reordered second first :=
  ⟨reordered.perm.symm, fun head => (reordered.rules head).symm, reordered.lexicon.symm⟩

theorem lineOf?_eq_some_iff {text : List Char} {line : Line} :
    lineOf? text = some line ↔ readLine text = .ok line := by
  unfold lineOf?
  cases readLine text with
  | ok other => rw [Option.some.injEq, Except.ok.injEq]
  | error rest => exact iff_of_false nofun nofun

/-- A line that says something is read first, and the others after it. -/
theorem readNumbered_cons_iff {number : Nat} {raw : List Char} {others : List (Nat × List Char)}
    {lines : List NumberedLine} (significant : isSignificant (trim raw) = true) :
    readNumbered ((number, raw) :: others) = .ok lines ↔
      ∃ line more, lineOf? (trim raw) = some line ∧ readNumbered others = .ok more ∧
        lines = ⟨number, line⟩ :: more := by
  rw [readNumbered, if_pos significant]
  simp only [lineOf?_eq_some_iff]
  cases readLine (trim raw) with
  | error rest => exact iff_of_false nofun nofun
  | ok line =>
    cases readNumbered others with
    | error fault => exact iff_of_false nofun nofun
    | ok more => simp [eq_comm]

theorem readNumbered_iff (numbered : List (Nat × List Char)) (said : List Line) :
    (∃ lines, readNumbered numbered = .ok lines ∧ lines.map NumberedLine.line = said) ↔
      ((numbered.map fun entry => trim entry.2).filter isSignificant).map lineOf? =
        said.map some := by
  induction numbered generalizing said with
  | nil =>
    constructor
    · rintro ⟨lines, read, rfl⟩
      obtain rfl := Except.ok.inj read
      rfl
    · intro nothing
      obtain rfl := List.map_eq_nil_iff.1 nothing.symm
      exact ⟨[], rfl, rfl⟩
  | cons entry others inductionHypothesis =>
    obtain ⟨number, raw⟩ := entry
    rw [List.map_cons, List.filter_cons]
    by_cases significant : isSignificant (trim raw) = true
    · rw [if_pos significant, List.map_cons]
      simp only [readNumbered_cons_iff significant]
      constructor
      · rintro ⟨lines, ⟨line, more, read, further, rfl⟩, rfl⟩
        rw [(inductionHypothesis _).1 ⟨more, further, rfl⟩, read]
        rfl
      · intro same
        cases said with
        | nil => exact nomatch same
        | cons line rest =>
          obtain ⟨read, same⟩ := List.cons.inj same
          obtain ⟨more, further, rfl⟩ := (inductionHypothesis rest).2 same
          exact ⟨_, ⟨line, more, read, further, rfl⟩, rfl⟩
    · rw [if_neg significant, readNumbered, if_neg significant]
      exact inductionHypothesis said

/-- A text is read as the lines that its significant lines are read as. -/
theorem readDocument_iff (text : List Char) (said : List Line) :
    (∃ lines, readDocument text = .ok lines ∧ lines.map NumberedLine.line = said) ↔
      (significantLines text).map lineOf? = said.map some := by
  have unnumbered : (numberedLines text).map (fun entry => trim entry.2) =
      (Text.lines text).map trim := by
    rw [numberedLines, List.map_map]
    change ((Text.lines text).zipIdx 1).map (trim ∘ Prod.fst) = _
    rw [← List.map_map, List.zipIdx_map_fst]
  rw [readDocument, readNumbered_iff, unnumbered, significantLines]

/-! ## Reordered lines -/

/-- Lines in another order, which keeps the rule lines of every head in order, and the lexicon
lines. -/
structure LinesReordered (lines others : List Line) : Prop where
  perm : lines.Perm others
  rules : ∀ head, (lines.filter fun line => line.named .phrase = some head) =
    others.filter fun line => line.named .phrase = some head
  lexicon : (lines.filter fun line => (line.named .terminal).isSome) =
    others.filter fun line => (line.named .terminal).isSome

theorem filter_filterMap_lineOf? (texts : List (List Char)) (kind : SymbolKind)
    (keep : Option String → Bool) (onlyNamed : keep none = false) :
    ((texts.filterMap lineOf?).filter fun line => keep (line.named kind)) =
      (texts.filter fun text => keep (nameOf? kind text)).filterMap lineOf? := by
  induction texts with
  | nil => rfl
  | cons text others inductionHypothesis =>
    rw [List.filterMap_cons, List.filter_cons]
    cases read : lineOf? text with
    | none =>
      rw [inductionHypothesis, show nameOf? kind text = none by simp [nameOf?, read], onlyNamed]
      rfl
    | some line =>
      rw [show nameOf? kind text = line.named kind by simp [nameOf?, read]]
      dsimp only
      rw [List.filter_cons, inductionHypothesis]
      cases keep (line.named kind) with
      | false => rfl
      | true => simp [read]

/-- Lines of text that can be read are read as reordered lines when they are reordered. -/
theorem Reordered.exists_lines {first second : List (List Char)} (reordered : Reordered first second)
    {said : List Line} (read : first.map lineOf? = said.map some) :
    ∃ others, second.map lineOf? = others.map some ∧ LinesReordered said others := by
  obtain rfl : first.filterMap lineOf? = said := by
    have found := congrArg (List.filterMap id) read
    simpa [List.filterMap_map] using found
  refine ⟨second.filterMap lineOf?, ?_, reordered.perm.filterMap lineOf?, fun head => ?_, ?_⟩
  · rw [List.map_filterMap_some_eq_filter_map_isSome, List.filter_eq_self.2]
    intro line listed
    have member := (reordered.perm.map lineOf?).mem_iff.2 listed
    rw [read] at member
    obtain ⟨_, _, rfl⟩ := List.mem_map.1 member
    rfl
  · rw [filter_filterMap_lineOf? first .phrase (fun name => name = some head) (by simp),
      filter_filterMap_lineOf? second .phrase (fun name => name = some head) (by simp),
      reordered.rules head]
  · rw [filter_filterMap_lineOf? first .terminal Option.isSome rfl,
      filter_filterMap_lineOf? second .terminal Option.isSome rfl, reordered.lexicon]

/-! ## What the lines mean -/

/-- Lines mean the same, apart from their numbers. -/
structure SameMeaning (lines others : List NumberedLine) : Prop where
  named : ∀ kind name, name ∈ named lines kind ↔ name ∈ named others kind
  bodies : ∀ name, name ∈ bodyNames lines ↔ name ∈ bodyNames others
  alternatives : ∀ head, alternativesOf lines head = alternativesOf others head
  categories : ∀ word, categoryOf? (entries lines) word = categoryOf? (entries others) word

/-- The words of a lexicon line, each with its category. -/
def Line.listed : Line → List (String × String)
  | .lexicon category words => words.map fun word => (category, word)
  | .rule _ _ => []

theorem named_eq (lines : List NumberedLine) (kind : SymbolKind) :
    named lines kind = (lines.map NumberedLine.line).filterMap (Line.named kind) := by
  rw [List.filterMap_map]
  rfl

theorem said_eq (lines : List NumberedLine) :
    said lines = (lines.map NumberedLine.line).flatMap Line.said := by
  rw [List.flatMap_map]
  rfl

/-- Only the rule lines of a head say something about it. -/
theorem filter_said (lines : List Line) (head : String) :
    ((lines.flatMap Line.said).filter fun pair => pair.1 = head) =
      (lines.filter fun line => line.named .phrase = some head).flatMap Line.said := by
  induction lines with
  | nil => rfl
  | cons line others inductionHypothesis =>
    rw [List.flatMap_cons, List.filter_append, inductionHypothesis, List.filter_cons]
    cases line with
    | lexicon category words => simp [Line.said, Line.named]
    | rule first alternatives =>
      by_cases same : first = head
      · subst same
        simp [Line.said, Line.named, List.filter_map, Function.comp_def]
      · simp [Line.said, Line.named, List.filter_map, Function.comp_def, same]

/-- Only lexicon lines list words. -/
theorem flatMap_listed (lines : List Line) :
    lines.flatMap Line.listed =
      (lines.filter fun line => (line.named .terminal).isSome).flatMap Line.listed := by
  induction lines with
  | nil => rfl
  | cons line others inductionHypothesis =>
    rw [List.flatMap_cons, inductionHypothesis, List.filter_cons]
    cases line with
    | lexicon category words => simp [Line.named]
    | rule head alternatives => simp [Line.named, Line.listed]

theorem categoryOf?_eq (lines : List NumberedLine) (word : String) :
    categoryOf? (entries lines) word =
      (((((lines.map NumberedLine.line).flatMap Line.listed).filter fun pair =>
        pair.2 = word).getLast?).map Prod.fst) := by
  have listed : (entries lines).map (fun entry => (entry.category, entry.word)) =
      (lines.map NumberedLine.line).flatMap Line.listed := by
    rw [entries, List.map_flatMap, List.flatMap_map]
    refine congrArg (lines.flatMap ·) (funext fun numbered => ?_)
    obtain ⟨number, line⟩ := numbered
    cases line with
    | lexicon category words => simp [NumberedLine.entries, Line.listed]
    | rule head alternatives => rfl
  rw [← listed, List.filter_map, List.getLast?_map, Option.map_map]
  rfl

/-- Reordered lines mean the same. -/
theorem LinesReordered.sameMeaning {lines others : List NumberedLine}
    (reordered : LinesReordered (lines.map NumberedLine.line) (others.map NumberedLine.line)) :
    SameMeaning lines others where
  named := by
    intro kind name
    rw [named_eq, named_eq]
    exact (reordered.perm.filterMap _).mem_iff
  bodies := by
    intro name
    rw [bodyNames, bodyNames, said_eq, said_eq]
    exact ((reordered.perm.flatMap_right _).flatMap_right _).mem_iff
  alternatives := by
    intro head
    rw [alternativesOf, alternativesOf, said_eq, said_eq, filter_said, filter_said,
      reordered.rules head]
  categories := by
    intro word
    rw [categoryOf?_eq, categoryOf?_eq, flatMap_listed, reordered.lexicon, ← flatMap_listed]

theorem contradictory_iff_named {lines : List NumberedLine} :
    Contradictory lines ↔ "ROOT" ∈ named lines .terminal ∨
      ∃ head ∈ named lines .phrase, head ∈ lexicalNames lines := by
  unfold named
  simp only [List.mem_filterMap]
  refine or_congr ⟨?_, ?_⟩ ⟨?_, ?_⟩
  · rintro ⟨number, words, member⟩
    exact ⟨_, member, rfl⟩
  · rintro ⟨⟨number, line⟩, member, isNamed⟩
    obtain ⟨words, rfl⟩ := Line.named_terminal_iff.1 isNamed
    exact ⟨number, words, member⟩
  · rintro ⟨number, head, alternatives, member, lexical⟩
    exact ⟨head, ⟨_, member, rfl⟩, lexical⟩
  · rintro ⟨head, ⟨⟨number, line⟩, member, isNamed⟩, lexical⟩
    obtain ⟨alternatives, rfl⟩ := Line.named_phrase_iff.1 isNamed
    exact ⟨number, head, alternatives, member, lexical⟩

namespace SameMeaning

variable {lines others : List NumberedLine} (same : SameMeaning lines others)

include same

theorem mem_lexicalNames_iff (name : String) :
    name ∈ lexicalNames lines ↔ name ∈ lexicalNames others := by
  rw [mem_lexicalNames, mem_lexicalNames, same.named]

theorem mem_symbolNames_iff (kind : SymbolKind) (name : String) :
    name ∈ symbolNames lines kind ↔ name ∈ symbolNames others kind := by
  cases kind with
  | terminal => exact same.mem_lexicalNames_iff name
  | phrase =>
    rw [mem_phraseNames, mem_phraseNames, same.named, same.bodies, same.mem_lexicalNames_iff]

theorem contradictory_iff : Contradictory lines ↔ Contradictory others := by
  rw [contradictory_iff_named, contradictory_iff_named, same.named]
  simp only [same.named, same.mem_lexicalNames_iff]

end SameMeaning

end ChartParsing.GrammarText
