import ChartParsing.Proofs.Derivation
import ChartParsing.Proofs.Lists
import Mathlib.Logic.Relation

/-!
Contract: rewriting symbols to words.

Owns derivations as grammars are usually read: one step replaces a symbol somewhere in a string of
symbols and words. Owns also that this comes to the same as derivations over spans of a sentence: the
symbols of a derivation are rewritten to the words of its span, and symbols that are rewritten to the
words of a sentence have a derivation over the sentence.
-/

set_option autoImplicit false

namespace ChartParsing

/-- A part of a string that is being rewritten: a symbol, or a word that a symbol was replaced by. -/
inductive FormPart where
  | symbol (symbol : Symbol)
  | word (text : String)

namespace Grammar

variable {grammar : Grammar}

/-- What a symbol may be replaced by. -/
inductive Replaces (grammar : Grammar) : Symbol → List FormPart → Prop where
  | production {production : Production} (isPhrase : production.head.isPhrase = true)
      (listed : production ∈ grammar.productionsOf production.head) :
      Replaces grammar production.head (production.body.map .symbol)
  /-- A terminal is replaced by a word of its category, that of unknown words by any word. -/
  | word {symbol : Symbol} (text : String) (isTerminal : symbol.isTerminal = true)
      (fits : grammar.wordCategory text = symbol ∨ symbol = .unknown) :
      Replaces grammar symbol [.word text]
  | nothing : Replaces grammar .empty []

/-- One symbol is replaced, in its place. -/
inductive Rewrites (grammar : Grammar) : List FormPart → List FormPart → Prop where
  | replace (before after : List FormPart) {symbol : Symbol} {parts : List FormPart}
      (replaces : grammar.Replaces symbol parts) :
      Rewrites grammar (before ++ .symbol symbol :: after) (before ++ (parts ++ after))

/-- Replacing symbols one after the other leads from one form to another. -/
def Derives (grammar : Grammar) : List FormPart → List FormPart → Prop :=
  Relation.ReflTransGen grammar.Rewrites

/-! ## Rewriting within a context -/

theorem Rewrites.context {form other : List FormPart} (rewrites : grammar.Rewrites form other)
    (before after : List FormPart) :
    grammar.Rewrites (before ++ (form ++ after)) (before ++ (other ++ after)) := by
  cases rewrites with
  | replace left right replaces =>
    have step := Rewrites.replace (before ++ left) (right ++ after) replaces
    simpa only [List.append_assoc, List.cons_append] using step

namespace Derives

theorem refl (form : List FormPart) : grammar.Derives form form :=
  Relation.ReflTransGen.refl

theorem trans {form middle other : List FormPart} (first : grammar.Derives form middle)
    (second : grammar.Derives middle other) : grammar.Derives form other :=
  Relation.ReflTransGen.trans first second

theorem context {form other : List FormPart} (derives : grammar.Derives form other)
    (before after : List FormPart) :
    grammar.Derives (before ++ (form ++ after)) (before ++ (other ++ after)) := by
  induction derives with
  | refl => exact .refl _
  | tail _ rewrites inductionHypothesis =>
    exact inductionHypothesis.tail (rewrites.context before after)

theorem append {form form' other other' : List FormPart} (first : grammar.Derives form form')
    (second : grammar.Derives other other') : grammar.Derives (form ++ other) (form' ++ other') := by
  have left := first.context [] other
  have right := second.context form' []
  rw [List.nil_append, List.nil_append] at left
  rw [List.append_nil, List.append_nil] at right
  exact left.trans right

theorem of_replaces {symbol : Symbol} {parts : List FormPart}
    (replaces : grammar.Replaces symbol parts) : grammar.Derives [.symbol symbol] parts := by
  have step := Rewrites.replace [] [] replaces
  rw [List.nil_append, List.nil_append, List.append_nil] at step
  exact Relation.ReflTransGen.single step

end Derives

end Grammar

/-! ## Derivations over spans -/

section Spans

variable {grammar : Grammar} {words : List String}

/-- The symbols of a derivation are rewritten to the words of its span. -/
theorem Derivation.derives {symbols : List Symbol} {start stop : Nat}
    (derivation : Derivation grammar words symbols start stop) :
    grammar.Derives (symbols.map .symbol) ((words.extract start stop).map .word) := by
  induction derivation with
  | done position =>
    rw [extract_self]
    exact .refl []
  | @word symbol rest start stop text isTerminal stands fits others inductionHypothesis =>
    rw [← extract_append words (Nat.le_succ start) others.start_le_stop, extract_singleton stands]
    exact (Grammar.Derives.of_replaces (.word text isTerminal fits)).append inductionHypothesis
  | nothing others inductionHypothesis =>
    exact (Grammar.Derives.of_replaces .nothing).append inductionHypothesis
  | phrase production isPhrase listed parts others first second =>
    rw [← extract_append words parts.start_le_stop others.start_le_stop, List.map_append]
    exact ((Grammar.Derives.of_replaces (.production isPhrase listed)).trans first).append second

/-- A form covers a span: its words stand there, and each of its symbols has a derivation between. -/
def Covers (grammar : Grammar) (words : List String) : List FormPart → Nat → Nat → Prop
  | [], start, stop => start = stop
  | .word text :: others, start, stop =>
    words[start]? = some text ∧ Covers grammar words others (start + 1) stop
  | .symbol symbol :: others, start, stop =>
    ∃ middle, Nonempty (Derivation grammar words [symbol] start middle) ∧
      Covers grammar words others middle stop

theorem covers_append {first second : List FormPart} {start stop : Nat} :
    Covers grammar words (first ++ second) start stop ↔
      ∃ middle, Covers grammar words first start middle ∧
        Covers grammar words second middle stop := by
  induction first generalizing start with
  | nil => simp [Covers]
  | cons part others inductionHypothesis =>
    cases part with
    | word text =>
      simp only [List.cons_append, Covers, inductionHypothesis, and_assoc, exists_and_left]
    | symbol symbol =>
      simp only [List.cons_append, Covers, inductionHypothesis]
      constructor
      · rintro ⟨next, derivation, middle, left, right⟩
        exact ⟨middle, ⟨next, derivation, left⟩, right⟩
      · rintro ⟨middle, ⟨next, derivation, left⟩, right⟩
        exact ⟨next, derivation, middle, left, right⟩

theorem covers_symbols {symbols : List Symbol} {start stop : Nat}
    (covers : Covers grammar words (symbols.map .symbol) start stop) :
    Nonempty (Derivation grammar words symbols start stop) := by
  induction symbols generalizing start with
  | nil =>
    obtain rfl : start = stop := covers
    exact ⟨.done start⟩
  | cons symbol others inductionHypothesis =>
    obtain ⟨middle, ⟨first⟩, further⟩ := covers
    obtain ⟨second⟩ := inductionHypothesis further
    exact ⟨first.append second⟩

theorem covers_words (front back : List String) :
    Covers grammar (front ++ back) (back.map .word) front.length (front ++ back).length := by
  induction back generalizing front with
  | nil => simp [Covers]
  | cons text others inductionHypothesis =>
    have further := inductionHypothesis (front ++ [text])
    rw [List.append_assoc, List.length_append, List.length_singleton] at further
    exact ⟨by simp, further⟩

/-- What a symbol is replaced by covers a span only if the symbol has a derivation over it. -/
theorem Grammar.Replaces.nonempty {symbol : Symbol} {parts : List FormPart} {start stop : Nat}
    (replaces : grammar.Replaces symbol parts) (covers : Covers grammar words parts start stop) :
    Nonempty (Derivation grammar words [symbol] start stop) := by
  cases replaces with
  | production isPhrase listed =>
    obtain ⟨parts⟩ := covers_symbols covers
    exact ⟨.phrase _ isPhrase listed parts (.done stop)⟩
  | word text isTerminal fits =>
    obtain ⟨stands, rfl⟩ := covers
    exact ⟨.word text isTerminal stands fits (.done _)⟩
  | nothing =>
    obtain rfl : start = stop := covers
    exact ⟨.nothing (.done start)⟩

theorem Grammar.Rewrites.covers {form other : List FormPart} {start stop : Nat}
    (rewrites : grammar.Rewrites form other) (covers : Covers grammar words other start stop) :
    Covers grammar words form start stop := by
  cases rewrites with
  | replace before after replaces =>
    obtain ⟨left, coversBefore, covers⟩ := covers_append.1 covers
    obtain ⟨right, coversParts, coversAfter⟩ := covers_append.1 covers
    exact covers_append.2 ⟨left, coversBefore, right, replaces.nonempty coversParts, coversAfter⟩

theorem Grammar.Derives.covers {form other : List FormPart} {start stop : Nat}
    (derives : grammar.Derives form other) (covers : Covers grammar words other start stop) :
    Covers grammar words form start stop := by
  -- The span is covered from the end of the rewriting backwards.
  induction derives using Relation.ReflTransGen.head_induction_on with
  | refl => exact covers
  | head rewrites _ inductionHypothesis => exact rewrites.covers inductionHypothesis

/-- Symbols can be rewritten to the words of a sentence exactly if they have a derivation over it. -/
theorem derives_words_iff {symbols : List Symbol} :
    grammar.Derives (symbols.map .symbol) (words.map .word) ↔
      Nonempty (Derivation grammar words symbols 0 words.length) := by
  constructor
  · intro derives
    exact covers_symbols (derives.covers (covers_words [] words))
  · rintro ⟨derivation⟩
    have derives := derivation.derives
    rwa [extract_zero, List.take_length] at derives

end Spans

end ChartParsing
