import ChartParsing.Proofs.Sentence.Tokens

/-!
Contract: where the tokens of a text stand in it.

Owns the cutting of a text as a relation, apart from how it is done: a text is made of blanks,
punctuation characters, and runs of other characters that do not go on behind their end. The tokens of
a text are those of its only cutting. From this follows that nothing but the blanks is lost, that every
longest run is one token, and that the text of the tokens, spaced, has the same tokens.
-/

set_option autoImplicit false

namespace ChartParsing.Sentence

open ChartParsing.Text

/-! ## Cuttings -/

structure IsRun (run : List Char) : Prop where
  nonempty : run ≠ []
  plain : ∀ character ∈ run, IsPlain character

/-- A text does not begin with a plain character. -/
def BeginsApart (text : List Char) : Prop :=
  ∀ character ∈ text.head?, ¬ IsPlain character

/-- A text does not end with a plain character. -/
def EndsApart (text : List Char) : Prop :=
  ∀ character ∈ text.getLast?, ¬ IsPlain character

/-- A text is cut into words. -/
inductive Cuts : List Char → List String → Prop where
  | nothing : Cuts [] []
  | blank {character : Char} {rest : List Char} {words : List String}
      (isBlank : isBlank character = true) (others : Cuts rest words) :
      Cuts (character :: rest) words
  | mark {character : Char} {rest : List Char} {words : List String}
      (isMark : isPunctuation character = true) (others : Cuts rest words) :
      Cuts (character :: rest) (String.ofList [character] :: words)
  | run {run rest : List Char} {words : List String} (isRun : IsRun run) (apart : BeginsApart rest)
      (others : Cuts rest words) : Cuts (run ++ rest) (String.ofList run :: words)

section Characters

variable {character : Char} {text : List Char}

theorem not_isPlain_of_isBlank (blank : isBlank character = true) : ¬ IsPlain character :=
  fun plain => Bool.false_ne_true (plain.1.symm.trans blank)

theorem not_isPlain_of_isPunctuation (mark : isPunctuation character = true) :
    ¬ IsPlain character :=
  fun plain => Bool.false_ne_true (plain.2.symm.trans mark)

theorem beginsApart_nil : BeginsApart [] :=
  fun _ impossible => nomatch impossible

theorem beginsApart_cons (apart : ¬ IsPlain character) : BeginsApart (character :: text) := by
  intro first same
  rwa [← Option.some.inj same]

theorem beginsApart_append {first second : List Char} (begins : BeginsApart first)
    (nothing : first = [] → BeginsApart second) : BeginsApart (first ++ second) := by
  cases first with
  | nil => exact nothing rfl
  | cons character others => exact begins

theorem BeginsApart.of_append {first second : List Char} (begins : BeginsApart (first ++ second)) :
    BeginsApart first := by
  cases first with
  | nil => exact beginsApart_nil
  | cons character others => exact begins

theorem endsApart_nil : EndsApart [] :=
  fun _ impossible => nomatch impossible

theorem endsApart_append {first second : List Char} (ends : EndsApart second)
    (nothing : second = [] → EndsApart first) : EndsApart (first ++ second) := by
  intro last same
  rw [List.getLast?_append] at same
  cases behind : second.getLast? with
  | none =>
    rw [behind] at same
    exact nothing (List.getLast?_eq_none_iff.1 behind) last same
  | some character =>
    rw [behind] at same
    exact ends last (behind.trans same)

theorem EndsApart.of_append {first second : List Char} (ends : EndsApart (first ++ second)) :
    EndsApart second := by
  intro last same
  apply ends last
  rw [List.getLast?_append, show second.getLast? = some last from same]
  rfl

theorem endsApart_cons (apart : ¬ IsPlain character) (ends : EndsApart text) :
    EndsApart (character :: text) := by
  have alone : EndsApart [character] := by
    intro last same
    rwa [← Option.some.inj same]
  exact endsApart_append ends fun _ => alone

theorem EndsApart.of_cons (ends : EndsApart (character :: text)) : EndsApart text := by
  have split : character :: text = [character] ++ text := rfl
  rw [split] at ends
  exact ends.of_append

theorem IsRun.not_beginsApart {run rest : List Char} (isRun : IsRun run) :
    ¬ BeginsApart (run ++ rest) := by
  obtain ⟨first, others, rfl⟩ := List.exists_cons_of_ne_nil isRun.nonempty
  intro apart
  exact apart first rfl (isRun.plain first List.mem_cons_self)

theorem IsRun.not_endsApart {run : List Char} (isRun : IsRun run) : ¬ EndsApart run := by
  intro apart
  have last := List.getLast?_eq_some_getLast isRun.nonempty
  exact apart _ last (isRun.plain _ (List.getLast_mem isRun.nonempty))

end Characters

/-! ## The only cutting -/

section Cutting

variable {current text rest : List Char} {words : List String}

theorem Cuts.collected (plain : ∀ character ∈ current, IsPlain character)
    (apart : BeginsApart rest) (others : Cuts rest words) :
    Cuts (current.reverse ++ rest) (Sentence.collected current ++ words) := by
  cases current with
  | nil => exact others
  | cons newest older =>
    refine .run ⟨?_, ?_⟩ apart others
    · exact List.reverse_ne_nil_iff.2 (List.cons_ne_nil newest older)
    · exact fun character member => plain character (List.mem_reverse.1 member)

theorem cuts_tokensFrom (plain : ∀ character ∈ current, IsPlain character) :
    Cuts (current.reverse ++ text) (tokensFrom current text) := by
  induction text generalizing current with
  | nil =>
    have cut := Cuts.collected plain beginsApart_nil .nothing
    rwa [List.append_nil (Sentence.collected current)] at cut
  | cons character rest inductionHypothesis =>
    have others : Cuts rest (tokensFrom [] rest) :=
      inductionHypothesis fun _ absent => absurd absent List.not_mem_nil
    unfold tokensFrom
    split
    case isTrue isBlank =>
      exact .collected plain (beginsApart_cons (not_isPlain_of_isBlank isBlank))
        (.blank isBlank others)
    case isFalse notBlank =>
      split
      case isTrue isMark =>
        exact .collected plain (beginsApart_cons (not_isPlain_of_isPunctuation isMark))
          (.mark isMark others)
      case isFalse notMark =>
        have longer : ∀ other ∈ character :: current, IsPlain other := by
          intro other member
          rcases List.mem_cons.1 member with rfl | earlier
          · exact ⟨Bool.eq_false_iff.2 notBlank, Bool.eq_false_iff.2 notMark⟩
          · exact plain other earlier
        have cut := inductionHypothesis longer
        rwa [List.reverse_cons, List.append_assoc] at cut

theorem cuts_tokens (text : List Char) : Cuts text (tokensFrom [] text) :=
  cuts_tokensFrom fun _ absent => absurd absent List.not_mem_nil

theorem tokensFrom_append_of_plain (plain : ∀ character ∈ text, IsPlain character)
    (current rest : List Char) :
    tokensFrom current (text ++ rest) = tokensFrom (text.reverse ++ current) rest := by
  induction text generalizing current with
  | nil => rfl
  | cons character others inductionHypothesis =>
    obtain ⟨⟨notBlank, notMark⟩, plainOthers⟩ := List.forall_mem_cons.1 plain
    rw [List.cons_append, tokensFrom, if_neg (by simp [notBlank]), if_neg (by simp [notMark]),
      inductionHypothesis plainOthers, List.reverse_cons, List.append_assoc]
    rfl

theorem tokensFrom_of_beginsApart (apart : BeginsApart rest) (current : List Char) :
    tokensFrom current rest = Sentence.collected current ++ tokensFrom [] rest := by
  cases rest with
  | nil => simp [tokensFrom, Sentence.collected]
  | cons character others =>
    by_cases blank : isBlank character = true
    · simp [tokensFrom, blank, Sentence.collected]
    by_cases mark : isPunctuation character = true
    · simp [tokensFrom, blank, mark, Sentence.collected]
    · have plain : IsPlain character := ⟨Bool.eq_false_iff.2 blank, Bool.eq_false_iff.2 mark⟩
      exact absurd plain (apart character rfl)

theorem IsRun.collected_reverse {run : List Char} (isRun : IsRun run) :
    Sentence.collected run.reverse = [String.ofList run] := by
  cases reversed : run.reverse with
  | nil => exact absurd (List.reverse_eq_nil_iff.1 reversed) isRun.nonempty
  | cons newest older =>
    rw [Sentence.collected, ← reversed, List.reverse_reverse]

theorem Cuts.tokens_eq (cuts : Cuts text words) : tokensFrom [] text = words := by
  induction cuts with
  | nothing => rfl
  | blank isBlank others inductionHypothesis =>
    rw [tokensFrom, if_pos isBlank, inductionHypothesis]
    rfl
  | mark isMark others inductionHypothesis =>
    have notBlank := isBlank_of_isPunctuation isMark
    rw [tokensFrom, if_neg (by simp [notBlank]), if_pos isMark, inductionHypothesis]
    rfl
  | run isRun apart others inductionHypothesis =>
    rw [tokensFrom_append_of_plain isRun.plain, List.append_nil, tokensFrom_of_beginsApart apart,
      isRun.collected_reverse, inductionHypothesis]
    rfl

theorem cuts_iff : Cuts text words ↔ tokensFrom [] text = words := by
  constructor
  · exact Cuts.tokens_eq
  · rintro rfl
    exact cuts_tokens text

end Cutting

/-! ## What a cutting says -/

section Consequences

variable {text first second : List Char} {words more : List String}

/-- Nothing but the blanks is lost. -/
theorem Cuts.flatMap_toList (cuts : Cuts text words) :
    words.flatMap String.toList = text.filter fun character => !isBlank character := by
  induction cuts with
  | nothing => rfl
  | blank isBlank others inductionHypothesis =>
    rw [inductionHypothesis, List.filter_cons_of_neg (by simp [isBlank])]
  | mark isMark others inductionHypothesis =>
    have notBlank := isBlank_of_isPunctuation isMark
    rw [List.flatMap_cons, inductionHypothesis, String.toList_ofList,
      List.filter_cons_of_pos (by simp [notBlank])]
    rfl
  | run isRun apart others inductionHypothesis =>
    have kept : ∀ character ∈ _, (!isBlank character) = true :=
      fun character member => by rw [(isRun.plain character member).1]; rfl
    rw [List.flatMap_cons, inductionHypothesis, String.toList_ofList, List.filter_append,
      List.filter_eq_self.2 kept]

/-- Cuttings are joined where no run goes on from one text into the other. -/
theorem Cuts.append (cuts : Cuts first words) (others : Cuts second more)
    (apart : EndsApart first ∨ BeginsApart second) : Cuts (first ++ second) (words ++ more) := by
  induction cuts with
  | nothing => exact others
  | blank isBlank _ inductionHypothesis =>
    exact .blank isBlank (inductionHypothesis (apart.imp_left EndsApart.of_cons))
  | mark isMark _ inductionHypothesis =>
    exact .mark isMark (inductionHypothesis (apart.imp_left EndsApart.of_cons))
  | @run run rest words isRun begins _ inductionHypothesis =>
    have ahead : BeginsApart (rest ++ second) := by
      refine beginsApart_append begins ?_
      rintro rfl
      rcases apart with ends | behind
      · rw [List.append_nil] at ends
        exact absurd ends isRun.not_endsApart
      · exact behind
    rw [List.append_assoc]
    exact .run isRun ahead (inductionHypothesis (apart.imp_left EndsApart.of_append))

/-- Where a word stands in a text: between two parts that are cut into the words before it and behind
it. A word that is no punctuation character is a run that goes on at neither end. -/
structure StandsBetween (text : List Char) (earlier : List String) (word : String)
    (later : List String) (before after : List Char) : Prop where
  split : text = before ++ (word.toList ++ after)
  earlier : Cuts before earlier
  later : Cuts after later
  form : (∃ mark, isPunctuation mark = true ∧ word = String.ofList [mark]) ∨
    IsRun word.toList ∧ EndsApart before ∧ BeginsApart after

/-- A word stands where it did when something is put in front of the text, unless a run then goes on
into it. -/
theorem StandsBetween.behind {earlier more later : List String} {word : String}
    {before after : List Char} (front : List Char)
    (stands : StandsBetween text earlier word later before after)
    (cuts : Cuts (front ++ before) more)
    (apart : IsRun word.toList → EndsApart before → EndsApart (front ++ before)) :
    StandsBetween (front ++ text) more word later (front ++ before) after := by
  refine ⟨?_, cuts, stands.later, ?_⟩
  · rw [stands.split, List.append_assoc]
  · exact stands.form.imp_right fun ⟨isRun, ends, begins⟩ => ⟨isRun, apart isRun ends, begins⟩

theorem Cuts.exists_standsBetween (cuts : Cuts text words) {earlier later : List String}
    {word : String} (same : words = earlier ++ word :: later) :
    ∃ before after, StandsBetween text earlier word later before after := by
  induction cuts generalizing earlier with
  | nothing => exact absurd same (by simp)
  | @blank character rest words isBlank others inductionHypothesis =>
    obtain ⟨before, after, stands⟩ := inductionHypothesis same
    have apart : EndsApart before → EndsApart (character :: before) :=
      endsApart_cons (not_isPlain_of_isBlank isBlank)
    exact ⟨_, _, stands.behind [character] (.blank isBlank stands.earlier) fun _ => apart⟩
  | @mark character rest words isMark others inductionHypothesis =>
    cases earlier with
    | nil =>
      obtain ⟨rfl, rfl⟩ := List.cons.inj same
      refine ⟨[], rest, ?_, .nothing, others, .inl ⟨character, isMark, rfl⟩⟩
      rw [String.toList_ofList]
      rfl
    | cons first between =>
      obtain ⟨rfl, further⟩ := List.cons.inj same
      obtain ⟨before, after, stands⟩ := inductionHypothesis further
      have apart : EndsApart before → EndsApart (character :: before) :=
        endsApart_cons (not_isPlain_of_isPunctuation isMark)
      exact ⟨_, _, stands.behind [character] (.mark isMark stands.earlier) fun _ => apart⟩
  | @run run rest words isRun apart others inductionHypothesis =>
    cases earlier with
    | nil =>
      obtain ⟨rfl, rfl⟩ := List.cons.inj same
      refine ⟨[], rest, ?_, .nothing, others, .inr ⟨?_, endsApart_nil, apart⟩⟩
      · rw [String.toList_ofList]
        rfl
      · rwa [String.toList_ofList]
    | cons first between =>
      obtain ⟨rfl, further⟩ := List.cons.inj same
      obtain ⟨before, after, stands⟩ := inductionHypothesis further
      rw [stands.split] at apart
      refine ⟨_, _, stands.behind run (.run isRun apart.of_append stands.earlier) ?_⟩
      intro alsoRun ends
      apply endsApart_append ends
      rintro rfl
      exact absurd apart alsoRun.not_beginsApart

/-- A run that goes on at neither end is a word of every cutting. -/
theorem StandsBetween.of_run {before run after : List Char} {earlier later : List String}
    (isRun : IsRun run) (ends : EndsApart before) (begins : BeginsApart after)
    (cutsBefore : Cuts before earlier) (cutsAfter : Cuts after later) :
    StandsBetween (before ++ (run ++ after)) earlier (String.ofList run) later before after := by
  refine ⟨?_, cutsBefore, cutsAfter, .inr ⟨?_, ends, begins⟩⟩
  · rw [String.toList_ofList]
  · rwa [String.toList_ofList]

end Consequences

/-! ## The text of the tokens -/

section Spaced

variable {rest : List Char} {words : List String}

theorem IsToken.cuts {word : String} (isToken : IsToken word) (apart : BeginsApart rest)
    (others : Cuts rest words) : Cuts (word.toList ++ rest) (word :: words) := by
  rcases isToken with ⟨mark, isMark, rfl⟩ | ⟨nonempty, plain⟩
  · rw [String.toList_ofList]
    exact .mark isMark others
  · have isRun : IsRun word.toList := ⟨fun nothing => nonempty (String.toList_eq_nil_iff.1 nothing),
      plain⟩
    have cut := Cuts.run isRun apart others
    rwa [String.ofList_toList] at cut

/-- What stands behind the first of spaced words. -/
def furtherSpaced (words : List String) : List Char :=
  words.flatMap fun word => ' ' :: word.toList

theorem toList_spaced (first : String) (others : List String) :
    (spaced (first :: others)).toList = first.toList ++ furtherSpaced others := by
  induction others generalizing first with
  | nil => simp [spaced, furtherSpaced]
  | cons next others inductionHypothesis =>
    have joined : spaced (first :: next :: others) = first ++ " " ++ spaced (next :: others) :=
      String.intercalate_cons_cons
    rw [joined, String.toList_append, inductionHypothesis]
    simp [furtherSpaced]

theorem beginsApart_furtherSpaced (words : List String) : BeginsApart (furtherSpaced words) := by
  cases words with
  | nil => exact beginsApart_nil
  | cons word others => exact beginsApart_cons (not_isPlain_of_isBlank (by decide))

theorem cuts_furtherSpaced (areTokens : ∀ word ∈ words, IsToken word) :
    Cuts (furtherSpaced words) words := by
  induction words with
  | nil => exact .nothing
  | cons word others inductionHypothesis =>
    obtain ⟨isToken, areFurther⟩ := List.forall_mem_cons.1 areTokens
    have cut := isToken.cuts (beginsApart_furtherSpaced others) (inductionHypothesis areFurther)
    exact .blank (by decide) cut

theorem cuts_spaced (areTokens : ∀ word ∈ words, IsToken word) :
    Cuts (spaced words).toList words := by
  cases words with
  | nil => exact .nothing
  | cons first others =>
    obtain ⟨isToken, areFurther⟩ := List.forall_mem_cons.1 areTokens
    rw [toList_spaced]
    exact isToken.cuts (beginsApart_furtherSpaced others) (cuts_furtherSpaced areFurther)

end Spaced

/-- Only a text of blanks has no tokens. -/
theorem tokens_eq_nil_iff {text : String} : tokens text = [] ↔ trim text.toList = [] := by
  have kept := (cuts_tokens text.toList).flatMap_toList
  have nothing : tokens text = [] ↔ (tokens text).flatMap String.toList = [] := by
    rw [List.flatMap_eq_nil_iff, List.eq_nil_iff_forall_not_mem]
    refine forall_congr' fun word => ⟨fun absent member => absurd member absent, ?_⟩
    intro shown member
    exact (isToken_of_mem_tokens member).ne_empty (String.toList_eq_nil_iff.1 (shown member))
  rw [nothing, tokens, kept, List.filter_eq_nil_iff, trim_eq_nil_iff]
  simp

/-- A text is cut into its tokens in one way only. Together they are the text without its blanks. Each
of them stands in the text between the tokens before it and those behind it, and is a punctuation
character, or a run that goes on at neither end; and every such run is a token. The text of the tokens,
spaced, has the same tokens. -/
theorem tokens_cut_at_ends_of_runs (text : String) :
    (∀ words, tokens text = words ↔ Cuts text.toList words) ∧
    (String.join (tokens text)).toList = (text.toList.filter fun character => !isBlank character) ∧
    (∀ earlier word later, tokens text = earlier ++ word :: later →
      ∃ before after, StandsBetween text.toList earlier word later before after) ∧
    (∀ before run after, text.toList = before ++ (run ++ after) → IsRun run → EndsApart before →
      BeginsApart after → ∃ earlier later, tokens text = earlier ++ String.ofList run :: later ∧
        StandsBetween text.toList earlier (String.ofList run) later before after) ∧
    tokens (spaced (tokens text)) = tokens text ∧
    (tokens text = [] ↔ trim text.toList = []) := by
  have cuts : Cuts text.toList (tokens text) := cuts_tokens text.toList
  refine ⟨fun words => cuts_iff.symm, ?_, ?_, ?_, ?_, tokens_eq_nil_iff⟩
  · rw [String.toList_join, cuts.flatMap_toList]
  · exact fun earlier word later same => cuts.exists_standsBetween same
  · intro before run after split isRun ends begins
    have cutsAfter := cuts_tokens after
    have whole : Cuts (before ++ (run ++ after)) _ :=
      (cuts_tokens before).append (.run isRun begins cutsAfter) (.inl ends)
    refine ⟨tokensFrom [] before, tokensFrom [] after, ?_, ?_⟩
    · rw [← split] at whole
      exact whole.tokens_eq
    · rw [split]
      exact .of_run isRun ends begins (cuts_tokens before) cutsAfter
  · exact (cuts_spaced fun _ => isToken_of_mem_tokens).tokens_eq

example : tokens "so\u00a0on (etc.)," = ["so", "on", "(", "etc", ".", ")", ","] := by decide +kernel

end ChartParsing.Sentence
