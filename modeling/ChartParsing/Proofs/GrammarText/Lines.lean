import ChartParsing.Proofs.GrammarText.Alternatives

/-!
Contract: reading whole lines.

Owns that the reader accepts exactly the texts that have the form of a line, and answers with what the
form says. A text has one form at most: the two kinds of line exclude each other, and every part of a
line, the spacing included, can be told from the text alone.
-/

set_option autoImplicit false

namespace ChartParsing.GrammarText

open ChartParsing.Text

theorem ends_name (form : NameForm) (rest : List Char) : Ends isSpacing (form.text ++ rest) :=
  ends_run form (isSpacing_eq_false isNameChar_of_isSpacing) rest

theorem ends_word (form : WordForm) (rest : List Char) : Ends isSpacing (form.text ++ rest) :=
  ends_run form (isSpacing_eq_false isWordChar_of_isSpacing) rest

/-! ### Lists of alternatives -/

theorem AlternativeForm.ends_isSpacing (form : AlternativeForm) (rest : List Char) :
    Ends isSpacing (form.text ++ rest) := by
  rw [AlternativeForm.text_append]
  exact ends_name form.first _

theorem BarForm.text_append (form : BarForm) (rest : List Char) :
    form.text ++ rest = form.before.text ++ '|' :: (form.behind.text ++ rest) := by
  simp [BarForm.text]

theorem read_bar_text (form : BarForm) {rest : List Char} (ends : Ends isSpacing rest) :
    bar.part.read (form.text ++ rest) = .ok ((), rest) := by
  have atBar : Ends isSpacing ('|' :: (form.behind.text ++ rest)) := ends_cons (by decide)
  rw [BarForm.text_append, bar, read_bind_of_read (read_spacing_text form.before atBar),
    read_bind_of_read (read_literal_cons '|' _)]
  exact read_spacing_text form.behind ends

theorem exists_of_read_bar {text rest : List Char} (passed : bar.part.read text = .ok ((), rest)) :
    ∃ form : BarForm, text = form.text ++ rest := by
  obtain ⟨_, atBar, spaced, passed⟩ := Part.exists_of_read_bind passed
  obtain ⟨_, behindBar, found, alsoSpaced⟩ := Part.exists_of_read_bind passed
  obtain ⟨before, rfl⟩ := (exists_of_read_spacing spaced).2
  obtain rfl := eq_of_read_literal found
  obtain ⟨behind, rfl⟩ := (exists_of_read_spacing alsoSpaced).2
  refine ⟨⟨before, behind⟩, ?_⟩
  rw [BarForm.text_append]
  rfl

theorem read_bar_error {marks rest : List Char} (leads : Leads marks rest) (unlisted : '|' ∉ marks) :
    bar.part.read rest = .error (skipSpacing rest) := by
  have absent : (literal ['|']).read (skipSpacing rest) = .error (skipSpacing rest) :=
    read_literal_of_ne fun first => unlisted (leads '|' first)
  have spaced : spacing.read rest = .ok ((), skipSpacing rest) := rfl
  rw [bar, read_bind_of_read spaced]
  exact read_bind_of_error absent

/-- Alternatives are read back from a list with bars between them. -/
theorem listing_alternative :
    Listing bar alternative BarForm.text AlternativeForm.text AlternativeForm.alternative
      (Leads ['|']) where
  read := fun form _ leads => read_alternative_text form leads
  spelled := exists_of_read_alternative
  passes := fun separation form rest => read_bar_text separation (form.ends_isSpacing rest)
  separated := exists_of_read_bar
  follows := by
    intro separation rest
    rw [BarForm.text_append]
    exact leads_spaces (leads_cons (by decide) List.mem_cons_self)

theorem endsList_alternative (trailing : Spaces) :
    EndsList bar alternative (Leads ['|']) trailing.text where
  follows := leads_trailing _ trailing
  nothing := by
    intro after passed
    rw [read_bar_error (leads_trailing [] trailing) List.not_mem_nil] at passed
    cases passed

theorem BarForm.text_injective : Function.Injective BarForm.text := by
  intro left right same
  have noSpacing : ∀ rest, Ends isSpacing ('|' :: rest) := fun _ => ends_cons (by decide)
  obtain ⟨before, behind⟩ := Spaces.append_inj (noSpacing _) (noSpacing _) same
  exact BarForm.ext before (Spaces.ext (List.cons.inj behind).2)

/-! ### Lists of words -/

theorem endsList_word (trailing : Spaces) :
    EndsList gap word (Ends isWordChar) trailing.text :=
  endsList_run isWordChar_of_isSpacing (leads_trailing [] trailing) (by decide)

theorem WordsForm.read_items (form : WordsForm) :
    (items gap word).read form.text = .ok (form.words, form.trailing.text) :=
  (listing_run isWordChar_of_isSpacing).read_items_eq form.first form.others
    (endsList_word form.trailing)

theorem WordsForm.text_injective : Function.Injective WordsForm.text := by
  intro left right same
  obtain ⟨first, others, trailing⟩ := (listing_run isWordChar_of_isSpacing).list_inj
    run_text_injective run_text_injective (endsList_word left.trailing)
    (endsList_word right.trailing) same
  exact WordsForm.ext first others (Spaces.ext trailing)

theorem WordsForm.text_ne_nil (form : WordsForm) : form.text ≠ [] :=
  List.append_ne_nil_of_left_ne_nil form.first.nonempty _

theorem ends_words (words : Option WordsForm) :
    Ends isSpacing (optionalText WordsForm.text words) := by
  cases words with
  | none => exact ends_nil
  | some words => exact ends_word words.first _

/-! ### The end of a line -/

section Ending

variable {text left : List Char} {line : Line}

/-- A line of either kind, without regard to what follows it. -/
def eitherLine : Part Line :=
  lexiconLine.orElse ruleLine

/-- Behind a line there may be spacing. -/
theorem readLine_of_trailing (trailing : Spaces)
    (read : eitherLine.read text = .ok (line, trailing.text)) : readLine text = .ok line := by
  have skipped : spacing.read trailing.text = .ok ((), []) := by
    rw [← List.append_nil trailing.text]
    exact read_spacing_text trailing ends_nil
  have whole : grammarLine.read text = .ok (line, []) :=
    (read_bind_of_read read).trans (read_bind_of_read skipped)
  simp only [readLine, whole]

theorem read_grammarLine_of_read {rest : List Char} (read : eitherLine.read text = .ok (line, rest)) :
    grammarLine.read text = .ok (line, skipSpacing rest) :=
  read_bind_of_read read

theorem exists_trailing (read : readLine text = .ok line) :
    ∃ trailing : Spaces, eitherLine.read text = .ok (line, trailing.text) := by
  cases found : eitherLine.read text with
  | error place =>
    have whole : grammarLine.read text = .error place := read_bind_of_error found
    simp only [readLine, whole, reduceCtorEq] at read
  | ok pair =>
    obtain ⟨other, rest⟩ := pair
    obtain ⟨trailing, split⟩ := exists_of_skipSpacing rest
    simp only [readLine, read_grammarLine_of_read found] at read
    cases behind : skipSpacing rest with
    | nil =>
      rw [behind] at read
      obtain rfl := Except.ok.inj read
      rw [behind, List.append_nil] at split
      exact ⟨trailing, by rw [← split]⟩
    | cons first others =>
      rw [behind] at read
      cases read

/-- Reading a whole line fails where the line does, or behind the line and its spacing. -/
theorem cases_of_readLine_error (failed : readLine text = .error left) :
    eitherLine.read text = .error left ∨
      ∃ (line : Line) (trailing : Spaces),
        eitherLine.read text = .ok (line, trailing.text ++ left) := by
  cases found : eitherLine.read text with
  | error place =>
    have whole : grammarLine.read text = .error place := read_bind_of_error found
    simp only [readLine, whole, Except.error.injEq] at failed
    rw [failed]
    exact .inl rfl
  | ok pair =>
    obtain ⟨line, rest⟩ := pair
    obtain ⟨trailing, split⟩ := exists_of_skipSpacing rest
    simp only [readLine, read_grammarLine_of_read found] at failed
    cases behind : skipSpacing rest with
    | nil =>
      rw [behind] at failed
      cases failed
    | cons first others =>
      rw [behind] at failed split
      rw [← Except.error.inj failed]
      exact .inr ⟨line, trailing, by rw [← split]⟩

end Ending

/-! ### The forms are read back -/

theorem ends_beforeColon (spaces : Spaces) (rest : List Char) :
    Ends isNameChar (spaces.text ++ ':' :: rest) :=
  ends_spaces spaces isNameChar_of_isSpacing (by decide)

theorem ends_beforeArrow (gap : Gap) (rest : List Char) : Ends isNameChar (gap.text ++ rest) :=
  ends_run gap isNameChar_of_isSpacing rest

/-- The spacing behind the words of a lexicon line. -/
def LexiconForm.trailing (form : LexiconForm) : Spaces :=
  match form.words with
  | none => noSpaces
  | some words => words.trailing

theorem LexiconForm.read_words (form : LexiconForm) :
    (anyItems gap word).read (optionalText WordsForm.text form.words) =
      .ok ((form.words.map WordsForm.words).getD [], form.trailing.text) := by
  obtain ⟨category, beforeColon, afterColon, words⟩ := form
  cases words with
  | none => rfl
  | some words => exact read_bind_of_read (read_optional_of_read words.read_items)

theorem read_lexiconLine_text (form : LexiconForm) :
    lexiconLine.read form.text = .ok (form.line, form.trailing.text) := by
  have category := read_run_text form.category (ends_beforeColon form.beforeColon
    (form.afterColon.text ++ optionalText WordsForm.text form.words))
  have atColon : Ends isSpacing
      (':' :: (form.afterColon.text ++ optionalText WordsForm.text form.words)) :=
    ends_cons (by decide)
  rw [LexiconForm.text, lexiconLine, show name = run isNameChar from rfl, read_bind_of_read category,
    read_bind_of_read (read_spacing_text form.beforeColon atColon),
    read_bind_of_read (read_literal_cons ':' _),
    read_bind_of_read (read_spacing_text form.afterColon (ends_words form.words)),
    read_bind_of_read form.read_words]
  rfl

/-- The text of a rule line behind its arrow. -/
def RuleForm.behindArrow (form : RuleForm) : List Char :=
  form.afterArrow.text ++ form.alternativesText

theorem RuleForm.read_head (form : RuleForm) :
    name.read form.text = .ok (String.ofList form.head.text,
      form.beforeArrow.text ++ '-' :: '>' :: form.behindArrow) :=
  read_run_text form.head (ends_beforeArrow form.beforeArrow _)

theorem RuleForm.read_beforeArrow (form : RuleForm) :
    spacing.read (form.beforeArrow.text ++ '-' :: '>' :: form.behindArrow) =
      .ok ((), '-' :: '>' :: form.behindArrow) :=
  read_spacing_text ⟨form.beforeArrow.text, form.beforeArrow.inside⟩ (ends_cons (by decide))

theorem read_ruleLine_text (form : RuleForm) :
    ruleLine.read form.text = .ok (form.line, form.trailing.text) := by
  have alternatives := listing_alternative.read_items_eq form.first form.others
    (endsList_alternative form.trailing)
  have arrow : (literal ['-', '>']).read ('-' :: '>' :: form.behindArrow) =
      .ok ((), form.behindArrow) := read_literal_append ['-', '>'] _
  have afterArrow : spacing.read form.behindArrow = .ok ((), form.alternativesText) :=
    read_spacing_text form.afterArrow (form.first.ends_isSpacing _)
  rw [ruleLine, read_bind_of_read form.read_head, read_bind_of_read form.read_beforeArrow,
    read_bind_of_read arrow, read_bind_of_read afterArrow, RuleForm.alternativesText,
    read_bind_of_read alternatives]
  rfl

/-- A rule line is no lexicon line, since an arrow stands where the colon would. -/
theorem read_lexiconLine_rule (form : RuleForm) :
    lexiconLine.read form.text = .error ('-' :: '>' :: form.behindArrow) := by
  rw [lexiconLine, read_bind_of_read form.read_head, read_bind_of_read form.read_beforeArrow]
  exact read_bind_of_error (read_literal_of_ne (by simp))

theorem readLine_lexicon (form : LexiconForm) : readLine form.text = .ok form.line := by
  refine readLine_of_trailing form.trailing ?_
  simp only [eitherLine, Part.orElse, read_lexiconLine_text form]

theorem readLine_rule (form : RuleForm) : readLine form.text = .ok form.line := by
  refine readLine_of_trailing form.trailing ?_
  simp only [eitherLine, Part.orElse, read_lexiconLine_rule form, read_ruleLine_text form]

/-- A line is read back from the text that its form spells. -/
theorem readLine_text (form : LineForm) : readLine form.text = .ok form.line := by
  cases form with
  | rule form => exact readLine_rule form
  | lexicon form => exact readLine_lexicon form

/-! ### Whatever is read has a form -/

/-- What is read as the words of a lexicon line is a list of words, or nothing is read. -/
theorem exists_of_read_words {text rest : List Char} {words : List String}
    (read : (anyItems gap word).read text = .ok (words, rest)) :
    text = rest ∧ words = [] ∨ ∃ (first : WordForm) (others : List (Gap × WordForm)),
      text = first.text ++ (furtherText Run.text Run.text others ++ rest) ∧
        words = String.ofList first.text :: others.map fun other => String.ofList other.2.text := by
  obtain ⟨listed?, behind, optionalRead, read⟩ := Part.exists_of_read_bind read
  obtain ⟨rfl, rfl⟩ := Prod.mk.inj (Except.ok.inj read)
  cases listed : (items gap word).read text with
  | error left =>
    rw [read_optional_of_error listed] at optionalRead
    obtain ⟨rfl, rfl⟩ := Prod.mk.inj (Except.ok.inj optionalRead)
    exact .inl ⟨rfl, rfl⟩
  | ok pair =>
    rw [read_optional_of_read listed] at optionalRead
    obtain ⟨rfl, rfl⟩ := Prod.mk.inj (Except.ok.inj optionalRead)
    exact .inr ((listing_run isWordChar_of_isSpacing).exists_of_items listed)

/-- What is read as a lexicon line is spelled by a form, whatever spacing stands at the end. -/
theorem exists_of_read_lexiconLine {text rest : List Char} {line : Line}
    (read : lexiconLine.read text = .ok (line, rest)) (trailing : Spaces) :
    ∃ (form : LexiconForm) (taken : List Char), text = taken ++ rest ∧
      form.text = taken ++ trailing.text ∧ form.line = line := by
  obtain ⟨categoryName, behindCategory, named, read⟩ := Part.exists_of_read_bind read
  obtain ⟨_, atColon, spaced, read⟩ := Part.exists_of_read_bind read
  obtain ⟨_, behindColon, colon, read⟩ := Part.exists_of_read_bind read
  obtain ⟨_, atWords, alsoSpaced, read⟩ := Part.exists_of_read_bind read
  obtain ⟨words, behindWords, wordsRead, read⟩ := Part.exists_of_read_bind read
  obtain ⟨rfl, rfl⟩ := Prod.mk.inj (Except.ok.inj read)
  obtain ⟨category, rfl, rfl, _⟩ := exists_of_read_run named
  obtain ⟨before, rfl⟩ := (exists_of_read_spacing spaced).2
  obtain rfl := eq_of_read_literal colon
  obtain ⟨behind, rfl⟩ := (exists_of_read_spacing alsoSpaced).2
  rcases exists_of_read_words wordsRead with ⟨rfl, rfl⟩ | ⟨first, others, rfl, rfl⟩
  · -- After the colon there are no words, so all spacing there is the spacing of the colon.
    have inside : ∀ character ∈ behind.text ++ trailing.text, isSpacing character = true :=
      List.forall_mem_append.2 ⟨behind.inside, trailing.inside⟩
    refine ⟨⟨category, before, ⟨_, inside⟩, none⟩,
      category.text ++ (before.text ++ ':' :: behind.text), ?_, ?_, rfl⟩
    · simp
    · simp [LexiconForm.text, optionalText]
  · refine ⟨⟨category, before, behind, some ⟨first, others, trailing⟩⟩,
      category.text ++ (before.text ++ ':' :: (behind.text ++
        (first.text ++ furtherText Run.text Run.text others))), ?_, ?_, rfl⟩
    · simp
    · simp [LexiconForm.text, WordsForm.text, optionalText]

/-- A minus sign is a character of names, so an arrow right after a name would belong to the name. -/
theorem exists_gap {spaces : Spaces} {rest : List Char}
    (ends : Ends isNameChar (spaces.text ++ '-' :: rest)) : ∃ gap : Gap, gap.text = spaces.text := by
  have nonempty : spaces.text ≠ [] := by
    intro empty
    rw [empty] at ends
    exact absurd (ends '-' rfl) (by decide)
  exact ⟨⟨spaces.text, nonempty, spaces.inside⟩, rfl⟩

/-- What is read as a rule line is spelled by a form, whatever spacing stands at the end. -/
theorem exists_of_read_ruleLine {text rest : List Char} {line : Line}
    (read : ruleLine.read text = .ok (line, rest)) (trailing : Spaces) :
    ∃ (form : RuleForm) (taken : List Char), text = taken ++ rest ∧
      form.text = taken ++ trailing.text ∧ form.line = line := by
  obtain ⟨headName, behindHead, named, read⟩ := Part.exists_of_read_bind read
  obtain ⟨_, atArrow, spaced, read⟩ := Part.exists_of_read_bind read
  obtain ⟨_, behindArrow, arrow, read⟩ := Part.exists_of_read_bind read
  obtain ⟨_, atList, alsoSpaced, read⟩ := Part.exists_of_read_bind read
  obtain ⟨alternatives, behindList, listed, read⟩ := Part.exists_of_read_bind read
  obtain ⟨rfl, rfl⟩ := Prod.mk.inj (Except.ok.inj read)
  obtain ⟨head, rfl, rfl, ends⟩ := exists_of_read_run named
  obtain ⟨before, rfl⟩ := (exists_of_read_spacing spaced).2
  obtain rfl := eq_of_read_literal arrow
  obtain ⟨behind, rfl⟩ := (exists_of_read_spacing alsoSpaced).2
  obtain ⟨gap, sameGap⟩ := exists_gap ends
  obtain ⟨first, others, rfl, rfl⟩ := listing_alternative.exists_of_items listed
  refine ⟨⟨head, gap, behind, first, others, trailing⟩,
    head.text ++ (gap.text ++ '-' :: '>' :: (behind.text ++
      (first.text ++ furtherText BarForm.text AlternativeForm.text others))), ?_, ?_, rfl⟩
  · rw [sameGap]
    simp
  · simp [RuleForm.text, RuleForm.alternativesText]

/-- What is read as a line is spelled by a form, whatever spacing stands at the end. -/
theorem exists_of_read_eitherLine {text rest : List Char} {line : Line}
    (read : eitherLine.read text = .ok (line, rest)) (trailing : Spaces) :
    ∃ (form : LineForm) (taken : List Char), text = taken ++ rest ∧
      form.text = taken ++ trailing.text ∧ form.line = line := by
  simp only [eitherLine, Part.orElse] at read
  split at read
  case h_1 =>
    obtain ⟨form, taken, found⟩ := exists_of_read_ruleLine read trailing
    exact ⟨.rule form, taken, found⟩
  case h_2 lexicon =>
    obtain ⟨rfl, rfl⟩ := Prod.mk.inj (Except.ok.inj read)
    obtain ⟨form, taken, found⟩ := exists_of_read_lexiconLine lexicon trailing
    exact ⟨.lexicon form, taken, found⟩

theorem exists_form_of_readLine {text : List Char} {line : Line}
    (read : readLine text = .ok line) : ∃ form : LineForm, form.text = text ∧ form.line = line := by
  obtain ⟨trailing, found⟩ := exists_trailing read
  obtain ⟨form, taken, split, spelled, same⟩ := exists_of_read_eitherLine found trailing
  exact ⟨form, spelled.trans split.symm, same⟩

/-! ### A text has one form -/

theorem NameForm.append_inj {name other : NameForm} {rest left : List Char}
    (ends : Ends isNameChar rest) (alsoEnds : Ends isNameChar left)
    (same : name.text ++ rest = other.text ++ left) : name = other ∧ rest = left :=
  (listing_run isNameChar_of_isSpacing).part_inj run_text_injective ends alsoEnds same

theorem RuleForm.text_injective : Function.Injective RuleForm.text := by
  intro left right same
  obtain ⟨head, afterHead⟩ := NameForm.append_inj (ends_beforeArrow left.beforeArrow _)
    (ends_beforeArrow right.beforeArrow _) same
  have atArrow : ∀ rest, Ends isSpacing ('-' :: rest) := fun _ => ends_cons (by decide)
  obtain ⟨beforeArrow, arrow⟩ := append_inj_of_ends left.beforeArrow.inside
    right.beforeArrow.inside (atArrow _) (atArrow _) afterHead
  obtain ⟨afterArrow, alternatives⟩ := Spaces.append_inj (left.first.ends_isSpacing _)
    (right.first.ends_isSpacing _) (List.cons.inj (List.cons.inj arrow).2).2
  obtain ⟨first, others, trailing⟩ := listing_alternative.list_inj AlternativeForm.text_injective
    BarForm.text_injective (endsList_alternative left.trailing)
    (endsList_alternative right.trailing) alternatives
  exact RuleForm.ext head (Run.ext beforeArrow) afterArrow first others (Spaces.ext trailing)

theorem LexiconForm.text_injective : Function.Injective LexiconForm.text := by
  intro left right same
  obtain ⟨category, afterCategory⟩ := NameForm.append_inj (ends_beforeColon left.beforeColon _)
    (ends_beforeColon right.beforeColon _) same
  have atColon : ∀ rest, Ends isSpacing (':' :: rest) := fun _ => ends_cons (by decide)
  obtain ⟨beforeColon, colon⟩ := Spaces.append_inj (atColon _) (atColon _) afterCategory
  obtain ⟨afterColon, words⟩ := Spaces.append_inj (ends_words left.words) (ends_words right.words)
    (List.cons.inj colon).2
  exact LexiconForm.ext category beforeColon afterColon
    (optionalText_injective WordsForm.text_injective WordsForm.text_ne_nil words)

/-- The two kinds of line are told apart by what is read from them. -/
theorem rule_text_ne_lexicon_text (rule : RuleForm) (lexicon : LexiconForm) :
    rule.text ≠ lexicon.text := by
  intro same
  have read := readLine_rule rule
  rw [same, readLine_lexicon lexicon] at read
  cases Except.ok.inj read

theorem LineForm.text_injective : Function.Injective LineForm.text := by
  intro left right same
  cases left with
  | rule left =>
    cases right with
    | rule right => exact congrArg LineForm.rule (RuleForm.text_injective same)
    | lexicon right => exact absurd same (rule_text_ne_lexicon_text left right)
  | lexicon left =>
    cases right with
    | rule right => exact absurd same.symm (rule_text_ne_lexicon_text right left)
    | lexicon right => exact congrArg LineForm.lexicon (LexiconForm.text_injective same)

/-- The reader accepts exactly the texts that have the form of a line, and answers with what the form
says. A text has one form at most, and no text is a rule line and a lexicon line. -/
theorem readLine_eq_ok_iff_form :
    (∀ text line, readLine text = .ok line ↔ ∃ form : LineForm, form.text = text ∧ form.line = line) ∧
    Function.Injective LineForm.text ∧
    ∀ (rule : RuleForm) (lexicon : LexiconForm), rule.text ≠ lexicon.text := by
  refine ⟨fun text line => ⟨exists_form_of_readLine, ?_⟩, LineForm.text_injective,
    rule_text_ne_lexicon_text⟩
  rintro ⟨form, rfl, rfl⟩
  exact readLine_text form

end ChartParsing.GrammarText
