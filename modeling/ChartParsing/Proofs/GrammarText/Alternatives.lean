import ChartParsing.Proofs.GrammarText.Parts

/-!
Contract: reading names, words, weights, notes and alternatives.

Owns, for each of these parts, that it is read back from its spelling, that whatever is read was
spelled, and that no text spells two of them. A weight and a note may be absent; which one stands next
is told by the character that the text leads with.
-/

set_option autoImplicit false

namespace ChartParsing.GrammarText

open ChartParsing.Text

/-! ### Names and words -/

theorem isSpacing_cases {character : Char} (spacing : isSpacing character = true) :
    character = ' ' ∨ character = '\t' := by
  simpa [isSpacing] using spacing

theorem isNameChar_of_isSpacing (character : Char) (spacing : isSpacing character = true) :
    isNameChar character = false := by
  rcases isSpacing_cases spacing with rfl | rfl
  · decide
  · decide

theorem isWordChar_of_isSpacing (character : Char) (spacing : isSpacing character = true) :
    isWordChar character = false := by
  rcases isSpacing_cases spacing with rfl | rfl
  · decide
  · decide

theorem isSpacing_eq_false {inClass : Char → Bool}
    (apart : ∀ character, isSpacing character = true → inClass character = false)
    (character : Char) (inside : inClass character = true) : isSpacing character = false := by
  by_contra spacing
  rw [Bool.not_eq_false] at spacing
  rw [apart character spacing] at inside
  cases inside

theorem ends_run {inClass other : Char → Bool} (run : Run inClass)
    (apart : ∀ character, inClass character = true → other character = false)
    (rest : List Char) : Ends other (run.text ++ rest) :=
  ends_append run.nonempty fun character member => apart character (run.inside character member)

theorem read_gap_text (form : Gap) {rest : List Char} (ends : Ends isSpacing rest) :
    gap.part.read (form.text ++ rest) = .ok ((), rest) :=
  read_bind_of_read (read_run_text form ends)

theorem exists_of_read_gap {text rest : List Char} (passed : gap.part.read text = .ok ((), rest)) :
    Ends isSpacing rest ∧ ∃ form : Gap, text = form.text ++ rest := by
  obtain ⟨value, middle, taking, same⟩ := Part.exists_of_read_bind passed
  obtain rfl := (Prod.mk.inj (Except.ok.inj same)).2
  obtain ⟨form, split, _, ends⟩ := exists_of_read_run taking
  exact ⟨ends, form, split⟩

section Class

variable {inClass : Char → Bool}

/-- Runs of characters that are no spacing are read back from a list with spacing between them. -/
theorem listing_run (apart : ∀ character, isSpacing character = true → inClass character = false) :
    Listing gap (run inClass) (@Run.text isSpacing) (@Run.text inClass)
      (fun form => String.ofList form.text) (Ends inClass) where
  read := fun form _ ends => read_run_text form ends
  spelled := by
    intro source rest found read
    obtain ⟨form, spelled, same, _⟩ := exists_of_read_run read
    exact ⟨form, spelled, same⟩
  passes := fun gap form rest =>
    read_gap_text gap (ends_run form (isSpacing_eq_false apart) rest)
  separated := fun passed => (exists_of_read_gap passed).2
  follows := fun gap rest => ends_run gap apart rest

/-- A list of runs ends where the text leads with a character that no run has. -/
theorem endsList_run (apart : ∀ character, isSpacing character = true → inClass character = false)
    {marks rest : List Char} (leads : Leads marks rest)
    (outside : marks.any inClass = false) :
    EndsList gap (run inClass) (Ends inClass) rest where
  follows := leads.ends_self outside (isSpacing_eq_false apart)
  nothing := by
    intro after passed
    obtain ⟨behind, form, rfl⟩ := exists_of_read_gap passed
    have ends := leads.ends outside
    rw [skipSpacing, dropWhile_exact form.inside behind] at ends
    exact ⟨after, read_run_of_ends ends⟩

end Class

theorem run_text_injective {inClass : Char → Bool} :
    Function.Injective (@Run.text inClass) :=
  fun _ _ same => Run.ext same

/-! ### Parts that may be absent -/

section Optional

variable {Form Value : Type} {part : Part Value} {text : Form → List Char} {value : Form → Value}

theorem read_optional_of_read {source rest : List Char} {found : Value}
    (read : part.read source = .ok (found, rest)) :
    part.optional.read source = .ok (some found, rest) := by
  simp only [Part.optional, read]

theorem read_optional_of_error {source left : List Char} (failed : part.read source = .error left) :
    part.optional.read source = .ok (none, source) := by
  simp only [Part.optional, failed]

theorem read_optional_text {rest left : List Char} (form : Option Form)
    (read : ∀ form rest, part.read (text form ++ rest) = .ok (value form, rest))
    (absent : part.read rest = .error left) :
    part.optional.read (optionalText text form ++ rest) = .ok (form.map value, rest) := by
  cases form with
  | none => exact read_optional_of_error absent
  | some form => exact read_optional_of_read (read form rest)

theorem exists_of_read_optional
    (spelled : ∀ {source rest found}, part.read source = .ok (found, rest) →
      ∃ form, source = text form ++ rest ∧ value form = found)
    {source rest : List Char} {found? : Option Value}
    (read : part.optional.read source = .ok (found?, rest)) :
    ∃ form : Option Form, source = optionalText text form ++ rest ∧ form.map value = found? := by
  cases partRead : part.read source with
  | error left =>
    rw [read_optional_of_error partRead] at read
    obtain ⟨rfl, rfl⟩ := Prod.mk.inj (Except.ok.inj read)
    exact ⟨none, rfl, rfl⟩
  | ok pair =>
    rw [read_optional_of_read partRead] at read
    obtain ⟨rfl, rfl⟩ := Prod.mk.inj (Except.ok.inj read)
    obtain ⟨form, split, same⟩ := spelled partRead
    exact ⟨some form, split, congrArg some same⟩

theorem read_optional_ne_error (source left : List Char) :
    part.optional.read source ≠ .error left := by
  cases partRead : part.read source with
  | error fault =>
    rw [read_optional_of_error partRead]
    simp only [ne_eq, reduceCtorEq, not_false_eq_true]
  | ok pair =>
    rw [read_optional_of_read partRead]
    simp only [ne_eq, reduceCtorEq, not_false_eq_true]

end Optional

theorem optionalText_injective {Form : Type} {text : Form → List Char}
    (injective : Function.Injective text) (nonempty : ∀ form, text form ≠ []) :
    Function.Injective (optionalText text) := by
  intro left right same
  cases left with
  | none =>
    cases right with
    | none => rfl
    | some form => exact absurd same.symm (nonempty form)
  | some form =>
    cases right with
    | none => exact absurd same (nonempty form)
    | some other => exact congrArg some (injective same)

theorem leads_optionalText {Form : Type} {text : Form → List Char} {marks rest : List Char}
    (leadsForm : ∀ form rest, Leads marks (text form ++ rest)) (leadsRest : Leads marks rest)
    (form : Option Form) : Leads marks (optionalText text form ++ rest) := by
  cases form with
  | none => exact leadsRest
  | some form => exact leadsForm form rest

/-! ### Numbers -/

theorem decimalValue_eq_ofDigits (digits : List Char) :
    decimalValue digits =
      Nat.ofDigits 10 (digits.reverse.map fun digit => digit.toNat - '0'.toNat) := by
  have commuted : (fun (value : Nat) (digit : Char) => 10 * value + (digit.toNat - '0'.toNat)) =
      fun value digit => (digit.toNat - '0'.toNat) + 10 * value :=
    funext fun value => funext fun digit => Nat.add_comm _ _
  rw [Nat.ofDigits_eq_foldr, List.map_reverse, List.foldr_reverse, List.foldl_map, decimalValue,
    commuted]
  rfl

theorem digit_ne_minus {digit : Char} (isDigit : digit.isDigit = true) : digit ≠ '-' := by
  rintro rfl
  exact absurd isDigit (by decide)

theorem read_sign_text (number : NumberForm) (rest : List Char) :
    (literal ['-']).optional.read (number.text ++ rest) =
      .ok (if number.negative then some () else none, number.digits.text ++ rest) := by
  obtain ⟨negative, digits⟩ := number
  cases negative with
  | true => exact read_optional_of_read (read_literal_cons '-' _)
  | false =>
    refine read_optional_of_error (read_literal_of_ne ?_)
    show (digits.text ++ rest).head? ≠ some '-'
    cases text : digits.text with
    | nil => exact absurd text digits.nonempty
    | cons first others =>
      have isDigit : first.isDigit = true := digits.inside first (by rw [text]; exact List.mem_cons_self)
      exact fun same => digit_ne_minus isDigit (Option.some.inj same)

theorem read_integer_text (number : NumberForm) {rest : List Char} (ends : Ends Char.isDigit rest) :
    integer.read (number.text ++ rest) = .ok (number.value, rest) := by
  rw [integer, read_bind_of_read (read_sign_text number rest),
    read_bind_of_read (read_run_text number.digits ends), String.toList_ofList,
    decimalValue_eq_ofDigits]
  obtain ⟨negative, digits⟩ := number
  cases negative with
  | true => rfl
  | false => rfl

theorem exists_of_read_integer {text rest : List Char} {value : Int}
    (found : integer.read text = .ok (value, rest)) :
    ∃ number : NumberForm, text = number.text ++ rest ∧ number.value = value := by
  obtain ⟨sign?, behindSign, signRead, found⟩ := Part.exists_of_read_bind found
  obtain ⟨digitText, behind, digitsRead, found⟩ := Part.exists_of_read_bind found
  obtain ⟨digits, splitDigits, rfl, _⟩ := exists_of_read_run digitsRead
  obtain ⟨rfl, rfl⟩ := Prod.mk.inj (Except.ok.inj found)
  rw [String.toList_ofList, decimalValue_eq_ofDigits]
  cases literalRead : (literal ['-']).read text with
  | error left =>
    rw [read_optional_of_error literalRead] at signRead
    obtain ⟨rfl, rfl⟩ := Prod.mk.inj (Except.ok.inj signRead)
    exact ⟨⟨false, digits⟩, splitDigits, rfl⟩
  | ok pair =>
    rw [read_optional_of_read literalRead] at signRead
    obtain ⟨rfl, rfl⟩ := Prod.mk.inj (Except.ok.inj signRead)
    refine ⟨⟨true, digits⟩, ?_, rfl⟩
    rw [eq_of_read_literal literalRead, splitDigits]
    rfl

theorem NumberForm.ends_isSpacing (number : NumberForm) (rest : List Char) :
    Ends isSpacing (number.text ++ rest) := by
  obtain ⟨negative, digits⟩ := number
  cases negative with
  | true => exact ends_cons (by decide)
  | false =>
    refine ends_run digits (isSpacing_eq_false fun character spacing => ?_) rest
    rcases isSpacing_cases spacing with rfl | rfl
    · decide
    · decide

theorem NumberForm.text_injective : Function.Injective NumberForm.text := by
  intro left right same
  obtain ⟨negative, digits⟩ := left
  obtain ⟨otherNegative, others⟩ := right
  have firstDigit : ∀ (run : Run Char.isDigit) (rest : List Char), run.text ≠ '-' :: rest := by
    intro run rest begins
    have isDigit := run.inside '-' (by rw [begins]; exact List.mem_cons_self)
    exact absurd isDigit (by decide)
  cases negative with
  | true =>
    cases otherNegative with
    | true => exact NumberForm.ext rfl (run_text_injective (List.cons.inj same).2)
    | false => exact absurd same.symm (firstDigit others _)
  | false =>
    cases otherNegative with
    | true => exact absurd same (firstDigit digits _)
    | false => exact NumberForm.ext rfl (run_text_injective same)

/-! ### Weights -/

theorem ends_spaces {inClass : Char → Bool} (spaces : Spaces) {mark : Char} {rest : List Char}
    (apart : ∀ character, isSpacing character = true → inClass character = false)
    (outside : inClass mark = false) : Ends inClass (spaces.text ++ mark :: rest) := by
  obtain ⟨text, inside⟩ := spaces
  cases text with
  | nil => exact ends_cons outside
  | cons first others => exact ends_cons (apart first (inside first List.mem_cons_self))

theorem isDigit_of_isSpacing (character : Char) (spacing : isSpacing character = true) :
    character.isDigit = false := by
  rcases isSpacing_cases spacing with rfl | rfl
  · decide
  · decide

theorem WeightForm.text_append (weight : WeightForm) (rest : List Char) :
    weight.text ++ rest = weight.before.text ++ '[' ::
      (weight.inside.text ++ (weight.number.text ++ (weight.behind.text ++ ']' :: rest))) := by
  simp [WeightForm.text]

/-- What is read as a number within bounds is a number, and within them. -/
theorem exists_of_read_bounded {text rest : List Char} {value : Int}
    (found : (integer.checked fun value => if IsWeight value then some value else none).read text =
      .ok (value, rest)) : IsWeight value ∧ integer.read text = .ok (value, rest) := by
  cases read : integer.read text with
  | error left =>
    simp only [Part.checked, read] at found
    cases found
  | ok pair =>
    obtain ⟨number, behind⟩ := pair
    by_cases bounded : IsWeight number
    · simp only [Part.checked, read, if_pos bounded] at found
      obtain ⟨rfl, rfl⟩ := Prod.mk.inj (Except.ok.inj found)
      exact ⟨bounded, rfl⟩
    · simp only [Part.checked, read, if_neg bounded] at found
      cases found

/-- A weight, with the spacing before it. -/
theorem read_weight_text (form : WeightForm) (rest : List Char) :
    (spaced weight).read (form.text ++ rest) = .ok (form.number.value, rest) := by
  have opening : Ends isSpacing ('[' :: (form.inside.text ++
      (form.number.text ++ (form.behind.text ++ ']' :: rest)))) := ends_cons (by decide)
  have numberEnds : Ends Char.isDigit (form.behind.text ++ ']' :: rest) :=
    ends_spaces form.behind isDigit_of_isSpacing (by decide)
  have closing : Ends isSpacing (']' :: rest) := ends_cons (by decide)
  have number : (integer.checked fun value => if IsWeight value then some value else none).read
      (form.number.text ++ (form.behind.text ++ ']' :: rest)) =
        .ok (form.number.value, form.behind.text ++ ']' :: rest) := by
    simp only [Part.checked, read_integer_text form.number numberEnds, if_pos form.bounded]
  rw [WeightForm.text_append, spaced, read_bind_of_read (read_spacing_text form.before opening), weight,
    read_bind_of_read (read_literal_cons '[' _),
    read_bind_of_read (read_spacing_text form.inside (form.number.ends_isSpacing _)),
    read_bind_of_read number, read_bind_of_read (read_spacing_text form.behind closing),
    read_bind_of_read (read_literal_cons ']' rest)]
  rfl

theorem exists_of_read_weight {text rest : List Char} {value : Int}
    (found : (spaced weight).read text = .ok (value, rest)) :
    ∃ form : WeightForm, text = form.text ++ rest ∧ form.number.value = value := by
  obtain ⟨_, atBracket, spaced, found⟩ := Part.exists_of_read_bind found
  obtain ⟨_, behindBracket, opened, found⟩ := Part.exists_of_read_bind found
  obtain ⟨_, atNumber, alsoSpaced, found⟩ := Part.exists_of_read_bind found
  obtain ⟨number, behindNumber, numberRead, found⟩ := Part.exists_of_read_bind found
  obtain ⟨_, atEnd, spacedAgain, found⟩ := Part.exists_of_read_bind found
  obtain ⟨_, behind, closed, found⟩ := Part.exists_of_read_bind found
  obtain ⟨rfl, rfl⟩ := Prod.mk.inj (Except.ok.inj found)
  obtain ⟨before, rfl⟩ := (exists_of_read_spacing spaced).2
  obtain rfl := eq_of_read_literal opened
  obtain ⟨inside, rfl⟩ := (exists_of_read_spacing alsoSpaced).2
  obtain ⟨trailing, rfl⟩ := (exists_of_read_spacing spacedAgain).2
  obtain rfl := eq_of_read_literal closed
  obtain ⟨bounded, integerRead⟩ := exists_of_read_bounded numberRead
  obtain ⟨form, rfl, rfl⟩ := exists_of_read_integer integerRead
  refine ⟨⟨before, inside, form, trailing, bounded⟩, ?_, rfl⟩
  rw [WeightForm.text_append]
  rfl

theorem read_weight_error {marks rest : List Char} (leads : Leads marks rest)
    (unlisted : '[' ∉ marks) : (spaced weight).read rest = .error (skipSpacing rest) := by
  have absent : weight.read (skipSpacing rest) = .error (skipSpacing rest) :=
    read_bind_of_error (read_literal_of_ne fun first => unlisted (leads '[' first))
  exact absent

theorem WeightForm.text_injective : Function.Injective WeightForm.text := by
  intro left right same
  have noSpacing : ∀ rest, Ends isSpacing ('[' :: rest) := fun _ => ends_cons (by decide)
  obtain ⟨before, opened⟩ := Spaces.append_inj (noSpacing _) (noSpacing _) same
  obtain ⟨inside, number⟩ := Spaces.append_inj (left.number.ends_isSpacing _)
    (right.number.ends_isSpacing _) (List.cons.inj opened).2
  have closing : ∀ spaces : Spaces, Ends Char.isDigit (spaces.text ++ [']']) := fun spaces =>
    ends_spaces spaces isDigit_of_isSpacing (by decide)
  -- Reading the number leaves the same text of both spellings.
  have read := read_integer_text left.number (closing left.behind)
  rw [number, read_integer_text right.number (closing right.behind)] at read
  have behind := (Prod.mk.inj (Except.ok.inj read)).2
  rw [behind] at number
  exact WeightForm.ext before inside (NumberForm.text_injective (List.append_cancel_right number))
    (Spaces.ext (List.append_cancel_right behind.symm))

theorem WeightForm.text_ne_nil (weight : WeightForm) : weight.text ≠ [] :=
  List.append_ne_nil_of_right_ne_nil _ (List.cons_ne_nil _ _)

theorem WeightForm.leads (weight : WeightForm) {marks : List Char} (listed : '[' ∈ marks)
    (rest : List Char) : Leads marks (weight.text ++ rest) := by
  rw [WeightForm.text_append]
  exact leads_spaces (leads_cons (by decide) listed)

/-! ### Notes -/

theorem NoteForm.text_append (note : NoteForm) (rest : List Char) :
    note.text ++ rest = note.before.text ++ '\x7b' :: (note.note ++ '\x7d' :: rest) := by
  simp [NoteForm.text]

/-- A note, with the spacing before it. -/
theorem read_note_text (form : NoteForm) (rest : List Char) :
    (spaced note).read (form.text ++ rest) = .ok (String.ofList form.note, rest) := by
  have opening : Ends isSpacing ('\x7b' :: (form.note ++ '\x7d' :: rest)) := ends_cons (by decide)
  have inside : ∀ character ∈ form.note, decide (character ≠ '\x7d') = true := by
    intro character member
    refine decide_eq_true fun closes => ?_
    rw [closes] at member
    exact form.unclosed member
  have ends : Ends (fun character => decide (character ≠ '\x7d')) ('\x7d' :: rest) :=
    ends_cons (by decide)
  have taken : (upTo '\x7d').read (form.note ++ '\x7d' :: rest) =
      .ok (String.ofList form.note, '\x7d' :: rest) := by
    simp only [upTo, takeWhile_exact inside ends, dropWhile_exact inside ends]
  rw [NoteForm.text_append, spaced, read_bind_of_read (read_spacing_text form.before opening), note,
    read_bind_of_read (read_literal_cons _ _), read_bind_of_read taken,
    read_bind_of_read (read_literal_cons _ _)]
  rfl

theorem exists_of_read_note {text rest : List Char} {value : String}
    (found : (spaced note).read text = .ok (value, rest)) :
    ∃ form : NoteForm, text = form.text ++ rest ∧ String.ofList form.note = value := by
  obtain ⟨_, atBrace, spaced, found⟩ := Part.exists_of_read_bind found
  obtain ⟨_, inside, opened, found⟩ := Part.exists_of_read_bind found
  obtain ⟨noted, atEnd, taken, found⟩ := Part.exists_of_read_bind found
  obtain ⟨_, behind, closed, found⟩ := Part.exists_of_read_bind found
  obtain ⟨rfl, rfl⟩ := Prod.mk.inj (Except.ok.inj found)
  obtain ⟨before, rfl⟩ := (exists_of_read_spacing spaced).2
  obtain rfl := eq_of_read_literal opened
  obtain ⟨rfl, rfl⟩ := Prod.mk.inj (Except.ok.inj taken)
  have unclosed : '\x7d' ∉ inside.takeWhile (fun character => decide (character ≠ '\x7d')) := by
    intro member
    exact absurd (List.mem_takeWhile_imp member) (by decide)
  refine ⟨⟨before, _, unclosed⟩, ?_, rfl⟩
  have behindNote : '\x7d' :: behind =
      inside.dropWhile fun character => decide (character ≠ '\x7d') := (eq_of_read_literal closed).symm
  rw [NoteForm.text_append, behindNote, List.takeWhile_append_dropWhile]
  rfl

theorem read_note_error {marks rest : List Char} (leads : Leads marks rest)
    (unlisted : '\x7b' ∉ marks) : (spaced note).read rest = .error (skipSpacing rest) := by
  have absent : note.read (skipSpacing rest) = .error (skipSpacing rest) :=
    read_bind_of_error (read_literal_of_ne fun first => unlisted (leads '\x7b' first))
  exact absent

theorem NoteForm.text_injective : Function.Injective NoteForm.text := by
  intro left right same
  have noSpacing : ∀ rest, Ends isSpacing ('\x7b' :: rest) := fun _ => ends_cons (by decide)
  obtain ⟨before, opened⟩ := Spaces.append_inj (noSpacing _) (noSpacing _) same
  exact NoteForm.ext before (List.append_cancel_right (List.cons.inj opened).2)

theorem NoteForm.text_ne_nil (note : NoteForm) : note.text ≠ [] :=
  List.append_ne_nil_of_right_ne_nil _ (List.cons_ne_nil _ _)

theorem NoteForm.leads (note : NoteForm) {marks : List Char} (listed : '\x7b' ∈ marks)
    (rest : List Char) : Leads marks (note.text ++ rest) := by
  rw [NoteForm.text_append]
  exact leads_spaces (leads_cons (by decide) listed)

/-! ### Alternatives -/

namespace AlternativeForm

variable {rest left : List Char}

theorem leads_note (form : AlternativeForm) (leads : Leads ['|'] rest) :
    Leads ['\x7b', '|'] (optionalText NoteForm.text form.note ++ rest) :=
  leads_optionalText (fun note rest => note.leads (by decide) rest)
    (leads.mono (List.subset_cons_self _ _)) form.note

theorem leads_tail (form : AlternativeForm) (leads : Leads ['|'] rest) :
    Leads ['[', '\x7b', '|'] (form.tail ++ rest) := by
  rw [tail, List.append_assoc]
  exact leads_optionalText (fun weight rest => weight.leads (by decide) rest)
    ((form.leads_note leads).mono (List.subset_cons_self _ _)) form.weight

theorem endsList_tail (form : AlternativeForm) (leads : Leads ['|'] rest) :
    EndsList gap name (Ends isNameChar) (form.tail ++ rest) :=
  endsList_run isNameChar_of_isSpacing (form.leads_tail leads) (by decide)

theorem text_append (form : AlternativeForm) (rest : List Char) :
    form.text ++ rest =
      form.first.text ++ (furtherText Run.text Run.text form.others ++ (form.tail ++ rest)) := by
  simp [text]

theorem read_optional_weight (form : AlternativeForm) (leads : Leads ['|'] rest) :
    (spaced GrammarText.weight).optional.read (form.tail ++ rest) =
      .ok (form.weight.map fun weight => weight.number.value,
        optionalText NoteForm.text form.note ++ rest) := by
  rw [tail, List.append_assoc]
  exact read_optional_text form.weight read_weight_text
    (read_weight_error (form.leads_note leads) (by decide))

theorem read_optional_note (form : AlternativeForm) (leads : Leads ['|'] rest) :
    (spaced GrammarText.note).optional.read (optionalText NoteForm.text form.note ++ rest) =
      .ok (form.note.map fun note => String.ofList note.note, rest) :=
  read_optional_text form.note read_note_text (read_note_error leads (by decide))

end AlternativeForm

theorem read_alternative_text (form : AlternativeForm) {rest : List Char} (leads : Leads ['|'] rest) :
    alternative.read (form.text ++ rest) = .ok (form.alternative, rest) := by
  have names := (listing_run isNameChar_of_isSpacing).read_items_eq form.first form.others
    (form.endsList_tail leads)
  rw [AlternativeForm.text_append, alternative, show name = run isNameChar from rfl,
    read_bind_of_read names, read_bind_of_read (form.read_optional_weight leads),
    read_bind_of_read (form.read_optional_note leads)]
  rfl

theorem exists_of_read_alternative {text rest : List Char} {value : Alternative}
    (found : alternative.read text = .ok (value, rest)) :
    ∃ form : AlternativeForm, text = form.text ++ rest ∧ form.alternative = value := by
  obtain ⟨symbols, behindSymbols, names, found⟩ := Part.exists_of_read_bind found
  obtain ⟨weight?, behindWeight, weightRead, found⟩ := Part.exists_of_read_bind found
  obtain ⟨note?, behindNote, noteRead, found⟩ := Part.exists_of_read_bind found
  obtain ⟨rfl, rfl⟩ := Prod.mk.inj (Except.ok.inj found)
  obtain ⟨first, others, split, rfl⟩ := (listing_run isNameChar_of_isSpacing).exists_of_items names
  obtain ⟨weight, splitWeight, rfl⟩ := exists_of_read_optional exists_of_read_weight weightRead
  obtain ⟨note, splitNote, rfl⟩ := exists_of_read_optional exists_of_read_note noteRead
  refine ⟨⟨first, others, weight, note⟩, ?_, rfl⟩
  rw [AlternativeForm.text_append, AlternativeForm.tail, List.append_assoc, ← splitNote, ← splitWeight]
  exact split

/-- An alternative fails where its first name does, at its beginning. -/
theorem eq_of_read_alternative_error {text left : List Char}
    (failed : alternative.read text = .error left) : left = text := by
  rcases cases_of_read_bind_error failed with symbols | ⟨_, _, _, failed⟩
  · exact eq_of_read_run_error (read_items_error symbols)
  · rcases cases_of_read_bind_error failed with weight | ⟨_, _, _, failed⟩
    · exact absurd weight (read_optional_ne_error _ _)
    · rcases cases_of_read_bind_error failed with note | ⟨_, _, _, failed⟩
      · exact absurd note (read_optional_ne_error _ _)
      · cases failed

theorem AlternativeForm.text_injective : Function.Injective AlternativeForm.text := by
  intro left right same
  have nothing : Leads ['|'] [] := leads_trailing _ ⟨[], fun _ member => absurd member List.not_mem_nil⟩
  have ends := left.endsList_tail nothing
  have alsoEnds := right.endsList_tail nothing
  rw [List.append_nil] at ends alsoEnds
  obtain ⟨first, others, tails⟩ := (listing_run isNameChar_of_isSpacing).list_inj run_text_injective
    run_text_injective ends alsoEnds same
  -- Reading the weight leaves the same text of both tails.
  have read := left.read_optional_weight nothing
  rw [List.append_nil, List.append_nil, tails, ← List.append_nil right.tail,
    right.read_optional_weight nothing, List.append_nil] at read
  have notes := (Prod.mk.inj (Except.ok.inj read)).2
  rw [AlternativeForm.tail, AlternativeForm.tail, notes] at tails
  exact AlternativeForm.ext first others
    (optionalText_injective WeightForm.text_injective WeightForm.text_ne_nil
      (List.append_cancel_right tails))
    (optionalText_injective NoteForm.text_injective NoteForm.text_ne_nil notes.symm)

end ChartParsing.GrammarText
