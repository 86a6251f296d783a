import ChartParsing.GrammarText.Document
import ChartParsing.Proofs.GrammarText.Lines
import Mathlib.Data.List.Forall2
import Mathlib.Data.List.Range

/-!
Contract: where the reading of a grammar text fails.

Owns which line of a text is reported and at which place. A text is read as its significant lines, with
their numbers, if all of them can be read; otherwise the first that cannot is reported, at a character
of it. What stands before that character is the beginning of some line, whichever part of the line
failed, so the text goes wrong there and not before.
-/

set_option autoImplicit false

namespace ChartParsing.GrammarText

open ChartParsing.Text

/-! ## Lines that cannot be read -/

/-- A text that some line begins with. -/
def Viable (taken : List Char) : Prop :=
  ∃ more line, readLine (taken ++ more) = .ok line

theorem viable_of_text {form : LineForm} {taken more : List Char}
    (spelled : form.text = taken ++ more) : Viable taken :=
  ⟨more, form.line, spelled ▸ readLine_text form⟩

def shortestName : NameForm :=
  ⟨['A'], List.cons_ne_nil _ _, fun _ member => List.mem_singleton.1 member ▸ by decide⟩

/-- A rule line fails at its head, at its arrow, or at the first name behind it. A colon could follow
before the arrow, and any name behind it. -/
theorem viable_of_ruleLine_error {text left : List Char} (failed : ruleLine.read text = .error left) :
    ∃ taken, text = taken ++ left ∧ Viable taken := by
  rcases cases_of_read_bind_error failed with atHead | ⟨headName, behindHead, named, behindHeadFails⟩
  · have completed : (LineForm.lexicon ⟨shortestName, noSpaces, noSpaces, none⟩).text =
        [] ++ ['A', ':'] := rfl
    exact ⟨[], (eq_of_read_run_error atHead).symm, viable_of_text completed⟩
  obtain ⟨head, rfl, rfl, ends⟩ := exists_of_read_run named
  rcases cases_of_read_bind_error behindHeadFails with impossible | ⟨_, atArrow, spaced, atArrowFails⟩
  · cases impossible
  obtain ⟨before, rfl⟩ := (exists_of_read_spacing spaced).2
  rcases cases_of_read_bind_error atArrowFails with notArrow | ⟨_, behindArrow, arrow, behindArrowFails⟩
  · have completed : (LineForm.lexicon ⟨head, before, noSpaces, none⟩).text =
        (head.text ++ before.text) ++ [':'] := by
      simp [LineForm.text, LexiconForm.text, optionalText, noSpaces]
    refine ⟨head.text ++ before.text, ?_, viable_of_text completed⟩
    rw [eq_of_read_literal_error notArrow, List.append_assoc]
  obtain rfl := eq_of_read_literal arrow
  obtain ⟨gap, sameGap⟩ := exists_gap ends
  rcases cases_of_read_bind_error behindArrowFails with impossible | ⟨_, atList, alsoSpaced, atListFails⟩
  · cases impossible
  obtain ⟨behind, rfl⟩ := (exists_of_read_spacing alsoSpaced).2
  rcases cases_of_read_bind_error atListFails with unlisted | ⟨_, _, _, impossible⟩
  · have completed : (LineForm.rule
        ⟨head, gap, behind, ⟨shortestName, [], none, none⟩, [], noSpaces⟩).text =
        (head.text ++ (gap.text ++ '-' :: '>' :: behind.text)) ++ ['A'] := by
      simp [LineForm.text, RuleForm.text, RuleForm.alternativesText, AlternativeForm.text,
        AlternativeForm.tail, furtherText, optionalText, noSpaces, shortestName]
    refine ⟨head.text ++ (gap.text ++ '-' :: '>' :: behind.text), ?_, viable_of_text completed⟩
    rw [eq_of_read_alternative_error (read_items_error unlisted), sameGap]
    simp
  · cases impossible

/-- What stands before the place where a line fails is the beginning of some line. -/
theorem viable_of_readLine_error {text left : List Char} (failed : readLine text = .error left) :
    ∃ taken, text = taken ++ left ∧ Viable taken := by
  rcases cases_of_readLine_error failed with failed | ⟨line, trailing, read⟩
  · -- A text that is no line of either kind fails where the rule line does.
    simp only [eitherLine, Part.orElse] at failed
    split at failed
    case h_1 => exact viable_of_ruleLine_error failed
    case h_2 => cases failed
  · -- A line that is read but not to its end is itself a line up to there.
    obtain ⟨form, taken, split, spelled, _⟩ := exists_of_read_eitherLine read trailing
    have completed : form.text = (taken ++ trailing.text) ++ [] := by
      rw [List.append_nil]
      exact spelled
    exact ⟨taken ++ trailing.text, by rw [split, List.append_assoc], viable_of_text completed⟩

/-! ## Bytes -/

theorem byteLength_eq_utf8ByteSize (text : List Char) :
    byteLength text = (String.ofList text).utf8ByteSize := by
  induction text with
  | nil => rfl
  | cons character others inductionHypothesis =>
    rw [byteLength, inductionHypothesis, String.ofList_cons, String.utf8ByteSize_append,
      String.utf8ByteSize_singleton]

theorem byteLength_append (first second : List Char) :
    byteLength (first ++ second) = byteLength first + byteLength second := by
  simp only [byteLength_eq_utf8ByteSize, String.ofList_append, String.utf8ByteSize_append]

/-- A report of a line with some number that fails at some place: the line is split there, at a
character, and what stands before could go on to be a line. -/
structure SyntaxFault.Locates (fault : SyntaxFault) (number : Nat) (text taken left : List Char) :
    Prop where
  split : text = taken ++ left
  failed : readLine text = .error left
  viable : Viable taken
  line_eq : fault.line = number
  /-- The bytes of what is left are among those of the line, so the column is none before the first. -/
  bytes_le : byteLength left ≤ byteLength text
  column_eq : fault.column = (String.ofList taken).utf8ByteSize + 1
  atCharacter : (⟨fault.column - 1⟩ : String.Pos.Raw).IsValid (String.ofList text)
  found_eq : fault.found = String.ofList (left.take 16)

theorem exists_locates (number : Nat) {text left : List Char} (failed : readLine text = .error left) :
    ∃ taken, (SyntaxFault.ofRest number text left).Locates number text taken left := by
  obtain ⟨taken, split, viable⟩ := viable_of_readLine_error failed
  have column : (SyntaxFault.ofRest number text left).column =
      (String.ofList taken).utf8ByteSize + 1 := by
    rw [SyntaxFault.ofRest, split, byteLength_append, Nat.add_sub_cancel,
      byteLength_eq_utf8ByteSize]
  refine ⟨taken, split, failed, viable, rfl, ?_, column, ?_, rfl⟩
  · rw [split, byteLength_append]
    exact Nat.le_add_left _ _
  · rw [String.Pos.Raw.isValid_iff_exists_append, column, Nat.add_sub_cancel, split]
    exact ⟨_, _, String.ofList_append, rfl⟩

/-! ## Documents -/

/-- The numbered lines that say something, without the white space at their ends. -/
def significantOf (numbered : List (Nat × List Char)) : List (Nat × List Char) :=
  (numbered.map fun entry => (entry.1, trim entry.2)).filter fun entry => isSignificant entry.2

def Readable (entry : Nat × List Char) : Prop :=
  ∃ line, readLine entry.2 = .ok line

/-- A numbered line is read from a line of text with its number. -/
def ReadFrom (entry : Nat × List Char) (numbered : NumberedLine) : Prop :=
  numbered.number = entry.1 ∧ readLine entry.2 = .ok numbered.line

theorem isSignificant_iff {text : List Char} :
    isSignificant text = true ↔ text ≠ [] ∧ text.head? ≠ some '#' := by
  cases text with
  | nil => simp [isSignificant]
  | cons first others => simp [isSignificant]

section Numbered

variable {number : Nat} {raw : List Char} {numbered : List (Nat × List Char)}

theorem significantOf_cons_of_pos (significant : isSignificant (trim raw) = true) :
    significantOf ((number, raw) :: numbered) = (number, trim raw) :: significantOf numbered :=
  List.filter_cons_of_pos significant

theorem significantOf_cons_of_neg (insignificant : ¬ isSignificant (trim raw) = true) :
    significantOf ((number, raw) :: numbered) = significantOf numbered :=
  List.filter_cons_of_neg insignificant

/-- Numbered lines are read in order if all that say something can be read. -/
theorem exists_readNumbered (readable : ∀ entry ∈ significantOf numbered, Readable entry) :
    ∃ lines, readNumbered numbered = .ok lines ∧
      List.Forall₂ ReadFrom (significantOf numbered) lines := by
  induction numbered with
  | nil => exact ⟨[], rfl, .nil⟩
  | cons entry others inductionHypothesis =>
    obtain ⟨number, raw⟩ := entry
    rw [readNumbered]
    by_cases significant : isSignificant (trim raw) = true
    · rw [significantOf_cons_of_pos significant] at readable ⊢
      obtain ⟨line, read⟩ := readable _ List.mem_cons_self
      obtain ⟨lines, further, readFrom⟩ :=
        inductionHypothesis fun entry member => readable entry (List.mem_cons_of_mem _ member)
      simp only [if_pos significant, read, further]
      exact ⟨_, rfl, .cons ⟨rfl, read⟩ readFrom⟩
    · rw [significantOf_cons_of_neg significant] at readable ⊢
      simp only [if_neg significant]
      exact inductionHypothesis readable

/-- The first of numbered lines that says something and cannot be read is reported. -/
theorem exists_readNumbered_error
    (unreadable : ¬ ∀ entry ∈ significantOf numbered, Readable entry) :
    ∃ before number text after left,
      significantOf numbered = before ++ (number, text) :: after ∧
      (∀ entry ∈ before, Readable entry) ∧ readLine text = .error left ∧
      readNumbered numbered = .error (SyntaxFault.ofRest number text left) := by
  induction numbered with
  | nil => exact absurd (fun _ member => absurd member List.not_mem_nil) unreadable
  | cons entry others inductionHypothesis =>
    obtain ⟨number, raw⟩ := entry
    rw [readNumbered]
    by_cases significant : isSignificant (trim raw) = true
    · rw [significantOf_cons_of_pos significant] at unreadable ⊢
      simp only [if_pos significant]
      cases read : readLine (trim raw) with
      | error left =>
        exact ⟨[], number, trim raw, _, left, rfl, fun _ member => absurd member List.not_mem_nil,
          read, rfl⟩
      | ok line =>
        have further : ¬ ∀ entry ∈ significantOf others, Readable entry := by
          intro readable
          refine unreadable fun entry member => ?_
          rcases List.mem_cons.1 member with rfl | later
          · exact ⟨line, read⟩
          · exact readable entry later
        obtain ⟨before, failing, text, after, left, split, readable, failed, reported⟩ :=
          inductionHypothesis further
        rw [split, reported]
        refine ⟨(number, trim raw) :: before, failing, text, after, left, rfl, ?_, failed, rfl⟩
        intro entry member
        rcases List.mem_cons.1 member with rfl | later
        · exact ⟨line, read⟩
        · exact readable entry later
    · rw [significantOf_cons_of_neg significant] at unreadable ⊢
      simp only [if_neg significant]
      exact inductionHypothesis unreadable

end Numbered

/-- A numbered line says something exactly if it stands at its place of the text, without the white space
at its ends, and is not empty and no comment then. -/
theorem mem_significantOf_iff {text line : List Char} {number : Nat} :
    (number, line) ∈ significantOf (numberedLines text) ↔
      1 ≤ number ∧ ∃ raw, (Text.lines text)[number - 1]? = some raw ∧ trim raw = line ∧
        line ≠ [] ∧ line.head? ≠ some '#' := by
  rw [significantOf, List.mem_filter, isSignificant_iff, numberedLines, List.map_map, List.mem_map]
  constructor
  · rintro ⟨⟨⟨raw, place⟩, member, same⟩, significant⟩
    obtain ⟨rfl, rfl⟩ := Prod.mk.inj same
    obtain ⟨positive, found⟩ := List.mem_zipIdx_iff_le_and_getElem?_sub.1 member
    exact ⟨positive, raw, found, rfl, significant⟩
  · rintro ⟨positive, raw, found, rfl, significant⟩
    exact ⟨⟨(raw, number), List.mem_zipIdx_iff_le_and_getElem?_sub.2 ⟨positive, found⟩, rfl⟩,
      significant⟩

theorem pairwise_significantOf (text : List Char) :
    (significantOf (numberedLines text)).Pairwise fun earlier later => earlier.1 < later.1 := by
  have increasing : (((Text.lines text).zipIdx 1).map Prod.snd).Pairwise (· < ·) := by
    rw [List.zipIdx_map_snd]
    exact List.pairwise_lt_range'
  refine List.Pairwise.filter _ ?_
  rw [numberedLines, List.map_map, List.pairwise_map]
  exact List.pairwise_map.1 increasing

/-- A text is read as its significant lines with their numbers if all of them can be read. Otherwise the
first that cannot is reported, at a character before which it is the beginning of some line. -/
theorem readDocument_or_locates (text : List Char) :
    (∀ number line, (number, line) ∈ significantOf (numberedLines text) ↔
      1 ≤ number ∧ ∃ raw, (Text.lines text)[number - 1]? = some raw ∧ trim raw = line ∧
        line ≠ [] ∧ line.head? ≠ some '#') ∧
    (significantOf (numberedLines text)).Pairwise (fun earlier later => earlier.1 < later.1) ∧
    ((∀ entry ∈ significantOf (numberedLines text), Readable entry) →
      ∃ lines, readDocument text = .ok lines ∧
        List.Forall₂ ReadFrom (significantOf (numberedLines text)) lines) ∧
    ((¬ ∀ entry ∈ significantOf (numberedLines text), Readable entry) →
      ∃ before number line after,
        significantOf (numberedLines text) = before ++ (number, line) :: after ∧
        (∀ entry ∈ before, Readable entry) ∧
        ∃ fault taken left, readDocument text = .error fault ∧
          fault.Locates number line taken left) := by
  refine ⟨fun number line => mem_significantOf_iff, pairwise_significantOf text,
    exists_readNumbered, fun unreadable => ?_⟩
  obtain ⟨before, number, line, after, left, split, readable, failed, reported⟩ :=
    exists_readNumbered_error unreadable
  obtain ⟨taken, locates⟩ := exists_locates number failed
  exact ⟨before, number, line, after, split, readable, _, taken, left, reported, locates⟩

def accented : List Char := "A : a\n É B".toList

/-- The column counts bytes: the letter before the space has two. -/
theorem locates_behind_accent :
    (¬ ∀ entry ∈ significantOf (numberedLines accented), Readable entry) ∧
      ∃ before number line after,
        significantOf (numberedLines accented) = before ++ (number, line) :: after ∧
        (∀ entry ∈ before, Readable entry) ∧
        ∃ fault taken left, readDocument accented = .error fault ∧
          fault.Locates number line taken left := by
  have failed : readLine ("É B".toList) = .error ("B".toList) := by decide +kernel
  have unreadable : ¬ ∀ entry ∈ significantOf (numberedLines accented), Readable entry := by
    intro readable
    obtain ⟨line, read⟩ := readable (2, "É B".toList) (by decide +kernel)
    rw [failed] at read
    cases read
  exact ⟨unreadable, (readDocument_or_locates accented).2.2.2 unreadable⟩

example : readDocument accented = .error ⟨2, 4, "B"⟩ := by decide +kernel

end ChartParsing.GrammarText
