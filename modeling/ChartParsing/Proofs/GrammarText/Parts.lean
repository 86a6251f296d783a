import ChartParsing.Proofs.GrammarText.Form
import Mathlib.Data.List.TakeWhile

/-!
Contract: reading parts and lists of parts back from their spelling.

Owns where a run of characters ends, which character a text leads with after its spacing, and the law
of a list of parts: when every part is read back from its spelling, so is a list of them, whatever the
separation between the parts; conversely, whatever is read was spelled; and a spelling is the spelling
of one list only.
-/

set_option autoImplicit false

namespace ChartParsing.GrammarText

open ChartParsing.Text

/-! ### Where a run ends -/

/-- A text does not begin with a character of a class. -/
def Ends (inClass : Char → Bool) (rest : List Char) : Prop :=
  ∀ character, rest.head? = some character → inClass character = false

section Runs

variable {inClass : Char → Bool} {taken other rest left : List Char}

theorem ends_nil : Ends inClass [] := by
  intro character impossible
  cases impossible

theorem ends_cons {character : Char} (outside : inClass character = false) :
    Ends inClass (character :: rest) := by
  intro first same
  rw [← Option.some.inj same]
  exact outside

theorem ends_append (some : taken ≠ []) (outside : ∀ character ∈ taken, inClass character = false) :
    Ends inClass (taken ++ rest) := by
  cases taken with
  | nil => exact absurd rfl some
  | cons first others => exact ends_cons (outside first List.mem_cons_self)

theorem ends_dropWhile (text : List Char) : Ends inClass (text.dropWhile inClass) := by
  intro first same
  have outside := List.head?_dropWhile_not inClass text
  rw [same] at outside
  exact outside

theorem takeWhile_exact (inside : ∀ character ∈ taken, inClass character = true)
    (ends : Ends inClass rest) : (taken ++ rest).takeWhile inClass = taken := by
  have nothing : rest.takeWhile inClass = [] := by
    cases rest with
    | nil => rfl
    | cons first others => simp [ends first rfl]
  rw [List.takeWhile_append_of_pos inside, nothing, List.append_nil]

theorem dropWhile_exact (inside : ∀ character ∈ taken, inClass character = true)
    (ends : Ends inClass rest) : (taken ++ rest).dropWhile inClass = rest := by
  rw [List.dropWhile_append_of_pos inside]
  cases rest with
  | nil => rfl
  | cons first others => simp [ends first rfl]

/-- A text is cut at the end of a run in one way only. -/
theorem append_inj_of_ends (inside : ∀ character ∈ taken, inClass character = true)
    (alsoInside : ∀ character ∈ other, inClass character = true) (ends : Ends inClass rest)
    (alsoEnds : Ends inClass left) (same : taken ++ rest = other ++ left) :
    taken = other ∧ rest = left := by
  constructor
  · rw [← takeWhile_exact inside ends, same, takeWhile_exact alsoInside alsoEnds]
  · rw [← dropWhile_exact inside ends, same, dropWhile_exact alsoInside alsoEnds]

/-- A text is cut in one way only at the first place of a character. -/
theorem append_cons_inj {mark : Char} (clean : mark ∉ taken) (alsoClean : mark ∉ other)
    (same : taken ++ mark :: rest = other ++ mark :: left) : taken = other ∧ rest = left := by
  have outside {text : List Char} (clean : mark ∉ text) :
      ∀ character ∈ text, (character != mark) = true :=
    fun character member => bne_iff_ne.2 fun isMark => clean (isMark ▸ member)
  have ends {text : List Char} : Ends (· != mark) (mark :: text) :=
    ends_cons (bne_self_eq_false mark)
  obtain ⟨sameTaken, sameMark⟩ :=
    append_inj_of_ends (outside clean) (outside alsoClean) ends ends same
  exact ⟨sameTaken, (List.cons.inj sameMark).2⟩

theorem read_run_text (form : Run inClass) (ends : Ends inClass rest) :
    (run inClass).read (form.text ++ rest) = .ok (String.ofList form.text, rest) := by
  have taken := takeWhile_exact form.inside ends
  have dropped := dropWhile_exact form.inside ends
  simp only [run]
  rw [taken, dropped]
  cases text : form.text with
  | nil => exact absurd text form.nonempty
  | cons first others => rfl

/-- What is read as a run was spelled as one, and is as long as can be. -/
theorem exists_of_read_run {text : List Char} {value : String}
    (found : (run inClass).read text = .ok (value, rest)) :
    ∃ form : Run inClass, text = form.text ++ rest ∧ String.ofList form.text = value ∧
      Ends inClass rest := by
  simp only [run] at found
  split at found
  case h_1 => cases found
  case h_2 nonempty =>
    obtain ⟨rfl, rfl⟩ := Prod.mk.inj (Except.ok.inj found)
    exact ⟨⟨text.takeWhile inClass, nonempty, fun _ member => List.mem_takeWhile_imp member⟩,
      List.takeWhile_append_dropWhile.symm, rfl, ends_dropWhile text⟩

theorem read_run_of_ends (ends : Ends inClass rest) : (run inClass).read rest = .error rest := by
  cases rest with
  | nil => rfl
  | cons first others => simp [run, ends first rfl]

/-- A run fails where it would begin. -/
theorem eq_of_read_run_error {text : List Char} (failed : (run inClass).read text = .error left) :
    left = text := by
  simp only [run] at failed
  split at failed
  case h_1 => exact (Except.error.inj failed).symm
  case h_2 => cases failed

end Runs

/-! ### What a text leads with -/

/-- The first character of a text that is not spacing is one of the given ones, if there is any. -/
def Leads (marks : List Char) (text : List Char) : Prop :=
  ∀ character, (skipSpacing text).head? = some character → character ∈ marks

section Leading

variable {marks rest : List Char}

@[simp] theorem skipSpacing_append (spaces : Spaces) (rest : List Char) :
    skipSpacing (spaces.text ++ rest) = skipSpacing rest :=
  List.dropWhile_append_of_pos spaces.inside

theorem skipSpacing_eq_self (ends : Ends isSpacing rest) : skipSpacing rest = rest := by
  show ([] ++ rest).dropWhile isSpacing = rest
  exact dropWhile_exact (fun _ member => absurd member List.not_mem_nil) ends

theorem skipSpacing_cons {character : Char} (notSpacing : isSpacing character = false) :
    skipSpacing (character :: rest) = character :: rest :=
  skipSpacing_eq_self (ends_cons notSpacing)

/-- The spacing that is skipped, and what is left. -/
theorem exists_of_skipSpacing (text : List Char) :
    ∃ spaces : Spaces, text = spaces.text ++ skipSpacing text :=
  ⟨⟨text.takeWhile isSpacing, fun _ member => List.mem_takeWhile_imp member⟩,
    List.takeWhile_append_dropWhile.symm⟩

theorem Spaces.append_inj {spaces others : Spaces} {left : List Char} (ends : Ends isSpacing rest)
    (alsoEnds : Ends isSpacing left) (same : spaces.text ++ rest = others.text ++ left) :
    spaces = others ∧ rest = left := by
  have cut := append_inj_of_ends spaces.inside others.inside ends alsoEnds same
  exact ⟨Spaces.ext cut.1, cut.2⟩

theorem leads_spaces {spaces : Spaces} (leads : Leads marks rest) :
    Leads marks (spaces.text ++ rest) := by
  intro character first
  rw [skipSpacing_append] at first
  exact leads character first

theorem leads_cons {character : Char} (notSpacing : isSpacing character = false)
    (listed : character ∈ marks) : Leads marks (character :: rest) := by
  intro first same
  rw [skipSpacing_cons notSpacing] at same
  rw [← Option.some.inj same]
  exact listed

theorem leads_trailing (marks : List Char) (spaces : Spaces) : Leads marks spaces.text := by
  have nothing : skipSpacing spaces.text = [] := by
    have appended := skipSpacing_append spaces []
    rw [List.append_nil] at appended
    exact appended
  intro character first
  rw [nothing] at first
  cases first

theorem Leads.mono {more : List Char} (leads : Leads marks rest) (subset : marks ⊆ more) :
    Leads more rest :=
  fun character first => subset (leads character first)

/-- After spacing too there is no character of a class that no leading mark is in. -/
theorem Leads.ends {inClass : Char → Bool} (leads : Leads marks rest)
    (outside : marks.any inClass = false) : Ends inClass (skipSpacing rest) :=
  fun character first =>
    Bool.eq_false_of_not_eq_true (List.any_eq_false.1 outside character (leads character first))

/-- A text that leads with a mark does not begin with a character that is neither mark nor
spacing. -/
theorem Leads.ends_self {inClass : Char → Bool} (leads : Leads marks rest)
    (outside : marks.any inClass = false)
    (apart : ∀ character, inClass character = true → isSpacing character = false) :
    Ends inClass rest := by
  intro character first
  by_contra inside
  rw [Bool.not_eq_false] at inside
  have notSpacing : Ends isSpacing rest := by
    intro other same
    rw [first] at same
    rw [← Option.some.inj same]
    exact apart character inside
  have ends := leads.ends outside
  rw [skipSpacing_eq_self notSpacing] at ends
  rw [ends character first] at inside
  cases inside

end Leading

/-! ### Sequences and signs -/

section Sequences

variable {First Value : Type} {first : Part First} {next : First → Part Value}
  {text rest left : List Char}

theorem read_bind_of_read {value : First} (read : first.read text = .ok (value, rest)) :
    (first >>= next).read text = (next value).read rest := by
  rw [Part.read_bind, read]

theorem read_bind_of_error (failed : first.read text = .error left) :
    (first >>= next).read text = .error left := by
  rw [Part.read_bind, failed]

/-- A sequence fails in its first part or in what follows it. -/
theorem cases_of_read_bind_error (failed : (first >>= next).read text = .error left) :
    first.read text = .error left ∨
      ∃ value middle, first.read text = .ok (value, middle) ∧
        (next value).read middle = .error left := by
  cases firstRead : first.read text with
  | error firstLeft =>
    rw [read_bind_of_error firstRead] at failed
    exact .inl (congrArg Except.error (Except.error.inj failed))
  | ok pair =>
    rw [read_bind_of_read firstRead] at failed
    exact .inr ⟨pair.1, pair.2, rfl, failed⟩

theorem exists_of_read_spacing {value : Unit} (found : spacing.read text = .ok (value, rest)) :
    skipSpacing text = rest ∧ ∃ spaces : Spaces, text = spaces.text ++ rest := by
  obtain rfl := (Prod.mk.inj (Except.ok.inj found)).2
  exact ⟨rfl, exists_of_skipSpacing text⟩

theorem read_spacing_text (spaces : Spaces) (ends : Ends isSpacing rest) :
    spacing.read (spaces.text ++ rest) = .ok ((), rest) := by
  have skipped : skipSpacing (spaces.text ++ rest) = rest := by
    rw [skipSpacing_append, skipSpacing_eq_self ends]
  show Except.ok ((), skipSpacing (spaces.text ++ rest)) = _
  rw [skipped]

end Sequences

theorem read_literal_cons (sign : Char) (rest : List Char) :
    (literal [sign]).read (sign :: rest) = .ok ((), rest) := by
  simp [literal]

theorem read_literal_append (sign rest : List Char) :
    (literal sign).read (sign ++ rest) = .ok ((), rest) := by
  simp [literal]

theorem eq_of_read_literal {sign text rest : List Char} {value : Unit}
    (found : (literal sign).read text = .ok (value, rest)) : text = sign ++ rest := by
  simp only [literal] at found
  split at found
  case isTrue isPrefix =>
    rw [← (Prod.mk.inj (Except.ok.inj found)).2]
    exact (List.prefix_iff_eq_append.1 (List.isPrefixOf_iff_prefix.1 isPrefix)).symm
  case isFalse => cases found

/-- A sign is not read where a text begins with another character, and fails there. -/
theorem read_literal_of_ne {first : Char} {sign text : List Char}
    (different : text.head? ≠ some first) : (literal (first :: sign)).read text = .error text := by
  cases text with
  | nil => rfl
  | cons other others =>
    have apart : first ≠ other := fun same => different (congrArg some same.symm)
    simp [literal, apart]

theorem eq_of_read_literal_error {sign text left : List Char}
    (failed : (literal sign).read text = .error left) : left = text := by
  simp only [literal] at failed
  split at failed
  case isTrue => cases failed
  case isFalse => exact (Except.error.inj failed).symm

/-! ### Lists of parts -/

/-- How the parts of a list, and what separates them, are spelled and read back. A part is read back
when what stands after it may follow a part, as every separation may. -/
structure Listing {Between Form Value : Type} (separator : Separator) (part : Part Value)
    (between : Between → List Char) (text : Form → List Char) (value : Form → Value)
    (Follows : List Char → Prop) : Prop where
  read : ∀ form rest, Follows rest → part.read (text form ++ rest) = .ok (value form, rest)
  spelled : ∀ {source rest found}, part.read source = .ok (found, rest) →
    ∃ form, source = text form ++ rest ∧ value form = found
  passes : ∀ separation form rest,
    separator.part.read (between separation ++ (text form ++ rest)) = .ok ((), text form ++ rest)
  separated : ∀ {source rest}, separator.part.read source = .ok ((), rest) →
    ∃ separation, source = between separation ++ rest
  follows : ∀ separation rest, Follows (between separation ++ rest)

/-- A text at which a list ends: it may follow a part, but is no separation with a part after it. -/
structure EndsList {Value : Type} (separator : Separator) (part : Part Value)
    (Follows : List Char → Prop) (rest : List Char) : Prop where
  follows : Follows rest
  nothing : ∀ after, separator.part.read rest = .ok ((), after) →
    ∃ left, part.read after = .error left

section FurtherItems

variable {Value : Type} {separator : Separator} {part : Part Value} {text after rest left : List Char}

theorem furtherItems_of_not_separated (absent : separator.part.read text = .error left) :
    furtherItems separator part text = ([], text) := by
  fun_cases furtherItems separator part text with
  | case1 => rfl
  | case2 => rfl
  | case3 other passed =>
    rw [absent] at passed
    cases passed

theorem furtherItems_of_no_item (passed : separator.part.read text = .ok ((), after))
    (absent : part.read after = .error left) : furtherItems separator part text = ([], text) := by
  fun_cases furtherItems separator part text with
  | case1 => rfl
  | case2 => rfl
  | case3 other alsoPassed first last found =>
    rw [passed] at alsoPassed
    obtain rfl := (Prod.mk.inj (Except.ok.inj alsoPassed)).2
    rw [absent] at found
    cases found

theorem furtherItems_of_item {value : Value} (passed : separator.part.read text = .ok ((), after))
    (found : part.read after = .ok (value, rest)) :
    furtherItems separator part text =
      (value :: (furtherItems separator part rest).1, (furtherItems separator part rest).2) := by
  fun_cases furtherItems separator part text with
  | case1 other absent =>
    rw [passed] at absent
    cases absent
  | case2 other alsoPassed last absent =>
    rw [passed] at alsoPassed
    obtain rfl := (Prod.mk.inj (Except.ok.inj alsoPassed)).2
    rw [found] at absent
    cases absent
  | case3 other alsoPassed first last alsoFound others final more =>
    rw [passed] at alsoPassed
    obtain rfl := (Prod.mk.inj (Except.ok.inj alsoPassed)).2
    rw [found] at alsoFound
    obtain ⟨rfl, rfl⟩ := Prod.mk.inj (Except.ok.inj alsoFound)
    rw [more]

/-- A list is its first item and what is read as further ones. -/
theorem read_items_of_read {value : Value} (found : part.read text = .ok (value, rest)) :
    (items separator part).read text =
      .ok (value :: (furtherItems separator part rest).1, (furtherItems separator part rest).2) := by
  rw [items, Part.read_bind, found]
  rfl

/-- A list fails where its first item does. -/
theorem read_items_error (failed : (items separator part).read text = .error left) :
    part.read text = .error left := by
  rcases cases_of_read_bind_error failed with first | ⟨value, middle, _, others⟩
  · exact first
  · cases others

theorem exists_of_read_items {values : List Value}
    (found : (items separator part).read text = .ok (values, rest)) :
    ∃ first middle, part.read text = .ok (first, middle) ∧
      values = first :: (furtherItems separator part middle).1 ∧
      rest = (furtherItems separator part middle).2 := by
  obtain ⟨first, middle, read, others⟩ := Part.exists_of_read_bind found
  rw [read_items_of_read read] at found
  obtain ⟨same, left⟩ := Prod.mk.inj (Except.ok.inj found)
  exact ⟨first, middle, read, same.symm, left.symm⟩

end FurtherItems

namespace Listing

variable {Between Form Value : Type} {separator : Separator} {part : Part Value}
  {between : Between → List Char} {text : Form → List Char} {value : Form → Value}
  {Follows : List Char → Prop} {rest left : List Char}

theorem follows_further (listing : Listing separator part between text value Follows)
    (others : List (Between × Form)) (ends : EndsList separator part Follows rest) :
    Follows (furtherText between text others ++ rest) := by
  cases others with
  | nil => exact ends.follows
  | cons other others =>
    rw [furtherText, List.append_assoc]
    exact listing.follows _ _

theorem furtherItems_eq (listing : Listing separator part between text value Follows)
    (others : List (Between × Form)) (ends : EndsList separator part Follows rest) :
    furtherItems separator part (furtherText between text others ++ rest) =
      (others.map fun other => value other.2, rest) := by
  induction others with
  | nil =>
    show furtherItems separator part rest = ([], rest)
    cases passed : separator.part.read rest with
    | error left => exact furtherItems_of_not_separated passed
    | ok pair =>
      obtain ⟨left, absent⟩ := ends.nothing pair.2 passed
      exact furtherItems_of_no_item passed absent
  | cons other others inductionHypothesis =>
    obtain ⟨separation, form⟩ := other
    have passed := listing.passes separation form (furtherText between text others ++ rest)
    have found := listing.read form _ (listing.follows_further others ends)
    rw [furtherText, List.append_assoc, List.append_assoc,
      furtherItems_of_item passed found, inductionHypothesis]
    rfl

theorem read_items_eq (listing : Listing separator part between text value Follows) (first : Form)
    (others : List (Between × Form)) (ends : EndsList separator part Follows rest) :
    (items separator part).read (text first ++ (furtherText between text others ++ rest)) =
      .ok (value first :: others.map fun other => value other.2, rest) := by
  have found := listing.read first _ (listing.follows_further others ends)
  rw [read_items_of_read found, listing.furtherItems_eq others ends]

/-- Whatever is read as further parts was spelled as separations and parts. -/
theorem exists_of_furtherItems (listing : Listing separator part between text value Follows)
    (source : List Char) : ∃ others : List (Between × Form),
      source = furtherText between text others ++ (furtherItems separator part source).2 ∧
        (furtherItems separator part source).1 = others.map fun other => value other.2 := by
  -- The induction follows the reading: no separation, a separation without a part, or one of each.
  induction source using furtherItems.induct separator part with
  | case1 source left absent =>
    rw [furtherItems_of_not_separated absent]
    exact ⟨[], rfl, rfl⟩
  | case2 source after passed left absent =>
    rw [furtherItems_of_no_item passed absent]
    exact ⟨[], rfl, rfl⟩
  | case3 source after passed found afterFirst read _ _ _ inductionHypothesis =>
    obtain ⟨separation, separated⟩ := listing.separated passed
    obtain ⟨form, spelled, same⟩ := listing.spelled read
    obtain ⟨others, further, values⟩ := inductionHypothesis
    rw [furtherItems_of_item passed read]
    refine ⟨(separation, form) :: others, ?_, ?_⟩
    · show source = between separation ++ (text form ++ furtherText between text others) ++ _
      rw [List.append_assoc, List.append_assoc, ← further, ← spelled]
      exact separated
    · rw [values, ← same]
      rfl

/-- Whatever is read as a list was spelled as one. -/
theorem exists_of_items (listing : Listing separator part between text value Follows)
    {source : List Char} {values : List Value}
    (found : (items separator part).read source = .ok (values, rest)) :
    ∃ (first : Form) (others : List (Between × Form)),
      source = text first ++ (furtherText between text others ++ rest) ∧
        values = value first :: others.map fun other => value other.2 := by
  obtain ⟨firstValue, afterFirst, firstRead, rfl, rfl⟩ := exists_of_read_items found
  obtain ⟨first, spelled, same⟩ := listing.spelled firstRead
  obtain ⟨others, further, more⟩ := listing.exists_of_furtherItems afterFirst
  refine ⟨first, others, ?_, ?_⟩
  · rw [← further]
    exact spelled
  · rw [same, more]

/-- A text is cut after a part in one way only, since the part is read in one way. -/
theorem part_inj (listing : Listing separator part between text value Follows)
    (injective : Function.Injective text) {form other : Form} (follows : Follows rest)
    (alsoFollows : Follows left) (same : text form ++ rest = text other ++ left) :
    form = other ∧ rest = left := by
  have found := listing.read form rest follows
  rw [same, listing.read other left alsoFollows] at found
  obtain rfl := (Prod.mk.inj (Except.ok.inj found)).2
  exact ⟨injective (List.append_cancel_right same), rfl⟩

/-- A list does not end where a separation and a part stand. -/
theorem not_endsList (listing : Listing separator part between text value Follows)
    (others : List (Between × Form)) (separation : Between) (form : Form)
    (ends : EndsList separator part Follows left) :
    ¬ EndsList separator part Follows
      (furtherText between text ((separation, form) :: others) ++ left) := by
  intro alsoEnds
  rw [furtherText, List.append_assoc, List.append_assoc] at alsoEnds
  obtain ⟨place, absent⟩ := alsoEnds.nothing _ (listing.passes separation form _)
  rw [listing.read form _ (listing.follows_further others ends)] at absent
  cases absent

theorem further_inj (listing : Listing separator part between text value Follows)
    (injective : Function.Injective text) (betweenInjective : Function.Injective between)
    (ends : EndsList separator part Follows rest) (alsoEnds : EndsList separator part Follows left)
    {forms others : List (Between × Form)}
    (same : furtherText between text forms ++ rest = furtherText between text others ++ left) :
    forms = others ∧ rest = left := by
  induction forms generalizing others with
  | nil =>
    cases others with
    | nil => exact ⟨rfl, same⟩
    | cons other others =>
      have impossible := listing.not_endsList others other.1 other.2 alsoEnds
      rw [← same] at impossible
      exact absurd ends impossible
  | cons form forms inductionHypothesis =>
    cases others with
    | nil =>
      have impossible := listing.not_endsList forms form.1 form.2 ends
      rw [same] at impossible
      exact absurd alsoEnds impossible
    | cons other others =>
      obtain ⟨separation, form⟩ := form
      obtain ⟨otherSeparation, other⟩ := other
      simp only [furtherText, List.append_assoc] at same
      -- Reading past the separation leaves the same text of both spellings.
      have passed := listing.passes separation form (furtherText between text forms ++ rest)
      rw [same, listing.passes otherSeparation other] at passed
      have parts := (Prod.mk.inj (Except.ok.inj passed)).2
      rw [parts] at same
      obtain rfl := betweenInjective (List.append_cancel_right same)
      obtain ⟨rfl, further⟩ := listing.part_inj injective (listing.follows_further others alsoEnds)
        (listing.follows_further forms ends) parts
      obtain ⟨rfl, rest⟩ := inductionHypothesis further.symm
      exact ⟨rfl, rest⟩

/-- A text is cut into a list and what follows it in one way only. -/
theorem list_inj (listing : Listing separator part between text value Follows)
    (injective : Function.Injective text) (betweenInjective : Function.Injective between)
    (ends : EndsList separator part Follows rest) (alsoEnds : EndsList separator part Follows left)
    {first other : Form} {forms others : List (Between × Form)}
    (same : text first ++ (furtherText between text forms ++ rest) =
      text other ++ (furtherText between text others ++ left)) :
    first = other ∧ forms = others ∧ rest = left := by
  obtain ⟨sameFirst, further⟩ := listing.part_inj injective (listing.follows_further forms ends)
    (listing.follows_further others alsoEnds) same
  exact ⟨sameFirst, listing.further_inj injective betweenInjective ends alsoEnds further⟩

end Listing

end ChartParsing.GrammarText
