import ChartParsing.Proofs.Chart.Alike
import ChartParsing.Proofs.Chart.Termination

/-!
Contract: two constructions side by side.

Owns the comparison of two constructions whose grammars are paired and whose sentences have words of
paired categories. The machine asks only whether items are equal, whether a symbol is a phrase symbol
or a reserved one, and which productions it has, and paired grammars give the same answers. So the two
constructions enter rows that are alike, in the same order and with the same numbers.
-/

set_option autoImplicit false

namespace ChartParsing.Lockstep

open Construction

variable {grammar grammar' : Grammar} {sentence sentence' : Sentence}
  (lockstep : Lockstep grammar grammar' sentence sentence')

/-! ## What is alike -/

/-- Rows to be entered, each into the same chart. -/
def Entries (entries entries' : List (Nat × Row)) : Prop :=
  List.Forall₂ (fun entry entry' => entry.1 = entry'.1 ∧ lockstep.Rows entry.2 entry'.2)
    entries entries'

inductive Works : Work → Work → Prop where
  | idle : Works .idle .idle
  | entering {entries entries' : List (Nat × Row)} (alike : lockstep.Entries entries entries') :
      Works (.entering entries) (.entering entries')
  | completing {row row' : Row} (alike : lockstep.Rows row row') (index : Nat) :
      Works (.completing row index) (.completing row' index)

inductive States : Construction → Construction → Prop where
  | mk {charts charts' : Charts} {work work' : Work} (stores : lockstep.Stores charts charts')
      (works : lockstep.Works work work') (position cursor : Nat) (stopped : Bool) :
      States ⟨charts, position, cursor, work, stopped⟩ ⟨charts', position, cursor, work', stopped⟩

inductive Outcomes : Progress → Progress → Prop where
  | running {state state' : Construction} (alike : lockstep.States state state') :
      Outcomes (.running state) (.running state')
  | finished {charts charts' : Charts} (alike : lockstep.Stores charts charts') :
      Outcomes (.finished charts) (.finished charts')
  | cancelled : Outcomes .cancelled .cancelled
  | astray : Outcomes .astray .astray

variable {lockstep}

/-! ## Work -/

theorem predictions_alike {symbol symbol' : Symbol} (paired : lockstep.symbol symbol symbol')
    (position : Nat) :
    lockstep.Entries (predictions grammar position symbol)
      (predictions grammar' position symbol') := by
  rw [Entries, predictions, predictions, List.forall₂_map_left_iff, List.forall₂_map_right_iff]
  exact (lockstep.productionsOf paired).imp fun _ _ paired => ⟨rfl, .predicted paired position⟩

theorem wordMatches_alike {symbol symbol' : Symbol} (paired : lockstep.symbol symbol symbol')
    (position : Nat) :
    lockstep.Entries (wordMatches grammar sentence position symbol)
      (wordMatches grammar' sentence' position symbol') := by
  unfold wordMatches
  have found := related_getElem? lockstep.words position
  cases stands : sentence.words[position]? with
  | none =>
    rw [stands] at found
    cases stands' : sentence'.words[position]? with
    | none => exact .nil
    | some text' =>
      rw [stands'] at found
      exact nomatch found
  | some text =>
    rw [stands] at found
    cases stands' : sentence'.words[position]? with
    | none =>
      rw [stands'] at found
      exact nomatch found
    | some text' =>
      rw [stands'] at found
      cases found with
      | some categories =>
        have same : accepts grammar symbol text = accepts grammar' symbol' text' := by
          unfold accepts
          rw [decide_eq_decide.2 (lockstep.eq_iff categories paired),
            decide_eq_decide.2 (lockstep.eq_iff paired lockstep.unknown)]
        dsimp only
        rw [same]
        cases accepts grammar' symbol' text' with
        | false => exact .nil
        | true =>
          exact .cons ⟨rfl, ⟨.word paired stands stands' rfl, rfl, rfl, rfl⟩, rfl, rfl, rfl⟩ .nil

theorem emptyMatches_alike {symbol symbol' : Symbol} (paired : lockstep.symbol symbol symbol')
    (position : Nat) :
    lockstep.Entries (emptyMatches position symbol) (emptyMatches position symbol') := by
  unfold emptyMatches
  by_cases isEmpty : symbol = .empty
  · rw [if_pos isEmpty, if_pos ((lockstep.eq_iff paired lockstep.empty).1 isEmpty)]
    exact .cons ⟨rfl, ⟨.nothing rfl, rfl, rfl, rfl⟩, rfl, rfl, rfl⟩ .nil
  · rw [if_neg isEmpty, if_neg (mt (lockstep.eq_iff paired lockstep.empty).2 isEmpty)]
    exact .nil

section Work

variable {row row' : Row} (alike : lockstep.Rows row row')

include alike

theorem workFor_alike :
    lockstep.Works (workFor grammar sentence row) (workFor grammar' sentence' row') := by
  have expects := alike.item.next?
  unfold workFor
  rw [← alike.item.stop, ← alike.item.rule.isSeed]
  generalize row.next? = next at expects
  generalize row'.next? = next' at expects
  cases expects with
  | none =>
    cases row.rule.isSeed with
    | true => exact .idle
    | false => exact .completing alike 0
  | @some symbol symbol' paired =>
    dsimp only
    rw [← lockstep.isPhrase paired]
    cases symbol.isPhrase with
    | true => exact .entering (predictions_alike paired row.stop)
    | false =>
      exact .entering (List.rel_append (wordMatches_alike paired row.stop)
        (emptyMatches_alike paired row.stop))

theorem raisesStop_alike :
    Construction.raisesStop sentence row = Construction.raisesStop sentence' row' := by
  have expects := alike.item.next?
  unfold Construction.raisesStop
  rw [← alike.item.stop, lockstep.raisesStop]
  generalize row.next? = next at expects
  generalize row'.next? = next' at expects
  cases expects with
  | none => rfl
  | some paired =>
    dsimp only
    rw [Symbol.isTerminal, Symbol.isTerminal, lockstep.isPhrase paired]

end Work

/-! ## Steps -/

section Steps

variable {charts charts' : Charts} (stores : lockstep.Stores charts charts')

include stores

theorem look_alike (position cursor : Nat) (stopped : Bool) :
    lockstep.Outcomes (look grammar sentence charts position cursor stopped)
      (look grammar' sentence' charts' position cursor stopped) := by
  unfold look
  rw [stores.size?]
  cases charts'.size? position with
  | none => exact .finished stores
  | some size =>
    dsimp only
    by_cases atTop : (decide (cursor = 0) && stopped) = true
    · rw [if_pos atTop, if_pos atTop]
      exact .cancelled
    rw [if_neg atTop, if_neg atTop]
    by_cases more : cursor < size
    · rw [if_pos more, if_pos more]
      cases stopped with
      | true => exact .cancelled
      | false =>
        have found := stores.rowAt? position cursor
        generalize charts.rowAt? position cursor = row? at found
        generalize charts'.rowAt? position cursor = row?' at found
        cases found with
        | none => exact .astray
        | some alike =>
          simp only [workFor?_eq, raisesStop_alike alike]
          exact .running (.mk stores (workFor_alike alike) _ _ _)
    · rw [if_neg more, if_neg more]
      exact .running (.mk stores .idle _ _ _)

theorem enter_alike {entries entries' : List (Nat × Row)}
    (alike : lockstep.Entries entries entries') (position cursor : Nat) (stopped : Bool) :
    lockstep.Outcomes (enter charts position cursor entries stopped)
      (enter charts' position cursor entries' stopped) := by
  unfold enter
  cases alike with
  | nil => exact .running (.mk stores .idle _ _ _)
  | @cons entry entry' _ _ first others =>
    obtain ⟨place, row⟩ := entry
    obtain ⟨place', row'⟩ := entry'
    obtain ⟨same, rows⟩ := first
    obtain rfl : place = place' := same
    have entered := stores.enter? rows place
    dsimp only
    generalize charts.enter? place row = entered? at entered
    generalize charts'.enter? place row' = entered?' at entered
    cases entered with
    | none => exact .astray
    | some grown => exact .running (.mk grown (.entering others) _ _ _)

theorem complete_alike {completed completed' : Row} (alike : lockstep.Rows completed completed')
    (position cursor index : Nat) (stopped : Bool) :
    lockstep.Outcomes (complete charts position cursor completed index stopped)
      (complete charts' position cursor completed' index stopped) := by
  unfold complete
  rw [stores.size?, ← alike.item.start, ← alike.item.stop, ← alike.id]
  cases charts'.size? completed.start with
  | none => exact .astray
  | some size =>
    dsimp only
    by_cases more : index < size
    · have found := stores.rowAt? completed.start index
      rw [if_pos more, if_pos more]
      generalize charts.rowAt? completed.start index = row? at found
      generalize charts'.rowAt? completed.start index = row?' at found
      cases found with
      | none => exact .astray
      | @some waiting waiting' rows =>
        dsimp only
        rw [← rows.awaits alike.item.rule.head]
        cases waits : Construction.awaits waiting completed.start completed.rule.head with
        | false => exact .running (.mk stores (.completing alike _) _ _ _)
        | true =>
          have expects := (awaits_eq_true_iff.1 waits).2
          have entered := stores.enter? (rows.advance expects completed.stop completed.id)
            completed.stop
          generalize charts.enter? completed.stop _ = entered? at entered
          generalize charts'.enter? completed.stop _ = entered?' at entered
          cases entered with
          | none => exact .astray
          | some grown => exact .running (.mk grown (.completing alike _) _ _ _)
    · rw [if_neg more, if_neg more]
      exact .running (.mk stores .idle _ _ _)

end Steps

/-- Constructions that are alike take steps that are alike. -/
theorem States.step {state state' : Construction} (alike : lockstep.States state state') :
    lockstep.Outcomes (state.step grammar sentence) (state'.step grammar' sentence') := by
  cases alike with
  | mk stores works position cursor stopped =>
    cases works with
    | idle => exact look_alike stores position cursor stopped
    | entering alike => exact enter_alike stores alike position cursor stopped
    | completing alike index => exact complete_alike stores alike position cursor index stopped

theorem Outcomes.advance {progress progress' : Progress} (alike : lockstep.Outcomes progress progress')
    (steps : Nat) :
    lockstep.Outcomes (progress.advance grammar sentence steps)
      (progress'.advance grammar' sentence' steps) := by
  induction steps generalizing progress progress' with
  | zero => exact alike
  | succ steps inductionHypothesis =>
    cases alike with
    | running alike => exact inductionHypothesis alike.step
    | finished alike => exact .finished alike
    | cancelled => exact .cancelled
    | astray => exact .astray

theorem seeded_alike : lockstep.Stores (seeded sentence) (seeded sentence') := by
  have length := lockstep.words.length_eq
  have blank : lockstep.Stores (Charts.blank (sentence.words.length + 1))
      (Charts.blank (sentence'.words.length + 1)) := by
    rw [length]
    exact ⟨.nil, rfl⟩
  have seed : lockstep.Rows (Row.opening .seed 0 0 .seed) (Row.opening .seed 0 0 .seed) :=
    ⟨⟨.seed, rfl, rfl, rfl⟩, rfl, rfl, rfl⟩
  have added := blank.add? seed 0
  unfold seeded
  dsimp only
  generalize Charts.add? _ 0 _ = added? at added
  generalize Charts.add? _ 0 _ = added?' at added
  cases added with
  | none => exact blank
  | some stores => exact stores

/-- The two constructions come to charts that are alike, or are both cancelled. -/
theorem construct_alike (lockstep : Lockstep grammar grammar' sentence sentence') :
    lockstep.Outcomes (construct grammar sentence) (construct grammar' sentence') := by
  -- The allowances of steps differ, so both are raised to the greater one.
  rw [← advance_eq_construct (le_max_left (stepBound grammar sentence) (stepBound grammar' sentence')),
    ← advance_eq_construct (le_max_right (stepBound grammar sentence) (stepBound grammar' sentence'))]
  exact (Outcomes.running (.mk seeded_alike .idle 0 0 false)).advance _

end ChartParsing.Lockstep
