import GreedyMatch.Matcher.Lemmas
import GreedyMatch.Proofs.Repetition

set_option autoImplicit false

namespace GreedyMatch

theorem Matcher.outcome_eq_ofRepeats {attempt : Attempt} {quantifier : Quantifier}
    {input : List Char} {total : Nat} {captures : List Capture}
    (h : Repetition quantifier attempt.outcome 0 input total captures) :
    Matcher.outcome ⟨attempt, quantifier⟩ input = .ofRepeats quantifier total captures := by
  change Outcome.ofRepeats quantifier (repeats (m := Id) quantifier attempt.outcome 0 input).1
    (repeats (m := Id) quantifier attempt.outcome 0 input).2 = _
  rw [h.eq_repeats]

theorem Outcome.ofRepeats_eq_matched {quantifier : Quantifier} {total length : Nat}
    {captures : List Capture} {capture : Capture}
    (h : Outcome.ofRepeats quantifier total captures = .matched length capture) :
    quantifier.minCount ≤ captures.length ∧ total = length ∧ .ofRepeats captures = capture := by
  rw [Outcome.ofRepeats] at h
  split at h
  · rename_i hmin
    cases h
    exact ⟨of_decide_eq_true hmin, rfl, rfl⟩
  · cases h

theorem Outcome.ofRepeats_of_le {quantifier : Quantifier} {captures : List Capture}
    (h : quantifier.minCount ≤ captures.length) (total : Nat) :
    Outcome.ofRepeats quantifier total captures = .matched total (.ofRepeats captures) := by
  rw [Outcome.ofRepeats, Quantifier.satisfiedBy, if_pos (decide_eq_true h)]

theorem Outcome.ofRepeats_of_lt {quantifier : Quantifier} {captures : List Capture}
    (h : captures.length < quantifier.minCount) (total : Nat) :
    Outcome.ofRepeats quantifier total captures = .fail := by
  rw [Outcome.ofRepeats, Quantifier.satisfiedBy, if_neg (by simpa using h)]

/-- A match has enough repeats, and they are what its capture is made of. -/
theorem Matcher.repetition_of_matched {matcher : Matcher} {input : List Char} {length : Nat}
    {capture : Capture} (h : matcher.outcome input = .matched length capture) :
    ∃ captures, capture = .ofRepeats captures ∧ matcher.quantifier.minCount ≤ captures.length ∧
      Repetition matcher.quantifier matcher.attempt.outcome 0 input length captures := by
  obtain ⟨attempt, quantifier⟩ := matcher
  have hrepetition := repetition_repeats quantifier attempt.outcome 0 input
  rw [Matcher.outcome_eq_ofRepeats hrepetition] at h
  obtain ⟨hmin, rfl, rfl⟩ := Outcome.ofRepeats_eq_matched h
  exact ⟨_, rfl, hmin, hrepetition⟩

theorem literalOutcome_eq_matched {text : String} {chars input : List Char} {length : Nat}
    {capture : Capture} (h : literalOutcome text chars input = .matched length capture) :
    chars <+: input ∧ length = chars.length ∧ capture = .leaf text := by
  rw [literalOutcome] at h
  split at h
  · rename_i hstarts
    cases h
    exact ⟨List.isPrefixOf_iff_prefix.mp hstarts, rfl, rfl⟩
  · cases h

theorem charOutcome_eq_matched {test : CharTest} {input : List Char} {length : Nat}
    {capture : Capture} (h : charOutcome test input = .matched length capture) :
    ∃ c rest, input = c :: rest ∧ test.accepts c = true ∧ length = 1 ∧ capture = .ofChar c := by
  cases input with
  | nil => cases h
  | cons c rest =>
    rw [charOutcome] at h
    split at h
    · rename_i haccepts
      cases h
      exact ⟨c, rest, rfl, haccepts, rfl, rfl⟩
    · cases h

theorem Attempt.outcome_sequence (children : List Matcher) (input : List Char) :
    (Attempt.sequence children).outcome input =
      .ofSlots (slots (m := Id) (children.map Matcher.outcome) input) := by
  change Outcome.ofSlots (slots (m := Id) (runAll children) input) = _
  rw [runAll_eq_map]
  rfl

theorem Attempt.slots_of_matched {children : List Matcher} {input : List Char} {length : Nat}
    {capture : Capture} (h : (Attempt.sequence children).outcome input = .matched length capture) :
    ∃ captures, capture = .group captures ∧
      slots (m := Id) (children.map Matcher.outcome) input = some (length, captures) := by
  rw [Attempt.outcome_sequence] at h
  cases hslots : slots (m := Id) (children.map Matcher.outcome) input with
  | none =>
    rw [hslots] at h
    cases h
  | some found =>
    rw [hslots] at h
    cases h
    exact ⟨found.2, rfl, rfl⟩

theorem Attempt.inTurn_of_matched {children : List Matcher} {input : List Char} {length : Nat}
    {capture : Capture} (h : (Attempt.sequence children).outcome input = .matched length capture) :
    ∃ captures, capture = .group captures ∧
      InTurn (children.map Matcher.outcome) input length captures := by
  obtain ⟨captures, hcapture, hslots⟩ := Attempt.slots_of_matched h
  exact ⟨captures, hcapture, inTurn_of_slots _ _ _ _ hslots⟩

theorem Attempt.outcome_alternation (children : List Matcher) (input : List Char) :
    (Attempt.alternation children).outcome input =
      firstMatch (m := Id) (children.map Matcher.outcome) input := by
  change firstMatch (m := Id) (runAll children) input = _
  rw [runAll_eq_map]
  rfl

theorem firstMatch_cons (step : List Char → Outcome) (steps : List (List Char → Outcome))
    (input : List Char) :
    firstMatch (m := Id) (step :: steps) input =
      match step input with
      | .fail => firstMatch (m := Id) steps input
      | .matched length capture => .matched length capture := by
  rw [firstMatch]
  rfl

theorem firstMatch_eq_matched {steps : List (List Char → Outcome)} {input : List Char}
    {length : Nat} {capture : Capture}
    (h : firstMatch (m := Id) steps input = .matched length capture) :
    ∃ step ∈ steps, step input = .matched length capture := by
  induction steps with
  | nil => cases h
  | cons step steps ih =>
    rw [firstMatch_cons] at h
    cases hstep : step input with
    | fail =>
      rw [hstep] at h
      obtain ⟨later, hmem, hlater⟩ := ih h
      exact ⟨later, .tail _ hmem, hlater⟩
    | matched length capture =>
      rw [hstep] at h
      exact ⟨step, List.mem_cons_self, hstep.trans h⟩

theorem Attempt.child_of_matched {children : List Matcher} {input : List Char} {length : Nat}
    {capture : Capture}
    (h : (Attempt.alternation children).outcome input = .matched length capture) :
    ∃ child ∈ children, child.outcome input = .matched length capture := by
  rw [Attempt.outcome_alternation] at h
  obtain ⟨step, hmem, hstep⟩ := firstMatch_eq_matched h
  obtain ⟨child, hchild, rfl⟩ := List.mem_map.mp hmem
  exact ⟨child, hchild, hstep⟩

theorem guarded_eq_matched {step : List Char → Outcome} {input : List Char} {length : Nat}
    {capture : Capture} (h : guarded (m := Id) step input = .matched length capture) :
    step input = .matched length capture ∧ length ≤ input.length := by
  change checked (m := Id) input.length (step input) = _ at h
  cases hstep : step input with
  | fail =>
    rw [hstep] at h
    cases h
  | matched claimed capture =>
    rw [hstep, checked] at h
    split at h
    · cases h
    · cases h
      exact ⟨rfl, by omega⟩

end GreedyMatch
