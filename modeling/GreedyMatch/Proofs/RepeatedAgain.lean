import GreedyMatch.Proofs.SingleChild

/-!
# Repetitions repeated again

A repetition without a maximum ends only where its attempt takes nothing more. Repeated as a whole,
one or more times, it takes as much as alone: the second round fails, or it matches no characters
and is recorded as one more repeat.
-/

set_option autoImplicit false

namespace GreedyMatch

section

variable {quantifier : Quantifier} {step : List Char → Outcome} {recorded total : Nat}
  {input : List Char} {captures : List Capture}

theorem Repetition.consumed_rest (h : Repetition quantifier step recorded input total captures)
    (hmax : quantifier.maxCount? = none) (hrest : input.drop total ≠ []) :
    (step (input.drop total)).consumed = 0 := by
  induction h with
  | exhausted => exact absurd rfl hrest
  | enough hfull =>
    -- Without a maximum there are never enough repeats.
    rw [Quantifier.allowsAnother, hmax] at hfull
    cases hfull
  | failed hstep =>
    rw [List.drop_zero, hstep]
    rfl
  | filled hinput hmore hstep =>
    rw [List.drop_zero, hstep]
    rfl
  | taken hinput hmore hstep hlater ih =>
    rw [← List.drop_drop] at hrest ⊢
    exact ih hrest

theorem Repetition.total_eq_zero (h : Repetition quantifier step recorded input total captures)
    (hstep : (step input).consumed = 0) : total = 0 := by
  cases h with
  | exhausted | enough | failed | filled => rfl
  | taken hinput hmore hmatched hlater =>
    rw [hmatched] at hstep
    cases hstep

end

theorem Outcome.consumed_ofRepeats_zero (quantifier : Quantifier) (captures : List Capture) :
    (Outcome.ofRepeats quantifier 0 captures).consumed = 0 := by
  rw [Outcome.ofRepeats]
  split <;> rfl

theorem Matcher.consumed_eq_zero_of_attempt {matcher : Matcher} {input : List Char}
    (h : (matcher.attempt.outcome input).consumed = 0) : (matcher.outcome input).consumed = 0 := by
  obtain ⟨attempt, quantifier⟩ := matcher
  have hrepetition := repetition_repeats quantifier attempt.outcome 0 input
  rw [Matcher.outcome_eq_ofRepeats hrepetition, hrepetition.total_eq_zero h]
  exact Outcome.consumed_ofRepeats_zero quantifier _

theorem Matcher.outcome_eq_fail_of_attempt {matcher : Matcher} {input : List Char}
    (hstep : matcher.attempt.outcome input = .fail) (hmin : 1 ≤ matcher.quantifier.minCount) :
    matcher.outcome input = .fail := by
  obtain ⟨attempt, quantifier⟩ := matcher
  have hsome : quantifier.minCount ≠ 0 := Nat.ne_of_gt hmin
  rw [Matcher.outcome_eq_ofRepeats (.failed hstep), Quantifier.ofRepeats_nil, if_neg hsome]

theorem Attempt.outcome_eq_fail_of_leaf {attempt : Attempt}
    (hleaf : attempt.kind = .literal ∨ attempt.kind = .char) {input rest : List Char}
    (hpos : 0 < (attempt.outcome input).consumed) (hzero : (attempt.outcome rest).consumed = 0) :
    attempt.outcome rest = .fail := by
  obtain ⟨length, capture, hmatched⟩ := Outcome.of_consumed_pos hpos
  rcases Outcome.of_consumed_eq_zero hzero with hfail | ⟨last, hlast⟩
  · exact hfail
  · cases attempt with
    | literal text chars =>
      obtain ⟨-, hlength, -⟩ := literalOutcome_eq_matched hmatched
      obtain ⟨-, hnone, -⟩ := literalOutcome_eq_matched hlast
      omega
    | char test =>
      obtain ⟨-, -, -, -, hnone, -⟩ := charOutcome_eq_matched hlast
      cases hnone
    | sequence children | alternation children | nested inner | custom answer =>
      rcases hleaf with h | h <;> cases h

/-- What a second round adds after a first one that has taken `length` characters and can take no
more. There is one only if some were taken and some are left. -/
def secondRound (step : List Char → Outcome) (input : List Char) (length : Nat) : List Capture :=
  if length = 0 ∨ input.drop length = [] then [] else (step (input.drop length)).capture?.toList

section

variable {step : List Char → Outcome} {input : List Char} {length : Nat}

theorem secondRound_of_fail (h : step (input.drop length) = .fail) :
    secondRound step input length = [] := by
  rw [secondRound, h]
  exact ite_self []

theorem secondRound_cases (h : input.drop length ≠ [] → (step (input.drop length)).consumed = 0) :
    secondRound step input length = [] ∨
      ∃ last, step (input.drop length) = .matched 0 last ∧
        secondRound step input length = [last] := by
  by_cases hnone : length = 0 ∨ input.drop length = []
  · exact .inl (if_pos hnone)
  · rcases Outcome.of_consumed_eq_zero (h fun hend => hnone (.inr hend)) with hfail | ⟨last, hlast⟩
    · exact .inl (secondRound_of_fail hfail)
    · refine .inr ⟨last, hlast, ?_⟩
      rw [secondRound, if_neg hnone, hlast]
      rfl

theorem repetition_secondRound (hpos : 0 < length)
    (h : input.drop length ≠ [] → (step (input.drop length)).consumed = 0) :
    Repetition .oneOrMore step 1 (input.drop length) 0 (secondRound step input length) := by
  by_cases hrest : input.drop length = []
  · rw [secondRound, if_pos (.inr hrest), hrest]
    exact .exhausted
  · have hsome : ¬ (length = 0 ∨ input.drop length = []) := by
      rintro (hzero | hend)
      · omega
      · exact hrest hend
    rw [secondRound, if_neg hsome]
    rcases Outcome.of_consumed_eq_zero (h hrest) with hfail | ⟨last, hlast⟩
    · rw [hfail]
      exact .failed hfail
    · -- With the first round recorded, a round that takes nothing is recorded only once.
      have hfilled : Repetition .oneOrMore step 1 (input.drop length) 0
          (List.replicate (Quantifier.oneOrMore.fillCount 1 - 1) last) :=
        .filled hrest rfl hlast
      rw [hlast]
      exact hfilled

end

section

variable {matcher : Matcher} {input : List Char} {length : Nat} {capture : Capture}

/-- Where a repetition without a maximum has ended, its attempt would take nothing. -/
theorem Matcher.attempt_consumed_rest (hmax : matcher.quantifier.maxCount? = none)
    (h : matcher.outcome input = .matched length capture) (hrest : input.drop length ≠ []) :
    (matcher.attempt.outcome (input.drop length)).consumed = 0 := by
  obtain ⟨captures, -, -, hrepetition⟩ := Matcher.repetition_of_matched h
  exact hrepetition.consumed_rest hmax hrest

theorem Matcher.consumed_rest (hmax : matcher.quantifier.maxCount? = none)
    (h : matcher.outcome input = .matched length capture) (hrest : input.drop length ≠ []) :
    (matcher.outcome (input.drop length)).consumed = 0 :=
  Matcher.consumed_eq_zero_of_attempt (Matcher.attempt_consumed_rest hmax h hrest)

theorem Matcher.outcome_rest_of_leaf
    (hleaf : matcher.kind = .literal ∨ matcher.kind = .char)
    (hmax : matcher.quantifier.maxCount? = none) (hmin : 1 ≤ matcher.quantifier.minCount)
    (h : matcher.outcome input = .matched length capture) (hpos : 0 < length)
    (hrest : input.drop length ≠ []) : matcher.outcome (input.drop length) = .fail := by
  have htaken : 0 < (matcher.attempt.outcome input).consumed := by
    refine Nat.pos_of_ne_zero fun hzero => ?_
    have hnone := Matcher.consumed_eq_zero_of_attempt hzero
    rw [h] at hnone
    exact Nat.ne_of_gt hpos hnone
  have hzero := Matcher.attempt_consumed_rest hmax h hrest
  exact Matcher.outcome_eq_fail_of_attempt (Attempt.outcome_eq_fail_of_leaf hleaf htaken hzero) hmin

theorem Matcher.secondRound_eq_nil (hmax : matcher.quantifier.maxCount? = none)
    (hmin : 1 ≤ matcher.quantifier.minCount)
    (h : matcher.outcome input = .matched length capture)
    (hlast : matcher.kind = .literal ∨ matcher.kind = .char ∨ length = 0 ∨ length = input.length) :
    secondRound matcher.outcome input length = [] := by
  by_cases hnone : length = 0 ∨ input.drop length = []
  · exact if_pos hnone
  · obtain ⟨hpos, hrest⟩ := not_or.mp hnone
    have hleaf : matcher.kind = .literal ∨ matcher.kind = .char := by
      rcases hlast with hliteral | hchar | hzero | hwhole
      · exact .inl hliteral
      · exact .inr hchar
      · exact absurd hzero hpos
      · exact absurd (List.drop_eq_nil_iff.mpr (Nat.le_of_eq hwhole.symm)) hrest
    exact secondRound_of_fail
      (Matcher.outcome_rest_of_leaf hleaf hmax hmin h (Nat.pos_of_ne_zero hpos) hrest)

theorem Matcher.outcome_again {again : Attempt} (hagain : again.outcome = matcher.outcome)
    (hmax : matcher.quantifier.maxCount? = none) (hmin : 1 ≤ matcher.quantifier.minCount)
    (h : matcher.outcome input = .matched length capture) :
    Matcher.outcome ⟨again, .oneOrMore⟩ input =
      .matched length (.ofRepeats (capture :: secondRound matcher.outcome input length)) := by
  have hinput : input ≠ [] := Matcher.ne_nil_of_matched hmin h
  have hstep : again.outcome input = .matched length capture := hagain ▸ h
  have henough (more : List Capture) :
      Quantifier.oneOrMore.minCount ≤ (capture :: more).length := Nat.le_add_left 1 more.length
  cases length with
  | zero =>
    have hfilled : Repetition .oneOrMore again.outcome 0 input 0 [capture] :=
      .filled hinput rfl hstep
    rw [Matcher.outcome_eq_ofRepeats hfilled, Outcome.ofRepeats_of_le (henough [])]
    rfl
  | succ length =>
    have hsecond := repetition_secondRound (Nat.succ_pos length) (Matcher.consumed_rest hmax h)
    rw [← hagain] at hsecond ⊢
    have htaken := Repetition.taken hinput rfl hstep hsecond
    rw [Matcher.outcome_eq_ofRepeats htaken, Outcome.ofRepeats_of_le (henough _), Nat.add_zero]

theorem Matcher.outcome_again_eq_fail_iff {again : Attempt}
    (hagain : again.outcome = matcher.outcome) (hmax : matcher.quantifier.maxCount? = none)
    (hmin : 1 ≤ matcher.quantifier.minCount) :
    Matcher.outcome ⟨again, .oneOrMore⟩ input = .fail ↔ matcher.outcome input = .fail := by
  cases houtcome : matcher.outcome input with
  | fail =>
    have hstep : again.outcome input = .fail := hagain ▸ houtcome
    have hfail : Matcher.outcome ⟨again, .oneOrMore⟩ input = .fail :=
      Matcher.outcome_eq_fail_of_attempt hstep (Nat.le_refl 1)
    exact iff_of_true hfail rfl
  | matched length capture =>
    rw [Matcher.outcome_again hagain hmax hmin houtcome]
    exact iff_of_false nofun nofun

end

/-- Another repetition around one without a maximum fails as it does and takes as much. All that can
come on top is the capture of a second round, one that has taken no characters. -/
theorem Matcher.outcome_repeated_again (matcher : Matcher) (min : Nat)
    (hquantifier : matcher.quantifier = .atLeast min) (hmin : 1 ≤ min) :
    Matcher.nested (m := Logged) matcher (.atLeast 1) =
        pure (.ok ⟨.nested matcher, .atLeast 1⟩) ∧
      Matcher.alternation (m := Logged) [matcher] (.atLeast 1) =
        pure (.ok ⟨.alternation [matcher], .atLeast 1⟩) ∧
      ∀ again ∈ [Attempt.nested matcher, .alternation [matcher]], ∀ input,
        (Matcher.outcome ⟨again, .atLeast 1⟩ input = .fail ↔ matcher.outcome input = .fail) ∧
        ∀ length capture, matcher.outcome input = .matched length capture →
          ∃ kept, Matcher.outcome ⟨again, .atLeast 1⟩ input = .matched length kept ∧
            (matcher.kind = .literal ∨ matcher.kind = .char ∨ length = 0 ∨ length = input.length →
              kept = capture) ∧
            (kept = capture ∨ ∃ last, matcher.outcome (input.drop length) = .matched 0 last ∧
              kept = .group [capture, last]) := by
  have hmax : matcher.quantifier.maxCount? = none := hquantifier ▸ rfl
  have hsome : 1 ≤ matcher.quantifier.minCount := hquantifier ▸ hmin
  have hagain : ∀ again ∈ [Attempt.nested matcher, .alternation [matcher]],
      again.outcome = matcher.outcome :=
    List.forall_mem_cons.mpr ⟨Attempt.outcome_nested matcher,
      List.forall_mem_singleton.mpr (Attempt.outcome_alternation_single matcher)⟩
  refine ⟨Matcher.build_eq_pure trivial rfl, Matcher.build_eq_pure trivial rfl,
    fun again hmem input => ⟨?_, fun length capture h => ?_⟩⟩
  · exact Matcher.outcome_again_eq_fail_iff (hagain again hmem) hmax hsome
  · refine ⟨_, Matcher.outcome_again (hagain again hmem) hmax hsome h, fun hlast => ?_, ?_⟩
    · rw [Matcher.secondRound_eq_nil hmax hsome h hlast]
      rfl
    · rcases secondRound_cases (Matcher.consumed_rest hmax h) with hnone | ⟨last, hlast, hone⟩
      · rw [hnone]
        exact .inl rfl
      · rw [hone]
        exact .inr ⟨last, hlast, rfl⟩

def optionalMarks : Matcher :=
  ⟨.sequence [⟨.literal "a" ['a'], .optional⟩, ⟨.literal "b" ['b'], .optional⟩], .atLeast 2⟩

def digits : Matcher := ⟨.char (.ofSet ⟨false, [.named .digit]⟩), .atLeast 1⟩

/-- At the `x` a second round of pairs takes nothing twice, and one of digits fails. -/
theorem optionalMarks_outcome_repeated_again :
    (optionalMarks.quantifier = .atLeast 2 ∧ 1 ≤ 2 ∧
      Attempt.nested optionalMarks ∈
        [Attempt.nested optionalMarks, .alternation [optionalMarks]] ∧
      optionalMarks.outcome ['a', 'b', 'a', 'x'] =
        .matched 3 (.group [.group [.leaf "a", .leaf "b"], .group [.leaf "a", .empty],
          .group [.empty, .empty]]) ∧
      Matcher.outcome ⟨.nested optionalMarks, .atLeast 1⟩ ['a', 'b', 'a', 'x'] =
        .matched 3 (.group [.group [.group [.leaf "a", .leaf "b"], .group [.leaf "a", .empty],
          .group [.empty, .empty]], .group [.group [.empty, .empty], .group [.empty, .empty]]])) ∧
      digits.quantifier = .atLeast 1 ∧ 1 ≤ 1 ∧
        Attempt.alternation [digits] ∈ [Attempt.nested digits, .alternation [digits]] ∧
        digits.kind = .char ∧
        Matcher.outcome ⟨.alternation [digits], .atLeast 1⟩ ['1', '2', 'x'] =
          .matched 2 (.group [.leaf "1", .leaf "2"]) := by
  have hmarks : optionalMarks.outcome ['a', 'b', 'a', 'x'] =
      .matched 3 (.group [.group [.leaf "a", .leaf "b"], .group [.leaf "a", .empty],
        .group [.empty, .empty]]) := by cbv
  have hnone : optionalMarks.outcome ['x'] =
      .matched 0 (.group [.group [.empty, .empty], .group [.empty, .empty]]) := by cbv
  have hmore : (Matcher.outcome ⟨.nested optionalMarks, .atLeast 1⟩ ['a', 'b', 'a', 'x']).capture? ≠
      (optionalMarks.outcome ['a', 'b', 'a', 'x']).capture? := by decide +kernel
  have hdigits : digits.outcome ['1', '2', 'x'] =
      .matched 2 (.group [.leaf "1", .leaf "2"]) := by decide +kernel
  have hnested : Attempt.nested optionalMarks ∈
      [Attempt.nested optionalMarks, .alternation [optionalMarks]] := List.mem_cons_self
  have halternation : Attempt.alternation [digits] ∈
      [Attempt.nested digits, .alternation [digits]] := .tail _ List.mem_cons_self
  obtain ⟨-, -, hpairs⟩ := Matcher.outcome_repeated_again optionalMarks 2 rfl (by decide)
  obtain ⟨-, -, hnumber⟩ := Matcher.outcome_repeated_again digits 1 rfl (by decide)
  obtain ⟨kept, hkept, -, hround⟩ := (hpairs _ hnested _).2 _ _ hmarks
  obtain ⟨number, hmatched, hsame, -⟩ := (hnumber _ halternation _).2 _ _ hdigits
  obtain rfl := hsame (.inr (.inl rfl))
  refine ⟨⟨rfl, by decide, hnested, hmarks, ?_⟩, rfl, by decide, halternation, rfl, hmatched⟩
  rcases hround with rfl | ⟨last, hlast, rfl⟩
  · exact absurd (congrArg Outcome.capture? (hkept.trans hmarks.symm)) hmore
  · obtain ⟨-, rfl⟩ := Outcome.matched.inj (hnone.symm.trans hlast)
    exact hkept

end GreedyMatch
