import GreedyMatch.Proofs.CountedAttempts
import GreedyMatch.Proofs.SingleChild

set_option autoImplicit false

namespace GreedyMatch

/-- Children with one repeat each fill their slots as long as attempts go on. -/
theorem slots_replicate_exactly_one (attempt : Attempt) (count : Nat) (input : List Char) :
    slots (m := Id) (List.replicate count (Matcher.outcome ⟨attempt, .exactly 1⟩)) input =
      if (counted attempt.outcome count input).2.length = count then
        some (counted attempt.outcome count input)
      else none := by
  induction count generalizing input with
  | zero => rfl
  | succ count ih =>
    rw [List.replicate_succ, slots_cons]
    by_cases hinput : input = []
    · subst hinput
      rw [Matcher.outcome_exactly_one_nil, counted_nil]
      rfl
    · rw [Matcher.outcome_exactly_one attempt hinput]
      cases hstep : attempt.outcome input with
      | fail =>
        rw [counted_failed hstep]
        rfl
      | matched length capture =>
        simp only [counted_matched hinput hstep, ih, List.length_cons, Nat.add_right_cancel_iff]
        split <;> rfl

theorem Attempt.outcome_sequence_replicate (attempt : Attempt) (count : Nat) (input : List Char) :
    (Attempt.sequence (List.replicate count ⟨attempt, .exactly 1⟩)).outcome input =
      if (counted attempt.outcome count input).2.length = count then
        .matched (counted attempt.outcome count input).1
          (.group (counted attempt.outcome count input).2)
      else .fail := by
  rw [Attempt.outcome_sequence, List.map_replicate, slots_replicate_exactly_one]
  split <;> rfl

theorem Capture.ofRepeats_of_two_le {captures : List Capture} (h : 2 ≤ captures.length) :
    Capture.ofRepeats captures = .group captures := by
  match captures, h with
  | _ :: _ :: _, _ => rfl

theorem Matcher.outcome_exactly (attempt : Attempt) {count : Nat} (hcount : 2 ≤ count)
    (input : List Char) :
    Matcher.outcome ⟨attempt, .exactly count⟩ input =
      if (counted attempt.outcome count input).2.length = count then
        .matched (counted attempt.outcome count input).1
          (.group (counted attempt.outcome count input).2)
      else .fail := by
  have hle : (counted attempt.outcome count input).2.length ≤ count := counted_length_le count
  have hmin : (Quantifier.between count count).minCount = count := rfl
  rw [Quantifier.exactly, Matcher.outcome_between]
  split
  · rename_i hfull
    rw [Outcome.ofRepeats_of_le (by omega), Capture.ofRepeats_of_two_le (by omega)]
  · rename_i hshort
    exact Outcome.ofRepeats_of_lt (by omega) _

/-- What can be built with `count` repeats can be written out, child by child. -/
theorem Matcher.exactly_eq_sequence (attempt : Attempt) (count : Nat)
    (hattempt : attempt.vacuity? = none) (hcount : 2 ≤ count) :
    Matcher.build (m := Logged) attempt (.exactly count) = pure (.ok ⟨attempt, .exactly count⟩) ∧
      Matcher.build (m := Logged) attempt (.exactly 1) = pure (.ok ⟨attempt, .exactly 1⟩) ∧
      Matcher.sequence (m := Logged) (List.replicate count ⟨attempt, .exactly 1⟩) (.exactly 1) =
        pure (.ok ⟨.sequence (List.replicate count ⟨attempt, .exactly 1⟩), .exactly 1⟩) ∧
      ∀ input, Matcher.outcome ⟨attempt, .exactly count⟩ input =
        Matcher.outcome ⟨.sequence (List.replicate count ⟨attempt, .exactly 1⟩), .exactly 1⟩
          input := by
  have hchildren : (Attempt.sequence (List.replicate count ⟨attempt, .exactly 1⟩)).vacuity? =
      none := by
    obtain ⟨more, rfl⟩ := Nat.exists_eq_add_of_le hcount
    rw [Nat.add_comm, List.replicate_succ]
    rfl
  have hordered (count : Nat) : (Quantifier.exactly count).Ordered := Nat.le_refl count
  refine ⟨Matcher.build_eq_pure (hordered count) hattempt,
    Matcher.build_eq_pure (hordered 1) hattempt, Matcher.build_eq_pure (hordered 1) hchildren,
    fun input => ?_⟩
  rw [Matcher.outcome_exactly attempt hcount]
  by_cases hinput : input = []
  · subst hinput
    rw [counted_nil, if_neg (by simp only [List.length_nil]; omega),
      Matcher.outcome_exactly_one_nil]
  · rw [Matcher.outcome_exactly_one _ hinput, Attempt.outcome_sequence_replicate]

def optionalDigit : Attempt :=
  .sequence [⟨.char (.ofSet ⟨false, [.named .digit]⟩), .optional⟩]

/-- Two repeats take a digit and two take none; at the end of the input there is no third one. -/
theorem optionalDigit_exactly_eq_sequence :
    optionalDigit.vacuity? = none ∧ 2 ≤ 4 ∧
      Matcher.outcome ⟨.sequence (List.replicate 4 ⟨optionalDigit, .exactly 1⟩), .exactly 1⟩
          ['1', '2', 'x'] =
        .matched 2 (.group [.group [.leaf "1"], .group [.leaf "2"], .group [.empty],
          .group [.empty]]) ∧
      optionalDigit.vacuity? = none ∧ 2 ≤ 3 ∧
      Matcher.outcome ⟨.sequence (List.replicate 3 ⟨optionalDigit, .exactly 1⟩), .exactly 1⟩
          ['1', '2'] = .fail := by
  have hfilled : Matcher.outcome ⟨optionalDigit, .exactly 4⟩ ['1', '2', 'x'] =
      .matched 2 (.group [.group [.leaf "1"], .group [.leaf "2"], .group [.empty],
        .group [.empty]]) := by decide +kernel
  have hended : Matcher.outcome ⟨optionalDigit, .exactly 3⟩ ['1', '2'] = .fail := by
    decide +kernel
  obtain ⟨-, -, -, hfour⟩ := Matcher.exactly_eq_sequence optionalDigit 4 rfl (by decide)
  obtain ⟨-, -, -, hthree⟩ := Matcher.exactly_eq_sequence optionalDigit 3 rfl (by decide)
  exact ⟨rfl, by decide, (hfour _).symm.trans hfilled, rfl, by decide, (hthree _).symm.trans hended⟩

end GreedyMatch
