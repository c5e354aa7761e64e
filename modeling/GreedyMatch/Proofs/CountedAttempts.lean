import GreedyMatch.Matcher.Search
import GreedyMatch.Proofs.PlainLoop

set_option autoImplicit false

namespace GreedyMatch

/-- What at most `count` attempts take, and their captures. -/
def counted (step : List Char → Outcome) (count : Nat) (input : List Char) : Nat × List Capture :=
  attempts step input count 0 []

section

variable {step : List Char → Outcome} {input : List Char}

theorem attempts_eq_counted (count offset : Nat) (captures : List Capture) :
    attempts step input count offset captures =
      (offset + (counted step count (input.drop offset)).1,
        captures ++ (counted step count (input.drop offset)).2) := by
  induction count generalizing input offset captures with
  | zero => simp only [counted, attempts, Nat.add_zero, List.append_nil]
  | succ count ih =>
    rw [counted, attempts, attempts, List.length_drop, List.drop_zero]
    by_cases hlt : offset < input.length
    · have hleft : 0 < input.length - offset := by omega
      rw [if_pos hlt, if_pos hleft]
      cases step (input.drop offset) with
      | fail => simp only [Nat.add_zero, List.append_nil]
      | matched length capture =>
        simp only [ih, List.drop_drop, Nat.zero_add, Nat.add_assoc, List.append_assoc,
          List.nil_append]
    · have hend : ¬ 0 < input.length - offset := by omega
      rw [if_neg hlt, if_neg hend, Nat.add_zero, List.append_nil]

@[simp] theorem counted_zero : counted step 0 input = (0, []) := rfl

@[simp] theorem counted_nil (count : Nat) : counted step count [] = (0, []) := by
  cases count with
  | zero => rfl
  | succ count => rfl

theorem counted_failed (hstep : step input = .fail) (count : Nat) :
    counted step count input = (0, []) := by
  cases count with
  | zero => rfl
  | succ count => rw [counted, attempts, List.drop_zero, hstep, ite_self]

theorem counted_matched {length : Nat} {capture : Capture} (hinput : input ≠ [])
    (hstep : step input = .matched length capture) (count : Nat) :
    counted step (count + 1) input =
      (length + (counted step count (input.drop length)).1,
        capture :: (counted step count (input.drop length)).2) := by
  have hpos : 0 < input.length := List.length_pos_iff.mpr hinput
  rw [counted, attempts, List.drop_zero, hstep, if_pos hpos]
  simp only [attempts_eq_counted count, Nat.zero_add, List.nil_append, List.singleton_append]

theorem counted_length_le (count : Nat) : (counted step count input).2.length ≤ count := by
  induction count generalizing input with
  | zero => exact Nat.le_refl 0
  | succ count ih =>
    by_cases hinput : input = []
    · simp [hinput]
    · cases hstep : step input with
      | fail => simp [counted_failed hstep]
      | matched length capture =>
        rw [counted_matched hinput hstep, List.length_cons]
        exact Nat.succ_le_succ ih

/-- The last of the attempts go on where the first have ended. -/
theorem counted_add (first second : Nat) :
    counted step (first + second) input =
      ((counted step first input).1 +
          (counted step second (input.drop (counted step first input).1)).1,
        (counted step first input).2 ++
          (counted step second (input.drop (counted step first input).1)).2) := by
  induction first generalizing input with
  | zero => simp
  | succ first ih =>
    by_cases hinput : input = []
    · simp [hinput]
    · cases hstep : step input with
      | fail => simp [counted_failed hstep]
      | matched length capture =>
        have hnext : first + 1 + second = first + second + 1 := by omega
        rw [hnext, counted_matched hinput hstep, counted_matched hinput hstep, ih]
        simp only [List.drop_drop, Nat.add_assoc, List.cons_append]

/-- Attempts that have ended early would not go on. -/
theorem counted_of_short {count : Nat} (hshort : (counted step count input).2.length < count)
    (more : Nat) : counted step more (input.drop (counted step count input).1) = (0, []) := by
  induction count generalizing input with
  | zero => omega
  | succ count ih =>
    by_cases hinput : input = []
    · simp [hinput]
    · cases hstep : step input with
      | fail =>
        rw [counted_failed hstep, List.drop_zero]
        exact counted_failed hstep more
      | matched length capture =>
        rw [counted_matched hinput hstep] at hshort ⊢
        rw [List.length_cons] at hshort
        have hrest := @ih (input.drop length) (by omega)
        rwa [List.drop_drop] at hrest

theorem counted_replicate {capture : Capture} (hinput : input ≠ [])
    (hstep : step input = .matched 0 capture) (count : Nat) :
    counted step count input = (0, List.replicate count capture) := by
  induction count with
  | zero => rfl
  | succ count ih =>
    rw [counted_matched hinput hstep, List.drop_zero, ih, List.replicate_succ, Nat.add_zero]

end

theorem Outcome.length?_ofRepeats (quantifier : Quantifier) (total : Nat)
    (captures : List Capture) :
    (Outcome.ofRepeats quantifier total captures).length? =
      if quantifier.minCount ≤ captures.length then some total else none := by
  by_cases h : quantifier.minCount ≤ captures.length
  · rw [Outcome.ofRepeats_of_le h, if_pos h]
    rfl
  · rw [Outcome.ofRepeats_of_lt (by omega), if_neg h]
    rfl

theorem Matcher.outcome_between (attempt : Attempt) (min max : Nat) (input : List Char) :
    Matcher.outcome ⟨attempt, .between min max⟩ input =
      .ofRepeats (.between min max) (counted attempt.outcome max input).1
        (counted attempt.outcome max input).2 := by
  have hloop := plainRepeats_between attempt.outcome input min max max 0 [] (Nat.zero_add max)
  rw [← plainRepeated_eq, plainRepeated, hloop]
  rfl

/-- A maximum as large as the input cuts nothing off, and repeats of no characters make up the
minimum in either case. -/
theorem Repetition.counted_eq {min recorded total : Nat} {step : List Char → Outcome}
    {input : List Char} {captures : List Capture}
    (h : Repetition (.atLeast min) step recorded input total captures) {count : Nat}
    (hinput : input.length ≤ count) (hcount : min ≤ recorded + count) :
    (counted step count input).1 = total ∧
      (min ≤ recorded + (counted step count input).2.length ↔
        min ≤ recorded + captures.length) := by
  induction h generalizing count with
  | exhausted => simp
  | enough hfull => cases hfull
  | failed hstep => simp [counted_failed hstep]
  | @filled recorded input capture hne hmore hstep =>
    have hfill : (Quantifier.atLeast min).fillCount recorded = max min (recorded + 1) := rfl
    rw [counted_replicate hne hstep, hfill, List.length_replicate, List.length_replicate]
    exact ⟨rfl, by omega⟩
  | @taken recorded input length capture total captures hne hmore hstep hrest ih =>
    have hpos : 0 < input.length := List.length_pos_iff.mpr hne
    obtain ⟨count, rfl⟩ := Nat.exists_eq_succ_of_ne_zero (n := count) (by omega)
    have hshorter : (input.drop (length + 1)).length ≤ count := by
      rw [List.length_drop]
      omega
    obtain ⟨htotal, henough⟩ := ih hshorter (by omega)
    rw [counted_matched hne hstep, htotal, List.length_cons, List.length_cons]
    exact ⟨rfl, by omega⟩

theorem Matcher.length?_outcome_atLeast (attempt : Attempt) {min max : Nat} {input : List Char}
    (hmin : min ≤ max) (hinput : input.length ≤ max) :
    (Matcher.outcome ⟨attempt, .atLeast min⟩ input).length? =
      (Matcher.outcome ⟨attempt, .between min max⟩ input).length? := by
  have hrepetition := repetition_repeats (.atLeast min) attempt.outcome 0 input
  obtain ⟨htotal, henough⟩ := hrepetition.counted_eq hinput (by omega)
  rw [Nat.zero_add, Nat.zero_add] at henough
  rw [Matcher.outcome_eq_ofRepeats hrepetition, Matcher.outcome_between, Outcome.length?_ofRepeats,
    Outcome.length?_ofRepeats, htotal]
  exact ite_congr (propext henough.symm) (fun _ => rfl) fun _ => rfl

end GreedyMatch
