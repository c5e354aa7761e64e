import Mathlib.Algebra.Ring.Nat
import GreedyMatch.Matcher.Search
import GreedyMatch.Proofs.Attempts

set_option autoImplicit false

namespace GreedyMatch

/-- The repeats that follow `recorded` others, where `start` characters stand before the input. -/
def recording (quantifier : Quantifier) (step : List Char → Outcome) (recorded start : Nat) :
    List Char → List Span
  | [] => []
  | c :: rest =>
    if quantifier.allowsAnother recorded then
      match step (c :: rest) with
      | .fail => []
      | .matched 0 capture =>
        List.replicate (quantifier.fillCount recorded - recorded) ⟨start, 0, capture⟩
      | .matched (length + 1) capture =>
        ⟨start, length + 1, capture⟩ ::
          recording quantifier step (recorded + 1) (start + (length + 1)) (rest.drop length)
    else []
termination_by input => input.length
decreasing_by
  simp only [List.length_drop, List.length_cons]
  omega

def Matcher.recording (matcher : Matcher) (input : List Char) : List Span :=
  GreedyMatch.recording matcher.quantifier matcher.attempt.outcome 0 0 input

def Span.takes (span : Span) : Bool := 0 < span.length

section

variable {quantifier : Quantifier} {step : List Char → Outcome} {recorded : Nat}
  {input : List Char} {capture : Capture}

theorem recording_of_fail (hstep : step input = .fail) (start : Nat) :
    recording quantifier step recorded start input = [] := by
  cases input with
  | nil => rw [recording]
  | cons c rest => rw [recording, hstep, ite_self]

theorem recording_of_stop (hstop : input = [] ∨ quantifier.allowsAnother recorded = false)
    (start : Nat) : recording quantifier step recorded start input = [] := by
  cases input with
  | nil => rw [recording]
  | cons c rest =>
    have hfull := hstop.resolve_left (List.cons_ne_nil c rest)
    rw [recording, if_neg (by simp [hfull])]

theorem recording_of_zero (hinput : input ≠ []) (hmore : quantifier.allowsAnother recorded = true)
    (hstep : step input = .matched 0 capture) (start : Nat) :
    recording quantifier step recorded start input =
      List.replicate (quantifier.fillCount recorded - recorded) ⟨start, 0, capture⟩ := by
  obtain ⟨c, rest, rfl⟩ := List.exists_cons_of_ne_nil hinput
  rw [recording, if_pos hmore, hstep]

theorem recording_of_succ {length : Nat} (hinput : input ≠ [])
    (hmore : quantifier.allowsAnother recorded = true)
    (hstep : step input = .matched (length + 1) capture) (start : Nat) :
    recording quantifier step recorded start input =
      ⟨start, length + 1, capture⟩ ::
        recording quantifier step (recorded + 1) (start + (length + 1))
          (input.drop (length + 1)) := by
  obtain ⟨c, rest, rfl⟩ := List.exists_cons_of_ne_nil hinput
  rw [recording, if_pos hmore, hstep, List.drop_succ_cons]

theorem Repetition.recording_eq {total : Nat} {captures : List Capture}
    (h : Repetition quantifier step recorded input total captures) (start : Nat) :
    ((recording quantifier step recorded start input).map Span.length).sum = total ∧
      (recording quantifier step recorded start input).map Span.capture = captures := by
  induction h generalizing start with
  | exhausted =>
    rw [recording_of_stop (.inl rfl)]
    exact ⟨rfl, rfl⟩
  | enough hfull =>
    rw [recording_of_stop (.inr hfull)]
    exact ⟨rfl, rfl⟩
  | failed hstep =>
    rw [recording_of_fail hstep]
    exact ⟨rfl, rfl⟩
  | filled hinput hmore hstep =>
    rw [recording_of_zero hinput hmore hstep]
    simp
  | @taken recorded input length capture total captures hinput hmore hstep hrest ih =>
    obtain ⟨htotal, hcaptures⟩ := ih (start + (length + 1))
    rw [recording_of_succ hinput hmore hstep]
    simp [htotal, hcaptures]

theorem Repetition.answer_of_mem_recording {total : Nat} {captures : List Capture}
    (h : Repetition quantifier step recorded input total captures) {whole : List Char} {start : Nat}
    (hinput : input = whole.drop start) :
    ∀ span ∈ recording quantifier step recorded start input,
      step (whole.drop span.start) = .matched span.length span.capture := by
  induction h generalizing start with
  | exhausted =>
    rw [recording_of_stop (.inl rfl)]
    exact fun _ h => nomatch h
  | enough hfull =>
    rw [recording_of_stop (.inr hfull)]
    exact fun _ h => nomatch h
  | failed hstep =>
    rw [recording_of_fail hstep]
    exact fun _ h => nomatch h
  | filled hne hmore hstep =>
    rw [recording_of_zero hne hmore hstep]
    intro span hmem
    rw [List.eq_of_mem_replicate hmem, ← hinput]
    exact hstep
  | @taken recorded input length capture total captures hne hmore hstep hrest ih =>
    rw [recording_of_succ hne hmore hstep, List.forall_mem_cons]
    refine ⟨by rw [← hinput, hstep], ih ?_⟩
    rw [hinput, List.drop_drop]

/-- Where the step matches, `other` matches in the same way. -/
def ExtendedBy (step other : List Char → Outcome) : Prop :=
  ∀ input length capture, step input = .matched length capture →
    other input = .matched length capture

/-- The step that matches in more places goes on where the other one ends with a failure. -/
theorem Repetition.recording_isPrefix {total : Nat} {captures : List Capture}
    (h : Repetition quantifier step recorded input total captures)
    {other : List Char → Outcome} (hother : ExtendedBy step other) (start : Nat) :
    recording quantifier step recorded start input <+:
      recording quantifier other recorded start input := by
  induction h generalizing start with
  | exhausted =>
    rw [recording_of_stop (.inl rfl)]
    exact List.nil_prefix
  | enough hfull =>
    rw [recording_of_stop (.inr hfull)]
    exact List.nil_prefix
  | failed hstep =>
    rw [recording_of_fail hstep]
    exact List.nil_prefix
  | filled hinput hmore hstep =>
    simp only [recording_of_zero hinput hmore hstep,
      recording_of_zero hinput hmore (hother _ _ _ hstep), List.prefix_refl]
  | taken hinput hmore hstep hrest ih =>
    rw [recording_of_succ hinput hmore hstep,
      recording_of_succ hinput hmore (hother _ _ _ hstep), List.prefix_cons_inj]
    exact ih _

end

/-- The outcome of a run is made of what is recorded. -/
theorem Matcher.outcome_eq_ofRecording (matcher : Matcher) (input : List Char) :
    matcher.outcome input =
      .ofRepeats matcher.quantifier ((matcher.recording input).map Span.length).sum
        ((matcher.recording input).map Span.capture) := by
  obtain ⟨attempt, quantifier⟩ := matcher
  have hrepetition := repetition_repeats quantifier attempt.outcome 0 input
  obtain ⟨htotal, hcaptures⟩ := hrepetition.recording_eq 0
  rw [Matcher.recording, htotal, hcaptures]
  exact Matcher.outcome_eq_ofRepeats hrepetition

theorem Matcher.ofRecording_of_matched {matcher : Matcher} {input : List Char} {length : Nat}
    {capture : Capture} (h : matcher.outcome input = .matched length capture) :
    length = ((matcher.recording input).map Span.length).sum ∧
      capture = .ofRepeats ((matcher.recording input).map Span.capture) := by
  rw [Matcher.outcome_eq_ofRecording] at h
  obtain ⟨-, rfl, rfl⟩ := Outcome.ofRepeats_eq_matched h
  exact ⟨rfl, rfl⟩

theorem Matcher.answer_of_mem_recording {matcher : Matcher} {input : List Char} {span : Span}
    (h : span ∈ matcher.recording input) :
    matcher.attempt.outcome (input.drop span.start) = .matched span.length span.capture :=
  (repetition_repeats matcher.quantifier matcher.attempt.outcome 0 input).answer_of_mem_recording
    rfl span h

theorem Matcher.recording_isPrefix {attempt other : Attempt}
    (h : ExtendedBy attempt.outcome other.outcome) (quantifier : Quantifier) (input : List Char) :
    Matcher.recording ⟨attempt, quantifier⟩ input <+: Matcher.recording ⟨other, quantifier⟩ input :=
  (repetition_repeats quantifier attempt.outcome 0 input).recording_isPrefix h 0

theorem Matcher.matched_of_recording_isPrefix {attempt other : Attempt} {quantifier : Quantifier}
    {input : List Char} {length : Nat} {capture : Capture}
    (h : Matcher.outcome ⟨attempt, quantifier⟩ input = .matched length capture)
    (hbegins : Matcher.recording ⟨attempt, quantifier⟩ input <+:
      Matcher.recording ⟨other, quantifier⟩ input) :
    ∃ longer more, length ≤ longer ∧
      Matcher.outcome ⟨other, quantifier⟩ input = .matched longer more := by
  obtain ⟨later, hlater⟩ := hbegins
  rw [Matcher.outcome_eq_ofRecording] at h
  obtain ⟨henough, rfl, -⟩ := Outcome.ofRepeats_eq_matched h
  have hmin : quantifier.minCount ≤
      ((Matcher.recording ⟨other, quantifier⟩ input).map Span.capture).length := by
    rw [List.length_map] at henough
    rw [← hlater, List.length_map, List.length_append]
    exact Nat.le_add_right_of_le henough
  refine ⟨_, _, ?_, (Matcher.outcome_eq_ofRecording _ input).trans (Outcome.ofRepeats_of_le hmin _)⟩
  rw [← hlater, List.map_append, List.sum_append]
  exact Nat.le_add_right _ _

end GreedyMatch
