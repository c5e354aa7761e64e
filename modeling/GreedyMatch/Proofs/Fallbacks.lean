import GreedyMatch.Proofs.Alternatives
import GreedyMatch.Proofs.Recording

set_option autoImplicit false

namespace GreedyMatch

theorem Attempt.alternation_extendedBy (children fallbacks : List Matcher) :
    ExtendedBy (Attempt.alternation children).outcome
      (Attempt.alternation (children ++ fallbacks)).outcome := by
  intro input length capture h
  rw [Attempt.outcome_alternation] at h ⊢
  rw [List.map_append]
  exact firstMatch_append_of_matched h

/-- More alternatives behind the others lose no match and change none of its repeats. -/
theorem Matcher.alternation_fallbacks (children fallbacks : List Matcher) (quantifier : Quantifier)
    (hchildren : children ≠ []) (hordered : quantifier.Ordered) :
    Matcher.alternation (m := Logged) children quantifier =
        pure (.ok ⟨.alternation children, quantifier⟩) ∧
      Matcher.alternation (m := Logged) (children ++ fallbacks) quantifier =
        pure (.ok ⟨.alternation (children ++ fallbacks), quantifier⟩) ∧
      ∀ input length capture,
        Matcher.outcome ⟨.alternation children, quantifier⟩ input = .matched length capture →
          (∃ longer more, length ≤ longer ∧
            Matcher.outcome ⟨.alternation (children ++ fallbacks), quantifier⟩ input =
              .matched longer more ∧
            more = .ofRepeats ((Matcher.recording
              ⟨.alternation (children ++ fallbacks), quantifier⟩ input).map Span.capture)) ∧
          capture = .ofRepeats
            ((Matcher.recording ⟨.alternation children, quantifier⟩ input).map Span.capture) ∧
          Matcher.recording ⟨.alternation children, quantifier⟩ input <+:
            Matcher.recording ⟨.alternation (children ++ fallbacks), quantifier⟩ input ∧
          (Matcher.recording ⟨.alternation children, quantifier⟩ input).filter Span.takes <+:
            (Matcher.recording ⟨.alternation (children ++ fallbacks), quantifier⟩ input).filter
              Span.takes ∧
          ∀ span ∈ Matcher.recording ⟨.alternation children, quantifier⟩ input,
            (Attempt.alternation children).outcome (input.drop span.start) =
                .matched span.length span.capture ∧
              (Attempt.alternation (children ++ fallbacks)).outcome (input.drop span.start) =
                .matched span.length span.capture := by
  have hextended := Attempt.alternation_extendedBy children fallbacks
  refine ⟨Matcher.alternation_eq_pure hordered hchildren,
    Matcher.alternation_eq_pure hordered (by simp [hchildren]), fun input length capture h => ?_⟩
  have hbegins := Matcher.recording_isPrefix hextended quantifier input
  obtain ⟨longer, more, hle, hmore⟩ := Matcher.matched_of_recording_isPrefix h hbegins
  refine ⟨⟨longer, more, hle, hmore, (Matcher.ofRecording_of_matched hmore).2⟩,
    (Matcher.ofRecording_of_matched h).2, hbegins, hbegins.filter Span.takes, fun span hmem => ?_⟩
  have hanswer := Matcher.answer_of_mem_recording hmem
  exact ⟨hanswer, hextended _ _ _ hanswer⟩

/-- Behind the letter the first alternation fails; the second takes the digit there and then records
repeats of nothing up to the maximum. -/
theorem letterA_alternation_fallbacks :
    [wordAB, letterA] ≠ [] ∧ (Quantifier.between 1 5).Ordered ∧
      Matcher.outcome ⟨.alternation [wordAB, letterA], .between 1 5⟩ ['a', 'b', 'a', '1', 'x'] =
        .matched 3 (.group [.leaf "ab", .leaf "a"]) ∧
      (∃ longer more, 3 ≤ longer ∧
        Matcher.outcome ⟨.alternation ([wordAB, letterA] ++ wordOrDigit), .between 1 5⟩
          ['a', 'b', 'a', '1', 'x'] = .matched longer more ∧
        more = .ofRepeats ((Matcher.recording
          ⟨.alternation ([wordAB, letterA] ++ wordOrDigit), .between 1 5⟩
            ['a', 'b', 'a', '1', 'x']).map Span.capture)) ∧
      [⟨0, 2, .leaf "ab"⟩, ⟨2, 1, .leaf "a"⟩] <+:
        (Matcher.recording ⟨.alternation ([wordAB, letterA] ++ wordOrDigit), .between 1 5⟩
          ['a', 'b', 'a', '1', 'x']).filter Span.takes := by
  have hchildren : [wordAB, letterA] ≠ [] := List.cons_ne_nil _ _
  have hordered : (Quantifier.between 1 5).Ordered := by decide
  have hmatched : Matcher.outcome ⟨.alternation [wordAB, letterA], .between 1 5⟩
      ['a', 'b', 'a', '1', 'x'] = .matched 3 (.group [.leaf "ab", .leaf "a"]) := by decide +kernel
  have hrecorded : (Matcher.recording ⟨.alternation [wordAB, letterA], .between 1 5⟩
      ['a', 'b', 'a', '1', 'x']).filter Span.takes =
        [⟨0, 2, .leaf "ab"⟩, ⟨2, 1, .leaf "a"⟩] := by decide +kernel
  obtain ⟨-, -, hmore⟩ := Matcher.alternation_fallbacks [wordAB, letterA] wordOrDigit
    (.between 1 5) hchildren hordered
  obtain ⟨hlonger, -, -, hbegins, -⟩ := hmore _ _ _ hmatched
  rw [hrecorded] at hbegins
  exact ⟨hchildren, hordered, hmatched, hlonger, hbegins⟩

end GreedyMatch
