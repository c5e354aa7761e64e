import GreedyMatch.Proofs.CapturedText
import GreedyMatch.Proofs.Recording
import GreedyMatch.Proofs.SingleChild

set_option autoImplicit false

namespace GreedyMatch

def Matcher.letter (c : Char) : Matcher := ⟨.literal c.toString c.toString.toList, .exactly 1⟩

def Attempt.letters (text : String) : Attempt := .sequence (text.toList.map Matcher.letter)

def Capture.spelledOut : Capture → Capture
  | .leaf text => .group (text.toList.map .ofChar)
  | .group items => .group items

def Outcome.recaptured (change : Capture → Capture) : Outcome → Outcome
  | .fail => .fail
  | .matched length capture => .matched length (change capture)

def Span.recaptured (change : Capture → Capture) (span : Span) : Span :=
  { span with capture := change span.capture }

section

variable {quantifier : Quantifier} {step other : List Char → Outcome} {change : Capture → Capture}

/-- Captures decide nothing, so changing them changes nothing else. -/
theorem Repetition.recording_recaptured {recorded total : Nat} {input : List Char}
    {captures : List Capture} (h : Repetition quantifier step recorded input total captures)
    (hother : ∀ input, other input = (step input).recaptured change) (start : Nat) :
    recording quantifier other recorded start input =
      (recording quantifier step recorded start input).map (Span.recaptured change) := by
  induction h generalizing start with
  | exhausted => rw [recording_of_stop (.inl rfl), recording_of_stop (.inl rfl), List.map_nil]
  | enough hfull =>
    rw [recording_of_stop (.inr hfull), recording_of_stop (.inr hfull), List.map_nil]
  | @failed recorded input hstep =>
    have hfail : other input = .fail := by rw [hother, hstep]; rfl
    rw [recording_of_fail hstep, recording_of_fail hfail, List.map_nil]
  | @filled recorded input capture hinput hmore hstep =>
    have hzero : other input = .matched 0 (change capture) := by rw [hother, hstep]; rfl
    rw [recording_of_zero hinput hmore hstep, recording_of_zero hinput hmore hzero,
      List.map_replicate]
    rfl
  | @taken recorded input length capture total captures hinput hmore hstep hrest ih =>
    have htaken : other input = .matched (length + 1) (change capture) := by rw [hother, hstep]; rfl
    rw [recording_of_succ hinput hmore hstep, recording_of_succ hinput hmore htaken, ih,
      List.map_cons]
    rfl

end

theorem toList_toString (c : Char) : c.toString.toList = [c] := by
  rw [Char.toString_eq_singleton, String.toList_singleton]

namespace Capture

theorem textOfAll_ofChar (chars : List Char) :
    textOfAll (chars.map ofChar) = String.ofList chars := by
  induction chars with
  | nil => rfl
  | cons c chars ih =>
    rw [List.map_cons, textOfAll, ih, ← String.toList_inj, String.toList_append, ofChar, text,
      toList_toString, String.toList_ofList, String.toList_ofList, List.singleton_append]

theorem text_spelledOut (capture : Capture) : capture.spelledOut.text = capture.text := by
  cases capture with
  | leaf own => rw [spelledOut, text, text, textOfAll_ofChar, String.ofList_toList]
  | group items => rfl

theorem textOfAll_spelledOut (captures : List Capture) :
    textOfAll (captures.map spelledOut) = textOfAll captures := by
  induction captures with
  | nil => rfl
  | cons capture captures ih => rw [List.map_cons, textOfAll, textOfAll, text_spelledOut, ih]

end Capture

theorem Matcher.outcome_letter_cons (c d : Char) (rest : List Char) :
    (Matcher.letter c).outcome (d :: rest) =
      if c == d then .matched 1 (.ofChar c) else .fail := by
  rw [Matcher.letter, Matcher.outcome_exactly_one _ (List.cons_ne_nil d rest), toList_toString]
  change (if [c].isPrefixOf (d :: rest) = true then _ else _) = _
  rw [List.isPrefixOf_cons_cons, List.isPrefixOf_nil_left, Bool.and_true]
  rfl

/-- Each letter is run where the one before it has ended, and none matches at the end. -/
theorem slots_letters (chars input : List Char) :
    slots (m := Id) ((chars.map Matcher.letter).map Matcher.outcome) input =
      if chars.isPrefixOf input then some (chars.length, chars.map .ofChar) else none := by
  induction chars generalizing input with
  | nil => rfl
  | cons c chars ih =>
    rw [List.map_cons, List.map_cons, slots_cons]
    cases input with
    | nil =>
      rw [Matcher.letter, Matcher.outcome_exactly_one_nil]
      rfl
    | cons d rest =>
      rw [Matcher.outcome_letter_cons, List.isPrefixOf_cons_cons]
      by_cases hsame : (c == d) = true
      · simp only [hsame, if_true, Bool.true_and, List.drop_succ_cons, List.drop_zero, ih]
        split
        · simp only [withSlot, List.length_cons, List.map_cons, Nat.add_comm]
        · rfl
      · simp [hsame]

theorem Attempt.outcome_letters (text : String) (input : List Char) :
    (Attempt.letters text).outcome input =
      ((Attempt.literal text text.toList).outcome input).recaptured .spelledOut := by
  rw [Attempt.letters, Attempt.outcome_sequence, slots_letters]
  change _ = (literalOutcome text text.toList input).recaptured .spelledOut
  rw [literalOutcome]
  split <;> rfl

theorem Matcher.recording_letters (text : String) (quantifier : Quantifier) (input : List Char) :
    Matcher.recording ⟨.letters text, quantifier⟩ input =
      (Matcher.recording ⟨.literal text text.toList, quantifier⟩ input).map
        (Span.recaptured .spelledOut) :=
  (repetition_repeats quantifier _ 0 input).recording_recaptured (Attempt.outcome_letters text) 0

theorem Outcome.ofRepeats_spelledOut (quantifier : Quantifier) (total : Nat)
    (captures : List Capture) :
    (Outcome.ofRepeats quantifier total captures = .fail ∧
        Outcome.ofRepeats quantifier total (captures.map .spelledOut) = .fail) ∨
      ∃ capture spelled,
        Outcome.ofRepeats quantifier total captures = .matched total capture ∧
        Outcome.ofRepeats quantifier total (captures.map .spelledOut) = .matched total spelled ∧
        spelled.text = capture.text := by
  have hcount : (captures.map Capture.spelledOut).length = captures.length := List.length_map _
  by_cases hmin : quantifier.minCount ≤ captures.length
  · refine .inr ⟨_, _, Outcome.ofRepeats_of_le hmin _, Outcome.ofRepeats_of_le (by omega) _, ?_⟩
    rw [Capture.text_ofRepeats, Capture.text_ofRepeats, Capture.textOfAll_spelledOut]
  · exact .inl ⟨Outcome.ofRepeats_of_lt (by omega) _, Outcome.ofRepeats_of_lt (by omega) _⟩

theorem Matcher.outcome_letters (text : String) (quantifier : Quantifier) (input : List Char) :
    (Matcher.outcome ⟨.literal text text.toList, quantifier⟩ input = .fail ∧
        Matcher.outcome ⟨.letters text, quantifier⟩ input = .fail) ∨
      ∃ length capture spelled,
        Matcher.outcome ⟨.literal text text.toList, quantifier⟩ input = .matched length capture ∧
        Matcher.outcome ⟨.letters text, quantifier⟩ input = .matched length spelled ∧
        spelled.text = capture.text := by
  rw [Matcher.outcome_eq_ofRecording, Matcher.outcome_eq_ofRecording, Matcher.recording_letters]
  generalize Matcher.recording ⟨.literal text text.toList, quantifier⟩ input = spans
  have hlengths : (spans.map (Span.recaptured .spelledOut)).map Span.length =
      spans.map Span.length := by
    rw [List.map_map]
    rfl
  have hcaptures : (spans.map (Span.recaptured .spelledOut)).map Span.capture =
      (spans.map Span.capture).map .spelledOut := by
    rw [List.map_map, List.map_map]
    rfl
  rw [hlengths, hcaptures]
  rcases Outcome.ofRepeats_spelledOut quantifier (spans.map Span.length).sum
    (spans.map Span.capture) with hfail | ⟨capture, spelled, hmatched⟩
  · exact .inl hfail
  · exact .inr ⟨_, capture, spelled, hmatched⟩

/-- A text is the row of its characters: the same repeats, spelled out. -/
theorem Matcher.literal_eq_letters (text : String) (quantifier : Quantifier) (htext : text ≠ "")
    (hordered : quantifier.Ordered) :
    Matcher.literal (m := Logged) text quantifier =
        pure (.ok ⟨.literal text text.toList, quantifier⟩) ∧
      (∀ c ∈ text.toList,
        Matcher.literal (m := Logged) c.toString (.exactly 1) = pure (.ok (.letter c))) ∧
      Matcher.sequence (m := Logged) (text.toList.map Matcher.letter) quantifier =
        pure (.ok ⟨.letters text, quantifier⟩) ∧
      ∀ input,
        ((Matcher.outcome ⟨.literal text text.toList, quantifier⟩ input = .fail ∧
            Matcher.outcome ⟨.letters text, quantifier⟩ input = .fail) ∨
          ∃ length capture spelled,
            Matcher.outcome ⟨.literal text text.toList, quantifier⟩ input =
              .matched length capture ∧
            Matcher.outcome ⟨.letters text, quantifier⟩ input = .matched length spelled ∧
            spelled.text = capture.text) ∧
        (Matcher.recording ⟨.letters text, quantifier⟩ input).length =
          (Matcher.recording ⟨.literal text text.toList, quantifier⟩ input).length ∧
        Matcher.recording ⟨.letters text, quantifier⟩ input =
          (Matcher.recording ⟨.literal text text.toList, quantifier⟩ input).map
            (Span.recaptured .spelledOut) := by
  have hsingle : (Quantifier.exactly 1).Ordered := Nat.le_refl 1
  have hletter (c : Char) : c.toString ≠ "" := by
    intro hempty
    have hchars := toList_toString c
    rw [hempty] at hchars
    cases hchars
  have hletters : text.toList.map Matcher.letter ≠ [] :=
    mt List.map_eq_nil_iff.mp (mt String.toList_eq_nil_iff.mp htext)
  refine ⟨Matcher.build_eq_pure hordered (if_neg htext),
    fun c _ => Matcher.build_eq_pure hsingle (if_neg (hletter c)),
    Matcher.sequence_eq_pure hordered hletters, fun input => ?_⟩
  have hrecording := Matcher.recording_letters text quantifier input
  exact ⟨Matcher.outcome_letters text quantifier input,
    by rw [hrecording, List.length_map], hrecording⟩

theorem accentedCopies_literal_eq_letters :
    "né" ≠ "" ∧ (Quantifier.between 1 3).Ordered ∧
      (∃ spelled, Matcher.outcome ⟨.letters "né", .between 1 3⟩ ['n', 'é', 'n', 'é', 'n'] =
        .matched 4 spelled ∧ spelled.text = "néné") ∧
      Matcher.recording ⟨.letters "né", .between 1 3⟩ ['n', 'é', 'n', 'é', 'n'] =
        [⟨0, 2, .group [.leaf "n", .leaf "é"]⟩, ⟨2, 2, .group [.leaf "n", .leaf "é"]⟩] := by
  have hmatched : Matcher.outcome ⟨.literal "né" "né".toList, .between 1 3⟩
      ['n', 'é', 'n', 'é', 'n'] = .matched 4 (.group [.leaf "né", .leaf "né"]) := by
    decide +kernel
  have hspans : Matcher.recording ⟨.literal "né" "né".toList, .between 1 3⟩
      ['n', 'é', 'n', 'é', 'n'] = [⟨0, 2, .leaf "né"⟩, ⟨2, 2, .leaf "né"⟩] := by decide +kernel
  have htext : "né" ≠ "" := by decide
  have hordered : (Quantifier.between 1 3).Ordered := by decide
  obtain ⟨-, -, -, hsame⟩ := Matcher.literal_eq_letters "né" (.between 1 3) htext hordered
  obtain ⟨houtcomes, -, hrecording⟩ := hsame ['n', 'é', 'n', 'é', 'n']
  rw [hspans] at hrecording
  refine ⟨htext, hordered, ?_, hrecording⟩
  rcases houtcomes with ⟨hfail, -⟩ | ⟨length, capture, spelled, hliteral, hletters, hspelled⟩
  · rw [hmatched] at hfail
    cases hfail
  · rw [hmatched] at hliteral
    cases hliteral
    exact ⟨spelled, hletters, hspelled⟩

end GreedyMatch
