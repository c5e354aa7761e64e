import GreedyMatch.Proofs.Construction
import GreedyMatch.Proofs.Extent

set_option autoImplicit false

namespace GreedyMatch

namespace Capture

mutual

theorem join_leaves : ∀ capture : Capture, String.join capture.leaves = capture.text
  | .leaf text => by
    rw [leaves, Capture.text, String.join_cons, String.join_nil, String.append_empty]
  | .group items => join_leavesOfAll items

theorem join_leavesOfAll : ∀ items : List Capture,
    String.join (leavesOfAll items) = textOfAll items
  | [] => by rw [leavesOfAll, textOfAll, String.join_nil]
  | item :: items => by
    rw [leavesOfAll, textOfAll, String.join_append, join_leaves item, join_leavesOfAll items]

end

theorem text_ofRepeats (captures : List Capture) :
    (ofRepeats captures).text = textOfAll captures := by
  cases captures with
  | nil => rfl
  | cons capture rest =>
    cases rest with
    | nil => rw [ofRepeats, textOfAll, textOfAll, String.append_empty]
    | cons _ _ => rfl

end Capture

/-- A claim that fits into the input comes with the text it claims. -/
def Honest (answer : List Char → Outcome) : Prop :=
  ∀ input length capture, answer input = .matched length capture → length ≤ input.length →
    capture.text = String.ofList (input.take length)

def CapturesText (step : List Char → Outcome) : Prop :=
  ∀ input length capture, step input = .matched length capture →
    capture.text = String.ofList (input.take length)

theorem InTurn.text {steps : List (List Char → Outcome)} {input : List Char} {total : Nat}
    {captures : List Capture} (h : InTurn steps input total captures)
    (hsteps : ∀ step ∈ steps, CapturesText step) :
    Capture.textOfAll captures = String.ofList (input.take total) := by
  induction h with
  | nil => rfl
  | @cons step steps input length capture total captures hstep hrest ih =>
    have hhead := hsteps step List.mem_cons_self input length capture hstep
    have htail := ih fun other hmem => hsteps other (.tail _ hmem)
    rw [Capture.textOfAll, hhead, htail, ← String.ofList_append, List.take_add]

theorem Matcher.capturesText_of_attempt {matcher : Matcher}
    (h : CapturesText matcher.attempt.outcome) : CapturesText matcher.outcome := by
  intro input length capture hmatched
  obtain ⟨captures, rfl, -, hrepetition⟩ := Matcher.repetition_of_matched hmatched
  rw [Capture.text_ofRepeats]
  exact hrepetition.inTurn.text fun step hmem => List.eq_of_mem_replicate hmem ▸ h

theorem literalOutcome_capturesText (text : String) :
    CapturesText (literalOutcome text text.toList) := by
  intro input length capture h
  obtain ⟨⟨rest, rfl⟩, rfl, rfl⟩ := literalOutcome_eq_matched h
  rw [Capture.text, List.take_left, String.ofList_toList]

theorem charOutcome_capturesText (test : CharTest) : CapturesText (charOutcome test) := by
  intro input length capture h
  obtain ⟨c, rest, rfl, -, rfl, rfl⟩ := charOutcome_eq_matched h
  rfl

theorem guarded_capturesText {step : List Char → Outcome} (h : Honest step) :
    CapturesText (guarded (m := Id) step) := by
  intro input length capture hmatched
  obtain ⟨hstep, hfits⟩ := guarded_eq_matched hmatched
  exact h input length capture hstep hfits

theorem Attempt.WellFormed.capturesText {attempt : Attempt} (h : attempt.WellFormed Honest) :
    CapturesText attempt.outcome := by
  induction h with
  | literal htext => exact literalOutcome_capturesText _
  | char => exact charOutcome_capturesText _
  | sequence hnonempty hordered hchildren ih =>
    intro input length capture hmatched
    obtain ⟨captures, rfl, hturn⟩ := Attempt.inTurn_of_matched hmatched
    refine hturn.text fun step hmem => ?_
    obtain ⟨child, hchild, rfl⟩ := List.mem_map.mp hmem
    exact Matcher.capturesText_of_attempt (ih child hchild)
  | alternation hnonempty hordered hchildren ih =>
    intro input length capture hmatched
    obtain ⟨child, hchild, hchildMatched⟩ := Attempt.child_of_matched hmatched
    exact Matcher.capturesText_of_attempt (ih child hchild) input length capture hchildMatched
  | nested hordered hinner ih =>
    have hcaptures := Matcher.capturesText_of_attempt ih
    exact guarded_capturesText fun input length capture hstep _ =>
      hcaptures input length capture hstep
  | custom hanswer => exact guarded_capturesText hanswer

def Matcher.CapturesTaken (matcher : Matcher) : Prop :=
  ∀ input length capture, matcher.outcome input = .matched length capture →
    length ≤ input.length ∧ capture.text = String.ofList (input.take length) ∧
      String.join capture.leaves = capture.text

/-- Nested matchers are no answers of a caller, so trees without any need no assumption. -/
theorem Matcher.capturesTaken :
    (∀ matcher : Matcher, matcher.Built Honest → matcher.CapturesTaken) ∧
      ∀ matcher : Matcher, matcher.Built NoAnswer → matcher.CapturesTaken := by
  have htaken : ∀ matcher : Matcher, matcher.Built Honest → matcher.CapturesTaken := by
    intro matcher hbuilt input length capture h
    have hcaptures := Matcher.capturesText_of_attempt hbuilt.wellFormed.2.capturesText
    exact ⟨matcher.within input length capture h, hcaptures input length capture h,
      capture.join_leaves⟩
  exact ⟨htaken, fun matcher hbuilt => htaken matcher (hbuilt.mono fun _ => False.elim)⟩

def pairAnswer : List Char → Outcome
  | first :: second :: _ =>
    if first == second then .matched 2 (.leaf (String.ofList [first, second])) else .fail
  | _ => .fail

theorem pairAnswer_honest : Honest pairAnswer := by
  intro input length capture h _
  unfold pairAnswer at h
  split at h
  · split at h
    · cases h
      rfl
    · cases h
  · cases h

def pairRows : Matcher :=
  ⟨.sequence [⟨.custom pairAnswer, .between 1 2⟩, ⟨.literal "é!" ['é', '!'], .optional⟩],
    .oneOrMore⟩

theorem pairRows_built : pairRows.Built Honest := by
  have hpairs : Matcher.Built Honest ⟨.custom pairAnswer, .between 1 2⟩ :=
    .custom pairAnswer_honest (Matcher.build_of_ordered (by decide) rfl)
  have hmark : Matcher.Built Honest ⟨.literal "é!" ['é', '!'], .optional⟩ :=
    .literal (Matcher.build_of_ordered (by decide) rfl)
  refine .sequence (fun child hmem => ?_) (Matcher.build_of_ordered trivial rfl)
  rcases List.mem_cons.mp hmem with rfl | hmem
  · exact hpairs
  · rw [List.mem_singleton.mp hmem]
    exact hmark

def nestedMarks : Matcher := ⟨.nested ⟨.literal "é!" ['é', '!'], .optional⟩, .exactly 2⟩

theorem nestedMarks_built : nestedMarks.Built NoAnswer :=
  .nested (.literal (Matcher.build_of_ordered (by decide) rfl))
    (Matcher.build_of_ordered (by decide) rfl)

theorem pairRows_capturesTaken :
    (pairRows.Built Honest ∧
      pairRows.outcome ['a', 'a', 'b', 'b', 'é', '!', 'c', 'c', 'x'] =
        .matched 8 (.group [.group [.group [.leaf "aa", .leaf "bb"], .leaf "é!"],
          .group [.leaf "cc", .empty]]) ∧
      Capture.text (.group [.group [.group [.leaf "aa", .leaf "bb"], .leaf "é!"],
          .group [.leaf "cc", .empty]]) = "aabbé!cc") ∧
      nestedMarks.Built NoAnswer ∧
        nestedMarks.outcome ['é', '!', 'é', '!', 'é'] =
          .matched 4 (.group [.leaf "é!", .leaf "é!"]) ∧
        Capture.text (.group [.leaf "é!", .leaf "é!"]) = "é!é!" := by
  have hrows : pairRows.outcome ['a', 'a', 'b', 'b', 'é', '!', 'c', 'c', 'x'] =
      .matched 8 (.group [.group [.group [.leaf "aa", .leaf "bb"], .leaf "é!"],
        .group [.leaf "cc", .empty]]) := by cbv
  have hmarks : nestedMarks.outcome ['é', '!', 'é', '!', 'é'] =
      .matched 4 (.group [.leaf "é!", .leaf "é!"]) := by cbv
  have hrowsTaken := Matcher.capturesTaken.1 pairRows pairRows_built _ _ _ hrows
  have hmarksTaken := Matcher.capturesTaken.2 nestedMarks nestedMarks_built _ _ _ hmarks
  exact ⟨⟨pairRows_built, hrows, hrowsTaken.2.1⟩, nestedMarks_built, hmarks, hmarksTaken.2.1⟩

end GreedyMatch
