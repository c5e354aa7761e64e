import GreedyMatch.Matcher.Run
import Mathlib.Data.List.Forall2

set_option autoImplicit false

namespace GreedyMatch

@[induction_eliminator]
theorem Matcher.induction {motive : Matcher → Prop}
    (literal : ∀ text chars quantifier, motive ⟨.literal text chars, quantifier⟩)
    (char : ∀ test quantifier, motive ⟨.char test, quantifier⟩)
    (sequence : ∀ children quantifier, (∀ child ∈ children, motive child) →
      motive ⟨.sequence children, quantifier⟩)
    (alternation : ∀ children quantifier, (∀ child ∈ children, motive child) →
      motive ⟨.alternation children, quantifier⟩)
    (nested : ∀ inner quantifier, motive inner → motive ⟨.nested inner, quantifier⟩)
    (custom : ∀ answer quantifier, motive ⟨.custom answer, quantifier⟩) :
    ∀ matcher, motive matcher :=
  @Matcher.rec motive (fun attempt => ∀ quantifier, motive ⟨attempt, quantifier⟩)
    (fun children => ∀ child ∈ children, motive child)
    (fun _ quantifier ih => ih quantifier) literal char
    (fun children ih quantifier => sequence children quantifier ih)
    (fun children ih quantifier => alternation children quantifier ih)
    (fun inner ih quantifier => nested inner quantifier ih) custom
    (fun _ h => nomatch h)
    (fun _ _ ihHead ihTail child h => by
      cases h with
      | head => exact ihHead
      | tail _ htail => exact ihTail child htail)

@[induction_eliminator]
theorem Attempt.induction {motive : Attempt → Prop}
    (literal : ∀ text chars, motive (.literal text chars))
    (char : ∀ test, motive (.char test))
    (sequence : ∀ children, (∀ child ∈ children, motive child.attempt) →
      motive (.sequence children))
    (alternation : ∀ children, (∀ child ∈ children, motive child.attempt) →
      motive (.alternation children))
    (nested : ∀ inner, motive inner.attempt → motive (.nested inner))
    (custom : ∀ answer, motive (.custom answer)) (attempt : Attempt) : motive attempt :=
  Matcher.induction (motive := fun matcher => motive matcher.attempt)
    (fun text chars _ => literal text chars) (fun test _ => char test)
    (fun children _ => sequence children) (fun children _ => alternation children)
    (fun inner _ => nested inner) (fun answer _ => custom answer) ⟨attempt, .zeroOrMore⟩

def SameOutcome (logged : List Char → Logged Outcome) (plain : List Char → Id Outcome) : Prop :=
  ∀ input, (logged input).value = plain input

theorem repeats_value {logged : List Char → Logged Outcome} {plain : List Char → Id Outcome}
    (h : SameOutcome logged plain) (quantifier : Quantifier) (recorded : Nat) (input : List Char) :
    (repeats quantifier logged recorded input).value =
      Id.run (repeats quantifier plain recorded input) := by
  fun_induction repeats quantifier plain recorded input with
  | case1 recorded => rw [repeats]; rfl
  | case2 recorded c rest hmore ih =>
    rw [repeats, if_pos hmore, Logged.value_bind, h]
    cases hstep : plain (c :: rest) with
    | fail => rfl
    | matched length capture =>
      cases length with
      | zero => rfl
      | succ length =>
        exact congrArg (fun found => (length + 1 + found.1, capture :: found.2)) (ih length)
  | case3 recorded c rest hmore => rw [repeats, if_neg hmore]; rfl

theorem repeated_value {logged : List Char → Logged Outcome} {plain : List Char → Id Outcome}
    (h : SameOutcome logged plain) (quantifier : Quantifier) :
    SameOutcome (repeated quantifier logged) (repeated quantifier plain) := by
  intro input
  have hrepeats := repeats_value h quantifier 0 input
  exact congrArg (fun found : Nat × List Capture => Outcome.ofRepeats quantifier found.1 found.2)
    hrepeats

theorem checked_value (size : Nat) (outcome : Outcome) :
    (checked size outcome : Logged Outcome).value = Id.run (checked size outcome) := by
  cases outcome with
  | fail => rfl
  | matched length capture =>
    by_cases hlen : size < length
    · simp only [checked, if_pos hlen]
      rfl
    · simp only [checked, if_neg hlen]
      rfl

theorem guarded_value {logged : List Char → Logged Outcome} {plain : List Char → Id Outcome}
    (h : SameOutcome logged plain) : SameOutcome (guarded logged) (guarded plain) := by
  intro input
  rw [guarded, Logged.value_bind, h]
  exact checked_value input.length (plain input)

theorem slots_value {logged : List (List Char → Logged Outcome)}
    {plain : List (List Char → Id Outcome)} (h : List.Forall₂ SameOutcome logged plain)
    (input : List Char) : (slots logged input).value = Id.run (slots plain input) := by
  induction h generalizing input with
  | nil => rfl
  | @cons loggedStep plainStep loggedSteps plainSteps head tail ih =>
    rw [slots, slots, Logged.value_bind, head]
    cases plainStep input with
    | fail => rfl
    | matched length capture => exact congrArg (withSlot length capture) (ih (input.drop length))

theorem inOrder_value {logged : List (List Char → Logged Outcome)}
    {plain : List (List Char → Id Outcome)} (h : List.Forall₂ SameOutcome logged plain) :
    SameOutcome (inOrder logged) (inOrder plain) := fun input =>
  congrArg Outcome.ofSlots (slots_value h input)

theorem firstMatch_value {logged : List (List Char → Logged Outcome)}
    {plain : List (List Char → Id Outcome)} (h : List.Forall₂ SameOutcome logged plain) :
    SameOutcome (firstMatch logged) (firstMatch plain) := by
  induction h with
  | nil => exact fun _ => rfl
  | @cons loggedStep plainStep loggedSteps plainSteps head tail ih =>
    intro input
    rw [firstMatch, firstMatch, Logged.value_bind, head]
    cases plainStep input with
    | fail => exact ih input
    | matched length capture => rfl

theorem Matcher.value_of_attempt {matcher : Matcher}
    (h : SameOutcome matcher.attempt.run matcher.attempt.run) :
    SameOutcome matcher.run matcher.run := by
  obtain ⟨attempt, quantifier⟩ := matcher
  exact repeated_value h quantifier

theorem runAll_value {children : List Matcher}
    (h : ∀ child ∈ children, SameOutcome child.attempt.run child.attempt.run) :
    List.Forall₂ SameOutcome (runAll children) (runAll children) := by
  rw [runAll_eq_map, runAll_eq_map, List.forall₂_map_left_iff, List.forall₂_map_right_iff]
  exact List.forall₂_same.mpr fun child hmem => Matcher.value_of_attempt (h child hmem)

theorem Attempt.value_run (attempt : Attempt) (input : List Char) :
    (attempt.run input : Logged Outcome).value = attempt.outcome input := by
  induction attempt generalizing input with
  | literal text chars => rfl
  | char test => rfl
  | sequence children ih => exact inOrder_value (runAll_value ih) input
  | alternation children ih => exact firstMatch_value (runAll_value ih) input
  | nested inner ih => exact guarded_value (Matcher.value_of_attempt ih) input
  | custom answer => exact guarded_value (fun _ => rfl) input

/-- The log changes no outcome. -/
theorem Matcher.value_run (matcher : Matcher) (input : List Char) :
    (matcher.run input : Logged Outcome).value = matcher.outcome input :=
  Matcher.value_of_attempt matcher.attempt.value_run input

end GreedyMatch
